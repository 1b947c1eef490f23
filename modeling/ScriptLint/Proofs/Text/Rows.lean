import ScriptLint.Proofs.Text.Lines

namespace ScriptLint.Text

/-! The rows of a text: what stands between its line feeds, an empty last row included.
Every place that readers count lies in a row or at its end. -/

variable {a b before source line : List Char} {m : Mark}

def rowsOf (source : List Char) : List (List Char) := source.splitOn '\n'

theorem rowsOf_append_feed (a b : List Char) :
    rowsOf (a ++ '\n' :: b) = rowsOf a ++ rowsOf b :=
  List.splitOn_append_cons_self a b

theorem rowsOf_ne_nil (source : List Char) : rowsOf source ≠ [] := by
  simp [rowsOf, List.splitOn]

theorem rowsOf_cons (c : Char) (cs : List Char) :
    rowsOf (c :: cs) =
      if c = '\n' then [] :: rowsOf cs else (rowsOf cs).modifyHead (c :: ·) := by
  have hsplit := List.splitOnP_cons_eq_if_modifyHead (p := (· == '\n')) c cs
  simpa only [rowsOf, List.splitOn, beq_iff_eq] using hsplit

theorem rowsOf_append_of_not_mem (h : '\n' ∉ a) (b : List Char) :
    rowsOf (a ++ b) = (rowsOf b).modifyHead (a ++ ·) := by
  induction a with
  | nil => cases hb : rowsOf b <;> simp [hb]
  | cons c a ih =>
      rw [List.mem_cons, not_or] at h
      rw [List.cons_append, rowsOf_cons, if_neg (Ne.symm h.1), ih h.2]
      cases hb : rowsOf b <;> simp

/-- There is one row more than there are line feeds. -/
theorem length_rowsOf (source : List Char) :
    (rowsOf source).length = source.count '\n' + 1 := by
  induction source with
  | nil => rfl
  | cons c source ih =>
      rw [rowsOf_cons]
      split
      · next hc => rw [hc, List.length_cons, ih, List.count_cons_self]
      · next hc => rw [List.length_modifyHead, ih, List.count_cons_of_ne hc]

/-- What stands behind the last line feed of a beginning holds no line feed. -/
theorem openLine_cases (before : List Char) :
    '\n' ∉ openLine before ∧
      (before = openLine before ∨
        ∃ closed, before = closed ++ '\n' :: openLine before) := by
  induction before using List.reverseRecOn with
  | nil => exact ⟨List.not_mem_nil, .inl rfl⟩
  | append_singleton before c ih =>
      obtain ⟨hfeed, hsplit⟩ := ih
      rw [openLine_concat]
      split
      · next hc => exact ⟨List.not_mem_nil, .inr ⟨before, by rw [hc]⟩⟩
      · next hc =>
          refine ⟨by simp [hfeed, Ne.symm hc], ?_⟩
          rcases hsplit with hwhole | ⟨closed, hclosed⟩
          · exact .inl (congrArg (· ++ [c]) hwhole)
          · refine .inr ⟨closed, ?_⟩
            rw [← List.cons_append, ← List.append_assoc, ← hclosed]

/-- A place lies in the row with the number of its line feeds, behind what its line begins
with. -/
theorem exists_row_of_begins (h : before <+: source) :
    ∃ row, (rowsOf source)[before.count '\n']? = some row ∧ openLine before <+: row := by
  obtain ⟨rest, rfl⟩ := h
  obtain ⟨hfeed, hsplit⟩ := openLine_cases before
  have hrow : ∃ row, (rowsOf (openLine before ++ rest))[0]? = some row ∧
      openLine before <+: row := by
    rw [rowsOf_append_of_not_mem hfeed]
    cases hrest : rowsOf rest with
    | nil => exact absurd hrest (rowsOf_ne_nil rest)
    | cons row rows => exact ⟨openLine before ++ row, rfl, List.prefix_append _ _⟩
  rcases hsplit with hwhole | ⟨closed, hclosed⟩
  · have hcount : before.count '\n' = 0 := by
      rw [hwhole]
      exact List.count_eq_zero.mpr hfeed
    rw [hcount]
    rwa [← hwhole] at hrow ⊢
  · have hcount : before.count '\n' = (rowsOf closed).length := by
      conv_lhs => rw [hclosed]
      rw [List.count_append, List.count_cons_self, List.count_eq_zero.mpr hfeed,
        length_rowsOf]
    have hsource : before ++ rest = closed ++ '\n' :: (openLine before ++ rest) := by
      rw [← List.cons_append, ← List.append_assoc, ← hclosed]
    rw [hcount, hsource, rowsOf_append_feed, List.getElem?_append_right (Nat.le_refl _),
      Nat.sub_self]
    exact hrow

end ScriptLint.Text
