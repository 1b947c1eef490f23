import ScriptLint.Proofs.Text.Mark
import ScriptLint.Text.Lines

namespace ScriptLint.Text

/-! Where the lines of a text stand in it. -/

variable {cs line rest piece before source : List Char} {k : Nat}

/-- The parts of a text up to each line feed. -/
def pieces : List Char → List (List Char)
  | [] => []
  | c :: cs =>
      if c = '\n' then [c] :: pieces cs
      else
        match pieces cs with
        | [] => [[c]]
        | piece :: rest => (c :: piece) :: rest

def lineOf (piece : List Char) : List Char :=
  if piece.getLast? = some '\n' then dropReturn piece.dropLast else piece

theorem flatten_pieces (cs : List Char) : (pieces cs).flatten = cs := by
  induction cs with
  | nil => rfl
  | cons c cs ih =>
      unfold pieces
      split
      · rw [List.flatten_cons, ih, List.singleton_append]
      · split
        · next hnil => simpa [hnil] using ih
        · next piece rest hcons => simpa [hcons] using ih

theorem pieces_of_not_mem (hne : cs ≠ []) (h : '\n' ∉ cs) : pieces cs = [cs] := by
  induction cs with
  | nil => exact absurd rfl hne
  | cons c cs ih =>
      rw [List.mem_cons, not_or] at h
      rw [pieces, if_neg (Ne.symm h.1)]
      by_cases hcs : cs = []
      · rw [hcs]
        rfl
      · rw [ih hcs h.2]

theorem pieces_append_feed (h : '\n' ∉ line) (rest : List Char) :
    pieces (line ++ '\n' :: rest) = (line ++ ['\n']) :: pieces rest := by
  induction line with
  | nil => rfl
  | cons c line ih =>
      rw [List.mem_cons, not_or] at h
      rw [List.cons_append, pieces, if_neg (Ne.symm h.1), ih h.2]
      rfl

theorem splitLine_none (h : splitLine cs = (line, none)) : line = cs ∧ '\n' ∉ cs := by
  induction cs generalizing line with
  | nil => simp_all [splitLine]
  | cons c cs ih =>
      by_cases hc : c = '\n'
      · simp [splitLine, hc] at h
      · simp only [splitLine, if_neg hc, Prod.mk.injEq] at h
        obtain ⟨hline, hmem⟩ := ih (Prod.ext rfl h.2)
        refine ⟨h.1.symm.trans (congrArg (c :: ·) hline), ?_⟩
        rw [List.mem_cons, not_or]
        exact ⟨Ne.symm hc, hmem⟩

theorem splitLine_some (h : splitLine cs = (line, some rest)) :
    cs = line ++ '\n' :: rest ∧ '\n' ∉ line := by
  induction cs generalizing line with
  | nil => simp [splitLine] at h
  | cons c cs ih =>
      by_cases hc : c = '\n'
      · simp only [splitLine, if_pos hc, Prod.mk.injEq, Option.some.injEq] at h
        obtain ⟨rfl, rfl⟩ := h
        exact ⟨by rw [hc]; rfl, List.not_mem_nil⟩
      · simp only [splitLine, if_neg hc, Prod.mk.injEq] at h
        obtain ⟨hcs, hmem⟩ := ih (Prod.ext rfl h.2)
        rw [← h.1]
        refine ⟨congrArg (c :: ·) hcs, ?_⟩
        rw [List.mem_cons, not_or]
        exact ⟨Ne.symm hc, hmem⟩

theorem lineOf_of_not_mem (h : '\n' ∉ piece) : lineOf piece = piece :=
  if_neg fun hlast => h (List.mem_of_getLast? hlast)

theorem lineOf_append_feed (line : List Char) :
    lineOf (line ++ ['\n']) = dropReturn line := by
  simp [lineOf]

theorem dropReturn_begins (line : List Char) : dropReturn line <+: line := by
  unfold dropReturn
  split
  · exact List.dropLast_prefix line
  · exact List.prefix_rfl

theorem lineOf_begins (piece : List Char) : lineOf piece <+: piece := by
  unfold lineOf
  split
  · exact (dropReturn_begins _).trans (List.dropLast_prefix piece)
  · exact List.prefix_rfl

theorem lines_eq_map_pieces (cs : List Char) : lines cs = (pieces cs).map lineOf := by
  fun_induction lines cs with
  | case1 => rfl
  | case2 c cs line h =>
      obtain ⟨rfl, hmem⟩ := splitLine_none h
      rw [pieces_of_not_mem (List.cons_ne_nil c cs) hmem, List.map_singleton,
        lineOf_of_not_mem hmem]
  | case3 c cs line rest h ih =>
      obtain ⟨hcs, hmem⟩ := splitLine_some h
      rw [hcs, pieces_append_feed hmem, List.map_cons, lineOf_append_feed, ih]

theorem lines_of_not_mem (hne : cs ≠ []) (h : '\n' ∉ cs) : lines cs = [cs] := by
  rw [lines_eq_map_pieces, pieces_of_not_mem hne h, List.map_singleton,
    lineOf_of_not_mem h]

theorem feed_not_mem_of_mem_lines (h : line ∈ lines cs) : '\n' ∉ line := by
  fun_induction lines cs with
  | case1 => cases h
  | case2 c cs line' hsplit =>
      obtain ⟨rfl, hmem⟩ := splitLine_none hsplit
      rwa [List.mem_singleton.mp h]
  | case3 c cs line' rest hsplit ih =>
      rcases List.mem_cons.mp h with rfl | hrest
      · exact fun hmem => (splitLine_some hsplit).2 ((dropReturn_begins _).mem hmem)
      · exact ih hrest

/-- What stands before the line with a number, counted from 0. -/
def lineStart (source : List Char) (k : Nat) : List Char :=
  ((pieces source).take k).flatten

/-- Every piece but the last ends its line. -/
theorem count_lineStart (h : k < (pieces source).length) :
    (lineStart source k).count '\n' = k := by
  unfold lineStart
  induction source generalizing k with
  | nil => cases h
  | cons c cs ih =>
      cases k with
      | zero => rfl
      | succ k =>
          by_cases hc : c = '\n'
          · rw [pieces, if_pos hc] at h ⊢
            simp [ih (Nat.succ_lt_succ_iff.mp h), hc]
          · rw [pieces, if_neg hc] at h ⊢
            cases hcs : pieces cs with
            | nil => simp [hcs] at h
            | cons piece rest =>
                rw [hcs] at h ih
                have hcount := ih h
                -- The character only makes the first piece longer.
                simpa [hc] using hcount

theorem lineStart_append_begins (h : (lines source)[k]? = some line) :
    lineStart source k ++ line <+: source := by
  rw [lines_eq_map_pieces, List.getElem?_map, Option.map_eq_some_iff] at h
  obtain ⟨piece, hpiece, rfl⟩ := h
  obtain ⟨hk, rfl⟩ := List.getElem?_eq_some_iff.mp hpiece
  have hsource : lineStart source k ++ ((pieces source).drop k).flatten = source := by
    rw [lineStart, ← List.flatten_append, List.take_append_drop, flatten_pieces]
  rw [List.drop_eq_getElem_cons hk, List.flatten_cons] at hsource
  conv_rhs => rw [← hsource]
  exact (List.prefix_append_right_inj _).mpr
    ((lineOf_begins _).trans (List.prefix_append _ _))

/-- Before a place in a line there are as many line feeds as lines. -/
theorem count_of_mem_line (h : (lines source)[k]? = some line)
    (hbefore : before <+: source)
    (hstart : byteLength (lineStart source k) ≤ byteLength before)
    (hstop : byteLength before ≤ byteLength (lineStart source k) + byteLength line) :
    before.count '\n' = k := by
  have hprefix := lineStart_append_begins h
  obtain ⟨inner, rfl⟩ :=
    prefix_of_byteLength_le ((List.prefix_append _ _).trans hprefix) hbefore hstart
  rw [← byteLength_append] at hstop
  have hinner : inner <+: line :=
    (List.prefix_append_right_inj _).mp (prefix_of_byteLength_le hbefore hprefix hstop)
  have hfeed : '\n' ∉ inner := fun hmem =>
    feed_not_mem_of_mem_lines (List.mem_of_getElem? h) (hinner.mem hmem)
  have hk : k < (pieces source).length := by
    obtain ⟨hk, -⟩ := List.getElem?_eq_some_iff.mp h
    rwa [lines_eq_map_pieces, List.length_map] at hk
  rw [List.count_append, List.count_eq_zero.mpr hfeed, count_lineStart hk, Nat.add_zero]

end ScriptLint.Text
