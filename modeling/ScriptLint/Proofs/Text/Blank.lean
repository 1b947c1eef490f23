import Mathlib.Data.List.DropRight
import ScriptLint.Text.Blank

namespace ScriptLint.Text

/-! What is left of a text without the blanks around it. -/

variable {cs core front back : List Char}

def AllBlank (cs : List Char) : Prop := ∀ c ∈ cs, isBlank c = true

theorem allBlank_of_all (h : cs.all isBlank = true) : AllBlank cs := List.all_eq_true.mp h

/-- Whether a text is another one with blanks around it. -/
def Padded (core cs : List Char) : Prop :=
  ∃ front back, cs = front ++ core ++ back ∧ AllBlank front ∧ AllBlank back

structure IsTrimmed (cs : List Char) : Prop where
  head : ∀ c ∈ cs.head?, isBlank c = false
  last : ∀ c ∈ cs.getLast?, isBlank c = false

theorem isTrimmed_of_forall (h : ∀ c ∈ cs, isBlank c = false) : IsTrimmed cs where
  head c hc := h c (List.mem_of_head? hc)
  last c hc := h c (List.mem_of_getLast? hc)

theorem trimRight_eq_rdropWhile (cs : List Char) : trimRight cs = cs.rdropWhile isBlank :=
  rfl

theorem exists_trimLeft (cs : List Char) :
    ∃ front, cs = front ++ trimLeft cs ∧ AllBlank front := by
  refine ⟨cs.takeWhile isBlank, List.takeWhile_append_dropWhile.symm, ?_⟩
  intro c hc
  exact List.mem_takeWhile_imp hc

theorem exists_trimRight (cs : List Char) :
    ∃ back, cs = trimRight cs ++ back ∧ AllBlank back := by
  obtain ⟨front, hsplit, hfront⟩ := exists_trimLeft cs.reverse
  refine ⟨front.reverse, ?_, fun c hc => hfront c (List.mem_reverse.mp hc)⟩
  rw [trimRight, ← List.reverse_append, ← trimLeft, ← hsplit, List.reverse_reverse]

theorem padded_trim (cs : List Char) : Padded (trim cs) cs := by
  obtain ⟨front, hsplit, hfront⟩ := exists_trimLeft cs
  obtain ⟨back, hsplit', hback⟩ := exists_trimRight (trimLeft cs)
  refine ⟨front, back, ?_, hfront, hback⟩
  rw [trim, List.append_assoc, ← hsplit', ← hsplit]

theorem isTrimmed_trim (cs : List Char) : IsTrimmed (trim cs) where
  head := by
    intro c hc
    obtain ⟨back, hsplit, -⟩ := exists_trimRight (trimLeft cs)
    have hhead : (trimLeft cs).head? = some c := by
      rw [hsplit, List.head?_append, ← trim, hc]
      rfl
    have hnot := List.head?_dropWhile_not isBlank cs
    rw [← trimLeft, hhead] at hnot
    exact hnot
  last := by
    intro c hc
    rw [trim, trimRight_eq_rdropWhile] at hc
    have hne : (trimLeft cs).rdropWhile isBlank ≠ [] := by
      intro hnil
      rw [hnil] at hc
      cases hc
    rw [List.getLast?_eq_some_getLast hne] at hc
    cases hc
    exact Bool.eq_false_iff.mpr (List.rdropWhile_last_not isBlank _ hne)

theorem trimLeft_append (h : AllBlank front) : trimLeft (front ++ cs) = trimLeft cs :=
  List.dropWhile_append_of_pos h

theorem trimRight_append (cs : List Char) (h : AllBlank back) :
    trimRight (cs ++ back) = trimRight cs := by
  have hback : AllBlank back.reverse := fun c hc => h c (List.mem_reverse.mp hc)
  rw [trimRight, List.reverse_append, List.dropWhile_append_of_pos hback, ← trimRight]

theorem IsTrimmed.trim_eq (h : IsTrimmed cs) : trim cs = cs := by
  have hleft : trimLeft cs = cs := by
    rw [trimLeft, List.dropWhile_eq_self_iff]
    intro hlength
    have hhead := h.head _ (List.head?_eq_some_head (List.ne_nil_of_length_pos hlength))
    rw [List.head_eq_getElem] at hhead
    exact Bool.eq_false_iff.mp hhead
  rw [trim, hleft, trimRight_eq_rdropWhile, List.rdropWhile_eq_self_iff]
  intro hne
  exact Bool.eq_false_iff.mp (h.last _ (List.getLast?_eq_some_getLast hne))

theorem IsTrimmed.of_trim_eq (h : trim cs = cs) : IsTrimmed cs := h ▸ isTrimmed_trim cs

theorem trim_of_allBlank (h : AllBlank cs) : trim cs = [] := by
  rw [trim, ← List.append_nil cs, trimLeft_append h]
  rfl

/-- Blanks around a text that begins and ends without any are what is taken away. -/
theorem IsTrimmed.trim_of_padded (h : IsTrimmed core)
    (hcs : Padded core cs) : trim cs = core := by
  obtain ⟨front, back, rfl, hfront, hback⟩ := hcs
  cases core with
  | nil =>
      rw [List.append_nil]
      exact trim_of_allBlank (List.forall_mem_append.mpr ⟨hfront, hback⟩)
  | cons c core =>
      have hc : isBlank c = false := h.head c rfl
      calc trim (front ++ c :: core ++ back)
          = trimRight (c :: (core ++ back)) := by
            rw [trim, List.append_assoc, trimLeft_append hfront, trimLeft,
              List.cons_append, List.dropWhile_cons_of_neg (Bool.eq_false_iff.mp hc)]
        _ = trimRight (c :: core) := trimRight_append (c :: core) hback
        _ = trim (c :: core) := by
            rw [trim, trimLeft, List.dropWhile_cons_of_neg (Bool.eq_false_iff.mp hc)]
        _ = c :: core := h.trim_eq

theorem trim_eq_nil_iff : trim cs = [] ↔ AllBlank cs := by
  constructor
  · intro h
    obtain ⟨front, back, hcs, hfront, hback⟩ := padded_trim cs
    rw [hcs, h, List.append_nil]
    exact List.forall_mem_append.mpr ⟨hfront, hback⟩
  · exact trim_of_allBlank

theorem Padded.mem {c : Char} (h : Padded core cs) (hc : c ∈ core) : c ∈ cs := by
  obtain ⟨front, back, rfl, -, -⟩ := h
  simp [hc]

theorem Padded.not_mem {c : Char} (h : Padded core cs) (hc : isBlank c = false)
    (hcore : c ∉ core) : c ∉ cs := by
  obtain ⟨front, back, rfl, hfront, hback⟩ := h
  have hnot {blanks : List Char} (hblanks : AllBlank blanks) : c ∉ blanks := by
    intro hmem
    rw [hblanks c hmem] at hc
    cases hc
  simp [hnot hfront, hnot hback, hcore]

end ScriptLint.Text
