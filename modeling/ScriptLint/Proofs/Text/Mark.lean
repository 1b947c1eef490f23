import Mathlib.Data.List.DropRight
import ScriptLint.Text.Mark

namespace ScriptLint.Text

/-! Marks and the texts before them. -/

variable {a b c before before' source : List Char} {m m' : Mark}

@[simp] theorem byteLength_nil : byteLength [] = 0 := rfl

@[simp] theorem byteLength_cons (x : Char) (cs : List Char) :
    byteLength (x :: cs) = x.utf8Size + byteLength cs := rfl

@[simp] theorem byteLength_append (a b : List Char) :
    byteLength (a ++ b) = byteLength a + byteLength b := by
  induction a with
  | nil => simp
  | cons x a ih => simp [ih, Nat.add_assoc]

theorem length_le_byteLength (a : List Char) : a.length ≤ byteLength a := by
  induction a with
  | nil => exact Nat.le_refl 0
  | cons x a ih =>
      have hx := x.utf8Size_pos
      simp only [List.length_cons, byteLength_cons]
      omega

theorem byteLength_mono (h : a <+: b) : byteLength a ≤ byteLength b := by
  obtain ⟨c, rfl⟩ := h
  rw [byteLength_append]
  exact Nat.le_add_right _ _

/-- Of two beginnings of a text the one with fewer bytes begins the other. -/
theorem prefix_of_byteLength_le (ha : a <+: source) (hb : b <+: source)
    (hle : byteLength a ≤ byteLength b) : a <+: b := by
  rcases List.prefix_or_prefix_of_prefix ha hb with h | ⟨c, rfl⟩
  · exact h
  · have hlength := length_le_byteLength c
    rw [byteLength_append] at hle
    obtain rfl := List.length_eq_zero_iff.mp (show c.length = 0 by omega)
    exact ⟨[], by rw [List.append_nil, List.append_nil]⟩

theorem eq_of_byteLength_eq (ha : a <+: source) (hb : b <+: source)
    (h : byteLength a = byteLength b) : a = b :=
  (prefix_of_byteLength_le ha hb h.le).eq_of_length_le
    (prefix_of_byteLength_le hb ha h.ge).length_le

theorem dropBytes?_cons (x : Char) (cs : List Char) (n : Nat) :
    dropBytes? (x :: cs) (x.utf8Size + n) = dropBytes? cs n := by
  obtain ⟨k, hk⟩ := Nat.exists_eq_add_one.mpr x.utf8Size_pos
  have hsize : x.utf8Size + n = k + n + 1 := by omega
  have hrest : k + n + 1 - x.utf8Size = n := by omega
  rw [hsize, dropBytes?, if_pos (hsize ▸ Nat.le_add_right _ _), hrest]

theorem takeBytes?_cons (x : Char) (cs : List Char) (n : Nat) :
    takeBytes? (x :: cs) (x.utf8Size + n) = (takeBytes? cs n).map (x :: ·) := by
  obtain ⟨k, hk⟩ := Nat.exists_eq_add_one.mpr x.utf8Size_pos
  have hsize : x.utf8Size + n = k + n + 1 := by omega
  have hrest : k + n + 1 - x.utf8Size = n := by omega
  rw [hsize, takeBytes?, if_pos (hsize ▸ Nat.le_add_right _ _), hrest]

theorem dropBytes?_append (a b : List Char) :
    dropBytes? (a ++ b) (byteLength a) = some b := by
  induction a with
  | nil => cases b <;> rfl
  | cons x a ih => rw [List.cons_append, byteLength_cons, dropBytes?_cons, ih]

theorem takeBytes?_append (a b : List Char) :
    takeBytes? (a ++ b) (byteLength a) = some a := by
  induction a with
  | nil => cases b <;> rfl
  | cons x a ih =>
      rw [List.cons_append, byteLength_cons, takeBytes?_cons, ih, Option.map_some]

theorem slice?_append (a b c : List Char) :
    slice? (a ++ b ++ c) (byteLength a) (byteLength (a ++ b)) = some b := by
  have hle : byteLength a ≤ byteLength (a ++ b) := by simp
  have hsize : byteLength (a ++ b) - byteLength a = byteLength b := by simp
  rw [slice?, if_pos hle, List.append_assoc, dropBytes?_append, Option.bind_some, hsize,
    takeBytes?_append]

/-! ### Parts of a part -/

theorem dropBytes?_append_add (a b : List Char) (n : Nat) :
    dropBytes? (a ++ b) (byteLength a + n) = dropBytes? b n := by
  induction a with
  | nil => rw [List.nil_append, byteLength_nil, Nat.zero_add]
  | cons x a ih =>
      rw [List.cons_append, byteLength_cons, Nat.add_assoc, dropBytes?_cons, ih]

theorem dropBytes?_append_of_le {n : Nat} (h : n ≤ byteLength a) :
    dropBytes? (a ++ b) n = (dropBytes? a n).map (· ++ b) := by
  induction a generalizing n with
  | nil =>
      obtain rfl : n = 0 := Nat.le_zero.mp h
      cases b <;> rfl
  | cons x a ih =>
      cases n with
      | zero => rfl
      | succ n =>
          rw [byteLength_cons] at h
          rw [List.cons_append, dropBytes?, dropBytes?]
          split
          · exact ih (by omega)
          · rfl

theorem takeBytes?_append_of_le {n : Nat} (h : n ≤ byteLength a) :
    takeBytes? (a ++ b) n = takeBytes? a n := by
  induction a generalizing n with
  | nil =>
      obtain rfl : n = 0 := Nat.le_zero.mp h
      cases b <;> rfl
  | cons x a ih =>
      cases n with
      | zero => rfl
      | succ n =>
          rw [byteLength_cons] at h
          rw [List.cons_append, takeBytes?, takeBytes?]
          split
          · rw [ih (by omega)]
          · rfl

theorem byteLength_of_dropBytes? {n : Nat} (h : dropBytes? a n = some b) :
    n + byteLength b = byteLength a := by
  induction a generalizing n with
  | nil =>
      cases n with
      | zero =>
          obtain rfl := Option.some.inj h
          rfl
      | succ n => cases h
  | cons x a ih =>
      cases n with
      | zero =>
          obtain rfl := Option.some.inj h
          exact Nat.zero_add _
      | succ n =>
          rw [dropBytes?] at h
          split at h
          · have hrest := ih h
            rw [byteLength_cons]
            omega
          · cases h

/-- What lies in a part of a text is cut out of the part. -/
theorem slice?_append_append {i j : Nat} (h : j ≤ byteLength b) :
    slice? (a ++ b ++ c) (byteLength a + i) (byteLength a + j) = slice? b i j := by
  by_cases hle : i ≤ j
  · have hsize : byteLength a + j - (byteLength a + i) = j - i := by omega
    rw [slice?, slice?, if_pos (Nat.add_le_add_left hle _), if_pos hle, hsize,
      List.append_assoc, dropBytes?_append_add,
      dropBytes?_append_of_le (Nat.le_trans hle h)]
    cases hdrop : dropBytes? b i with
    | none => rfl
    | some rest =>
        have hlength := byteLength_of_dropBytes? hdrop
        rw [Option.map_some, Option.bind_some, Option.bind_some,
          takeBytes?_append_of_le (by omega)]
  · rw [slice?, slice?, if_neg (by omega), if_neg hle]

/-- The end of a text behind its last line end. -/
def openLine (before : List Char) : List Char := before.rtakeWhile (· ≠ '\n')

theorem openLine_concat (before : List Char) (x : Char) :
    openLine (before ++ [x]) = if x = '\n' then [] else openLine before ++ [x] := by
  by_cases hx : x = '\n' <;> simp [openLine, hx]

theorem openLine_append (h : '\n' ∉ b) : openLine (a ++ b) = openLine a ++ b := by
  induction b using List.reverseRecOn with
  | nil => simp
  | append_singleton b x ih =>
      rw [List.mem_append, List.mem_singleton, not_or] at h
      rw [← List.append_assoc, openLine_concat, if_neg (Ne.symm h.2), ih h.1,
        List.append_assoc]

theorem openLine_append_of_mem (h : '\n' ∈ b) : openLine (a ++ b) = openLine b := by
  induction b using List.reverseRecOn with
  | nil => cases h
  | append_singleton b x ih =>
      rw [← List.append_assoc, openLine_concat, openLine_concat]
      by_cases hx : x = '\n'
      · rw [if_pos hx, if_pos hx]
      · have hb : '\n' ∈ b :=
          (List.mem_append.mp h).resolve_right fun hin =>
            hx (List.mem_singleton.mp hin).symm
        rw [if_neg hx, if_neg hx, ih hb]

namespace Mark

/-- The mark of the place behind a text. -/
structure Follows (m : Mark) (before : List Char) : Prop where
  byte : m.byte = byteLength before
  row : m.row = before.count '\n'
  column : m.column = byteLength (openLine before)

theorem follows_origin : origin.Follows [] := ⟨rfl, rfl, rfl⟩

theorem Follows.advance (hm : m.Follows before) (x : Char) :
    (m.advance x).Follows (before ++ [x]) := by
  obtain ⟨hbyte, hrow, hcolumn⟩ := hm
  by_cases hx : x = '\n'
  · subst hx
    constructor <;> simp [Mark.advance, openLine_concat, hbyte, hrow]
  · constructor <;> simp [Mark.advance, openLine_concat, hx, hbyte, hrow, hcolumn]

theorem follows_after (before : List Char) : (after before).Follows before := by
  induction before using List.reverseRecOn with
  | nil => exact follows_origin
  | append_singleton before x ih =>
      rw [after, List.foldl_append]
      exact ih.advance x

/-- The line before the mark is what is cut out of the source. -/
theorem Follows.slice?_eq (hm : m.Follows before) (hbefore : before <+: source) :
    slice? source (m.byte - m.column) m.byte = some (openLine before) := by
  obtain ⟨rest, rfl⟩ := hbefore
  have hsplit : before.rdropWhile (· ≠ '\n') ++ openLine before = before :=
    List.rdropWhile_append_rtakeWhile
  have hstart : m.byte - m.column = byteLength (before.rdropWhile (· ≠ '\n')) := by
    have hlength := congrArg byteLength hsplit
    rw [byteLength_append] at hlength
    rw [hm.byte, hm.column]
    omega
  have hslice := slice?_append (before.rdropWhile (· ≠ '\n')) (openLine before) rest
  rw [hsplit] at hslice
  rw [hstart, hm.byte]
  exact hslice

end Mark

namespace Location

theorem ofMark_of_follows (hm : m.Follows before) (hbefore : before <+: source) :
    ofMark source m = ⟨before.count '\n' + 1, (openLine before).length + 1⟩ := by
  rw [ofMark, hm.slice?_eq hbefore, hm.row]

/-- Whether a place stands before another as one reads: on an earlier line, or further
left. -/
def Precedes (l l' : Location) : Prop :=
  l.line < l'.line ∨ l.line = l'.line ∧ l.column < l'.column

theorem Precedes.asymm {l l' : Location} (h : l.Precedes l') : ¬ l'.Precedes l := by
  unfold Precedes at *
  omega

/-- Reading on leads to a later place. -/
theorem precedes_of_follows {x : Char} (hm : m.Follows before)
    (hm' : m'.Follows (before ++ x :: c)) (hbefore : before ++ x :: c <+: source) :
    (ofMark source m).Precedes (ofMark source m') := by
  rw [ofMark_of_follows hm ((List.prefix_append _ _).trans hbefore),
    ofMark_of_follows hm' hbefore]
  by_cases hend : '\n' ∈ x :: c
  · have hcount := List.count_pos_iff.mpr hend
    left
    simp only [List.count_append]
    omega
  · right
    constructor
    · simp only [List.count_append, List.count_eq_zero.mpr hend, Nat.add_zero]
    · simp [openLine_append hend]

theorem precedes_of_byte_lt (hm : m.Follows before) (hm' : m'.Follows before')
    (hbefore : before <+: source) (hbefore' : before' <+: source)
    (hlt : m.byte < m'.byte) : (ofMark source m).Precedes (ofMark source m') := by
  rw [hm.byte, hm'.byte] at hlt
  obtain ⟨between, rfl⟩ := prefix_of_byteLength_le hbefore hbefore' hlt.le
  cases between with
  | nil => simp at hlt
  | cons x c => exact precedes_of_follows hm hm' hbefore'

theorem precedes_iff (hm : m.Follows before) (hm' : m'.Follows before')
    (hbefore : before <+: source) (hbefore' : before' <+: source) :
    (ofMark source m).Precedes (ofMark source m') ↔ m.byte < m'.byte := by
  constructor
  · intro hprecedes
    rcases Nat.lt_trichotomy m.byte m'.byte with hlt | heq | hgt
    · exact hlt
    · rw [hm.byte, hm'.byte] at heq
      obtain rfl := eq_of_byteLength_eq hbefore hbefore' heq
      rw [ofMark_of_follows hm hbefore, ofMark_of_follows hm' hbefore'] at hprecedes
      exact absurd hprecedes hprecedes.asymm
    · exact absurd hprecedes (precedes_of_byte_lt hm' hm hbefore' hbefore hgt).asymm
  · exact precedes_of_byte_lt hm hm' hbefore hbefore'

end Location

end ScriptLint.Text
