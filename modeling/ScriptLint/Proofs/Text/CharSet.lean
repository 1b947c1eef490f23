import Mathlib.Data.List.Chain
import ScriptLint.Text.CharSet

namespace ScriptLint.Text.CharSet

/-! What sets of characters hold. Their ranges begin in increasing order, and the
operations on sets keep it so; a search that stops at the first range above a number then
misses nothing. -/

variable {n start : Nat} {r : Nat × Nat} {rs ss : List (Nat × Nat)} {s t : CharSet}

def Covers (rs : List (Nat × Nat)) (n : Nat) : Prop := ∃ r ∈ rs, r.1 ≤ n ∧ n ≤ r.2

structure Ordered (rs : List (Nat × Nat)) : Prop where
  starts : rs.Pairwise fun r s => r.1 ≤ s.1
  nonempty : ∀ r ∈ rs, r.1 ≤ r.2

@[simp] theorem covers_nil : ¬ Covers [] n := by
  rintro ⟨r, hr, -⟩
  cases hr

@[simp] theorem covers_cons : Covers (r :: rs) n ↔ (r.1 ≤ n ∧ n ≤ r.2) ∨ Covers rs n := by
  simp [Covers]

theorem ordered_cons :
    Ordered (r :: rs) ↔ (∀ s ∈ rs, r.1 ≤ s.1) ∧ r.1 ≤ r.2 ∧ Ordered rs := by
  constructor
  · rintro ⟨hstarts, hnonempty⟩
    obtain ⟨hfirst, hstarts⟩ := List.pairwise_cons.mp hstarts
    obtain ⟨hr, hnonempty⟩ := List.forall_mem_cons.mp hnonempty
    exact ⟨hfirst, hr, hstarts, hnonempty⟩
  · rintro ⟨hfirst, hr, hstarts, hnonempty⟩
    exact ⟨List.pairwise_cons.mpr ⟨hfirst, hstarts⟩,
      List.forall_mem_cons.mpr ⟨hr, hnonempty⟩⟩

theorem not_covers_of_lt (hrs : ∀ r ∈ rs, start ≤ r.1)
    (hn : n < start) : ¬ Covers rs n := by
  rintro ⟨r, hr, hle, -⟩
  exact Nat.not_le.mpr hn ((hrs r hr).trans hle)

theorem holds_iff (h : Ordered rs) : holds n rs = true ↔ Covers rs n := by
  induction rs with
  | nil => simp [holds]
  | cons r rs ih =>
      obtain ⟨hfirst, -, hrs⟩ := ordered_cons.mp h
      rw [holds, covers_cons]
      split
      · next hlt =>
          have hnot : ¬ Covers rs n := not_covers_of_lt hfirst hlt
          simp only [Bool.false_eq_true, hnot, or_false, false_iff, not_and]
          omega
      · next hge =>
          split
          · next hle => simp [hle, Nat.le_of_not_lt hge]
          · next hgt => rw [ih hrs]; simp [hgt]

/-! ### Union -/

theorem merge_eq (rs ss : List (Nat × Nat)) :
    merge rs ss = List.merge rs ss fun r s => decide (r.1 ≤ s.1) := by
  induction rs generalizing ss with
  | nil => rw [List.nil_merge, merge, id]
  | cons r rs ih =>
      rw [merge]
      induction ss with
      | nil => rw [mergeRange, ih, List.merge_right, List.merge_right]
      | cons s ss ihs =>
          rw [mergeRange, List.cons_merge_cons, ih, ihs]
          simp only [decide_eq_true_eq]

theorem covers_merge : Covers (merge rs ss) n ↔ Covers rs n ∨ Covers ss n := by
  simp only [Covers, merge_eq, List.mem_merge, or_and_right, exists_or]

theorem ordered_merge (hrs : Ordered rs) (hss : Ordered ss) : Ordered (merge rs ss) := by
  rw [merge_eq]
  constructor
  · let le (r s : Nat × Nat) : Bool := decide (r.1 ≤ s.1)
    have htrans (r s t : Nat × Nat) (hrs : le r s = true) (hst : le s t = true) :
        le r t = true := by
      simp only [le, decide_eq_true_eq] at *
      exact hrs.trans hst
    have htotal (r s : Nat × Nat) : (le r s || le s r) = true := by
      simp only [le, Bool.or_eq_true, decide_eq_true_eq]
      exact Nat.le_total _ _
    have hmerge := List.pairwise_merge htrans htotal rs ss
      (by simpa [le] using hrs.starts) (by simpa [le] using hss.starts)
    simpa [le] using hmerge
  · intro r hr
    rcases List.mem_merge.mp hr with hr | hr
    · exact hrs.nonempty r hr
    · exact hss.nonempty r hr

theorem covers_join (h : Ordered (r :: rs)) :
    Covers (join r rs) n ↔ Covers (r :: rs) n := by
  induction rs generalizing r with
  | nil => rfl
  | cons s rs ih =>
      obtain ⟨hfirst, hr, hs⟩ := ordered_cons.mp h
      obtain ⟨hsecond, hs', hrs⟩ := ordered_cons.mp hs
      obtain ⟨hle, hfirst⟩ := List.forall_mem_cons.mp hfirst
      rw [join]
      split
      · rw [covers_cons, ih hs, covers_cons (r := r)]
      · next htouch =>
          have hjoined : Ordered ((r.1, max r.2 s.2) :: rs) :=
            ordered_cons.mpr ⟨hfirst, hr.trans (Nat.le_max_left _ _), hrs⟩
          rw [ih hjoined]
          simp only [covers_cons, ← or_assoc]
          refine or_congr_left ?_
          omega

theorem ordered_join (h : Ordered (r :: rs)) :
    Ordered (join r rs) ∧ ∀ s ∈ join r rs, r.1 ≤ s.1 := by
  induction rs generalizing r with
  | nil => exact ⟨h, by simp [join]⟩
  | cons s rs ih =>
      obtain ⟨hfirst, hr, hs⟩ := ordered_cons.mp h
      obtain ⟨-, -, hrs⟩ := ordered_cons.mp hs
      obtain ⟨hle, hfirst⟩ := List.forall_mem_cons.mp hfirst
      rw [join]
      split
      · obtain ⟨hjoin, hstarts⟩ := ih hs
        have hall : ∀ s' ∈ join s rs, r.1 ≤ s'.1 :=
          fun s' hs' => hle.trans (hstarts s' hs')
        exact ⟨ordered_cons.mpr ⟨hall, hr, hjoin⟩,
          List.forall_mem_cons.mpr ⟨Nat.le_refl _, hall⟩⟩
      · exact ih (ordered_cons.mpr ⟨hfirst, hr.trans (Nat.le_max_left _ _), hrs⟩)

theorem covers_coalesce (h : Ordered rs) : Covers (coalesce rs) n ↔ Covers rs n := by
  cases rs with
  | nil => rfl
  | cons r rs => exact covers_join h

theorem ordered_coalesce (h : Ordered rs) : Ordered (coalesce rs) := by
  cases rs with
  | nil => exact h
  | cons r rs => exact (ordered_join h).1

/-! ### Complement -/

theorem covers_gaps (h : Ordered rs) (hn : n ≤ maxScalar) :
    Covers (gaps start rs) n ↔ start ≤ n ∧ ¬ Covers rs n := by
  induction rs generalizing start with
  | nil =>
      rw [gaps]
      split
      · simp [hn]
      · simp only [covers_nil, false_iff, not_and]
        omega
  | cons r rs ih =>
      obtain ⟨hfirst, hr, hrs⟩ := ordered_cons.mp h
      obtain ⟨lo, hi⟩ := r
      rw [gaps]
      split
      · next hlt =>
          rw [covers_cons, ih hrs, covers_cons]
          have hbelow : n < lo → ¬ Covers rs n := not_covers_of_lt hfirst
          simp only at hr ⊢
          constructor
          · rintro (⟨hstart, hn⟩ | ⟨hgt, hnot⟩)
            · exact ⟨hstart, not_or.mpr ⟨by omega, hbelow (by omega)⟩⟩
            · exact ⟨by omega, not_or.mpr ⟨by omega, hnot⟩⟩
          · rintro ⟨hstart, hnot⟩
            obtain ⟨hout, hnot⟩ := not_or.mp hnot
            by_cases hn : n < lo
            · exact .inl ⟨hstart, by omega⟩
            · exact .inr ⟨by omega, hnot⟩
      · rw [ih hrs, covers_cons, not_or, ← and_assoc]
        refine and_congr_left fun _ => ?_
        simp only
        omega

theorem ordered_gaps (start : Nat) (h : Ordered rs) :
    Ordered (gaps start rs) ∧ ∀ s ∈ gaps start rs, start ≤ s.1 := by
  induction rs generalizing start with
  | nil =>
      rw [gaps]
      split
      · next hle => exact ⟨ordered_cons.mpr ⟨by simp, hle, ⟨.nil, by simp⟩⟩, by simp⟩
      · exact ⟨⟨.nil, by simp⟩, by simp⟩
  | cons r rs ih =>
      obtain ⟨-, hr, hrs⟩ := ordered_cons.mp h
      obtain ⟨lo, hi⟩ := r
      simp only at hr
      rw [gaps]
      split
      · next hlt =>
          obtain ⟨hgaps, hstarts⟩ := ih (hi + 1) hrs
          have hall : ∀ s ∈ gaps (hi + 1) rs, start ≤ s.1 := fun s hs => by
            have := hstarts s hs
            omega
          exact ⟨ordered_cons.mpr ⟨hall, by simp only; omega, hgaps⟩,
            List.forall_mem_cons.mpr ⟨Nat.le_refl _, hall⟩⟩
      · obtain ⟨hgaps, hstarts⟩ := ih (max start (hi + 1)) hrs
        exact ⟨hgaps, fun s hs => (Nat.le_max_left _ _).trans (hstarts s hs)⟩

/-! ### Sets -/

def IsOrdered (s : CharSet) : Prop := Ordered s.ranges

theorem isOrdered_of_isChain (hstarts : s.ranges.IsChain fun r s => r.1 ≤ s.1)
    (hnonempty : ∀ r ∈ s.ranges, r.1 ≤ r.2) : s.IsOrdered :=
  ⟨List.isChain_iff_pairwise.mp hstarts, hnonempty⟩

theorem isOrdered_empty : empty.IsOrdered := ⟨.nil, by simp [empty]⟩

theorem isOrdered_single (c : Char) : (single c).IsOrdered :=
  ⟨List.pairwise_singleton _ _, by simp [single, range]⟩

theorem IsOrdered.union (hs : s.IsOrdered) (ht : t.IsOrdered) : (s.union t).IsOrdered :=
  ordered_coalesce (ordered_merge hs ht)

theorem IsOrdered.complement (hs : s.IsOrdered) : s.complement.IsOrdered :=
  (ordered_gaps 0 hs).1

@[simp] theorem contains_empty (c : Char) : empty.contains c = false := rfl

@[simp] theorem contains_single (c d : Char) : (single c).contains d = true ↔ d = c := by
  simp only [contains, mem, single, range, holds]
  rw [← Char.toNat_inj]
  split
  · simp only [Bool.false_eq_true, false_iff]
    omega
  · split
    · simp only [true_iff]
      omega
    · simp only [Bool.false_eq_true, false_iff]
      omega

theorem contains_union (hs : s.IsOrdered) (ht : t.IsOrdered) (c : Char) :
    (s.union t).contains c = true ↔ s.contains c = true ∨ t.contains c = true := by
  have hmerge := ordered_merge hs ht
  rw [contains, mem, holds_iff (hs.union ht), union, covers_coalesce hmerge, covers_merge,
    contains, mem, holds_iff hs, contains, mem, holds_iff ht]

theorem toNat_le_maxScalar (c : Char) : c.toNat ≤ maxScalar := by
  have hvalid := c.valid
  have htoNat : c.toNat = c.val.toNat := rfl
  simp only [UInt32.isValidChar, Nat.isValidChar] at hvalid
  rw [htoNat, maxScalar]
  omega

theorem contains_complement (hs : s.IsOrdered) (c : Char) :
    s.complement.contains c = true ↔ ¬ s.contains c = true := by
  rw [contains, mem, holds_iff hs.complement, complement,
    covers_gaps hs (toNat_le_maxScalar c), contains, mem, holds_iff hs]
  exact and_iff_right (Nat.zero_le _)

end ScriptLint.Text.CharSet
