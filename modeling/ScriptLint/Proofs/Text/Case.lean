import ScriptLint.Text.Blank
import ScriptLint.Text.Case

namespace ScriptLint.Text

/-! Letter case: the letters of the alphabet, and characters that are the lower case of no
other. -/

variable {c : Char}

/-! ### Letters of the alphabet -/

theorem forall_of_isLower {P : Char → Prop} (h : ∀ i < 26, P (Char.ofNat ('a'.toNat + i)))
    (hc : c.isLower = true) : P c := by
  have hbounds : (decide ('a'.val ≤ c.val) && decide (c.val ≤ 'z'.val)) = true := hc
  have hrange : 'a'.toNat ≤ c.toNat ∧ c.toNat ≤ 'z'.toNat := by
    simpa [UInt32.le_iff_toNat_le] using hbounds
  have hlast : 'z'.toNat = 'a'.toNat + 25 := rfl
  have hP := h (c.toNat - 'a'.toNat) (by omega)
  rwa [Nat.add_sub_cancel' hrange.1, Char.ofNat_toNat] at hP

/-- A small letter and its capital. -/
structure IsLetterPair (small capital : Char) : Prop where
  isSmall : isLowercase small = true ∧ isUppercase small = false
  isCapital : isUppercase capital = true ∧ isLowercase capital = false
  lowered : lowercase capital = [small]

theorem isLetterPair_toUpper (hc : c.isLower = true) : IsLetterPair c c.toUpper := by
  have hall : ∀ i < 26, let a := Char.ofNat ('a'.toNat + i)
      (isLowercase a = true ∧ isUppercase a = false) ∧
        (isUppercase a.toUpper = true ∧ isLowercase a.toUpper = false) ∧
          lowercase a.toUpper = [a] := by
    decide +kernel
  obtain ⟨hsmall, hcapital, hlowercase⟩ := forall_of_isLower (P := fun c =>
    (isLowercase c = true ∧ isUppercase c = false) ∧
      (isUppercase c.toUpper = true ∧ isLowercase c.toUpper = false) ∧
        lowercase c.toUpper = [c]) hall hc
  exact ⟨hsmall, hcapital, hlowercase⟩

theorem ne_underscore_of_isLower (hc : c.isLower = true) : c ≠ '_' := by
  intro h
  subst h
  cases hc

/-! ### What is the lower case of nothing else -/

def blankNumbers : List Nat :=
  [9, 10, 11, 12, 13, 0x20, 0x85, 0xA0, 0x1680, 0x2000, 0x2001, 0x2002, 0x2003,
    0x2004, 0x2005,
    0x2006, 0x2007, 0x2008, 0x2009, 0x200A, 0x2028, 0x2029, 0x202F, 0x205F, 0x3000]

theorem toNat_mem_blankNumbers (hc : isBlank c = true) : c.toNat ∈ blankNumbers := by
  simp only [isBlank, Bool.or_eq_true, Bool.and_eq_true, decide_eq_true_eq,
    beq_iff_eq] at hc
  simp only [blankNumbers, List.mem_cons, List.not_mem_nil, or_false]
  omega

theorem lowercase_eq_self (hc : c.toNat ≠ 0x130)
    (hshift : ∀ s ∈ lowercaseShifts, s.1.mem c.toNat = false) : lowercase c = [c] := by
  have hnone : lowercaseShifts.find? (fun s => s.1.mem c.toNat) = none := by
    rw [List.find?_eq_none]
    intro s hs
    exact Bool.eq_false_iff.mp (hshift s hs)
  rw [lowercase, if_neg hc, hnone]

theorem lowercase_of_isBlank (hc : isBlank c = true) : lowercase c = [c] := by
  have hall : ∀ n ∈ blankNumbers, n ≠ 0x130 ∧
      ∀ s ∈ lowercaseShifts, s.1.mem n = false := by
    decide +kernel
  obtain ⟨hne, hshift⟩ := hall c.toNat (toNat_mem_blankNumbers hc)
  exact lowercase_eq_self hne hshift

theorem lowercase_cases (c : Char) :
    lowercase c = ['i', '\u0307'] ∨ lowercase c = [c] ∨
      ∃ s ∈ lowercaseShifts, s.1.mem c.toNat = true ∧
        lowercase c = [Char.ofNat ((c.toNat : Int) + s.2).toNat] := by
  rw [lowercase]
  split
  · exact .inl rfl
  · split
    · next r d hfind =>
        have hmem := List.find?_some hfind
        exact .inr (.inr ⟨(r, d), List.mem_of_find?_eq_some hfind, hmem, rfl⟩)
    · exact .inr (.inl rfl)

theorem eq_toNat_of_ofNat_eq {n : Nat} (hc : c ≠ '\x00') (h : Char.ofNat n = c) :
    n = c.toNat := by
  by_cases hvalid : n.isValidChar
  · obtain rfl : Char.ofNatAux n hvalid = c := (dif_pos hvalid).symm.trans h
    rfl
  · exact absurd ((dif_neg hvalid).symm.trans h).symm hc

theorem underscore_not_mem_lowercase (hc : c ≠ '_') : '_' ∉ lowercase c := by
  -- No run of characters is moved to where it would have the underscore.
  have hall : ∀ s ∈ lowercaseShifts, s.1.mem (('_'.toNat : Int) - s.2).toNat = false := by
    decide +kernel
  intro hmem
  obtain hletter | hself | ⟨s, hs, hrun, hshift⟩ := lowercase_cases c
  · rw [hletter] at hmem
    revert hmem
    decide
  · rw [hself, List.mem_singleton] at hmem
    exact hc hmem.symm
  · rw [hshift, List.mem_singleton] at hmem
    have hnumber := eq_toNat_of_ofNat_eq (by decide) hmem.symm
    have hsource : c.toNat = (('_'.toNat : Int) - s.2).toNat := by
      have : '_'.toNat = 95 := rfl
      omega
    rw [hsource, hall s hs] at hrun
    cases hrun

end ScriptLint.Text
