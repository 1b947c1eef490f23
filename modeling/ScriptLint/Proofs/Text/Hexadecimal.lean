import Mathlib.Data.List.Induction
import ScriptLint.Text.Scalar

namespace ScriptLint.Text

/-! Numbers in hexadecimal digits: what is read is the number that was written, in either
letter case and with any zeros in front. -/

def IsHexDigit (c : Char) : Prop := ∃ v < 16, c.toLower = v.digitChar

instance : DecidablePred IsHexDigit := fun c =>
  inferInstanceAs (Decidable (∃ v < 16, c.toLower = v.digitChar))

/-- For texts that are given, whose characters are looked at one by one. -/
theorem forall_mem_of_all {p : Char → Prop} [DecidablePred p] {cs : List Char}
    (h : cs.all (fun c => decide (p c)) = true) : ∀ c ∈ cs, p c :=
  fun c hc => of_decide_eq_true (List.all_eq_true.mp h c hc)

/-- The digits are those that the number is written with, but for the letter case and zeros
in front. -/
def SpellsHex (digits : List Char) (n : Nat) : Prop :=
  ∃ zeros, digits.map Char.toLower = List.replicate zeros '0' ++ Nat.toDigits 16 n

/-! ### One digit -/

theorem hexValue?_digitChar : ∀ v < 16, hexValue? v.digitChar = some v := by
  decide

theorem hexValue?_toLower (c : Char) : hexValue? c.toLower = hexValue? c := by
  have hascii :
      ∀ n < 128, hexValue? (Char.ofNat n).toLower = hexValue? (Char.ofNat n) := by
    decide
  by_cases hc : c.toNat < 128
  · have h := hascii c.toNat hc
    rwa [Char.ofNat_toNat] at h
  · have hkept : c.toLower = c := by
      refine dif_neg ?_
      rintro ⟨-, hle⟩
      exact hc (Nat.lt_of_le_of_lt (UInt32.le_iff_toNat_le.mp hle) (by decide))
    rw [hkept]

/-! ### Digits in a row -/

theorem hexDigits?_concat (digits : List Char) (d : Char) :
    hexDigits? (digits ++ [d]) =
      (hexDigits? digits).bind fun n => (hexValue? d).map (16 * n + ·) := by
  rw [hexDigits?, List.foldl_append]
  rfl

theorem hexDigits?_cons_of_none {d : Char} (h : hexValue? d = none) (digits : List Char) :
    hexDigits? (d :: digits) = none := by
  induction digits using List.reverseRecOn with
  | nil => simp [hexDigits?, h]
  | append_singleton digits e ih =>
      rw [← List.cons_append, hexDigits?_concat, ih, Option.bind_none]

theorem hexDigits?_map_toLower (digits : List Char) :
    hexDigits? (digits.map Char.toLower) = hexDigits? digits := by
  simp only [hexDigits?, List.foldl_map, hexValue?_toLower]

theorem hexDigits?_replicate_append (zeros : Nat) (digits : List Char) :
    hexDigits? (List.replicate zeros '0' ++ digits) = hexDigits? digits := by
  induction zeros with
  | zero => rfl
  | succ zeros ih =>
      rw [List.replicate_succ, List.cons_append, ← ih]
      rfl

theorem hexDigits?_toDigits (n : Nat) : hexDigits? (Nat.toDigits 16 n) = some n := by
  induction n using Nat.strongRecOn with
  | ind n ih =>
      rw [Nat.toDigits_eq_if (by decide)]
      split
      · next hn =>
          rw [← List.nil_append [n.digitChar], hexDigits?_concat, hexValue?_digitChar n hn]
          simp [hexDigits?]
      · next hn =>
          have hdigit := hexValue?_digitChar (n % 16) (Nat.mod_lt n (by decide))
          rw [hexDigits?_concat, ih (n / 16) (by omega), hdigit, Option.bind_some,
            Option.map_some, Nat.div_add_mod]

theorem SpellsHex.hexDigits?_eq {digits : List Char} {n : Nat} (h : SpellsHex digits n) :
    hexDigits? digits = some n := by
  obtain ⟨zeros, hdigits⟩ := h
  rw [← hexDigits?_map_toLower, hdigits, hexDigits?_replicate_append, hexDigits?_toDigits]

theorem SpellsHex.unique {digits : List Char} {m n : Nat} (hm : SpellsHex digits m)
    (hn : SpellsHex digits n) : m = n :=
  Option.some.inj (hm.hexDigits?_eq.symm.trans hn.hexDigits?_eq)

theorem SpellsHex.ne_nil {digits : List Char} {n : Nat} (h : SpellsHex digits n) :
    digits ≠ [] := by
  rintro rfl
  obtain ⟨zeros, hdigits⟩ := h
  exact Nat.toDigits_ne_nil (List.append_eq_nil_iff.mp hdigits.symm).2

theorem SpellsHex.head_ne {digits : List Char} {d c : Char} {n : Nat}
    (h : SpellsHex (d :: digits) n) (hc : hexValue? c = none) : d ≠ c := by
  rintro rfl
  have hread := h.hexDigits?_eq
  rw [hexDigits?_cons_of_none hc] at hread
  cases hread

/-- Each digit has four bits. -/
theorem SpellsHex.lt {digits : List Char} {n : Nat} (h : SpellsHex digits n) :
    n < 1 <<< (4 * digits.length) := by
  have hpos : 0 < digits.length := List.length_pos_iff.mpr h.ne_nil
  obtain ⟨zeros, hdigits⟩ := h
  have hle : (Nat.toDigits 16 n).length ≤ digits.length := by
    have hsum := congrArg List.length hdigits
    rw [List.length_map, List.length_append, List.length_replicate] at hsum
    omega
  rw [Nat.one_shiftLeft, Nat.pow_mul]
  exact (Nat.length_toDigits_le_iff (by decide) hpos).mp hle

/-! ### What digits spell -/

theorem SpellsHex.singleton {d : Char} {v : Nat} (hv : v < 16)
    (hd : d.toLower = v.digitChar) : SpellsHex [d] v := by
  refine ⟨0, ?_⟩
  rw [Nat.toDigits_of_lt_base hv, ← hd]
  rfl

theorem SpellsHex.concat {digits : List Char} {n v : Nat} {d : Char}
    (h : SpellsHex digits n) (hv : v < 16) (hd : d.toLower = v.digitChar) :
    SpellsHex (digits ++ [d]) (16 * n + v) := by
  obtain ⟨zeros, hdigits⟩ := h
  rw [SpellsHex, List.map_append, hdigits, List.map_singleton, hd,
    ← Nat.toDigits_of_lt_base hv]
  rcases Nat.eq_zero_or_pos n with rfl | hn
  · -- The digit of zero itself joins the zeros in front.
    refine ⟨zeros + 1, ?_⟩
    rw [Nat.mul_zero, Nat.zero_add, List.replicate_succ']
    rfl
  · exact ⟨zeros, by rw [List.append_assoc,
      Nat.toDigits_append_toDigits (by decide) hn hv]⟩

theorem exists_spellsHex {digits : List Char} (hne : digits ≠ [])
    (h : ∀ d ∈ digits, IsHexDigit d) : ∃ n, SpellsHex digits n := by
  induction digits using List.reverseRecOn with
  | nil => exact absurd rfl hne
  | append_singleton digits d ih =>
      obtain ⟨v, hv, hd⟩ := h d (by simp)
      by_cases hdigits : digits = []
      · rw [hdigits, List.nil_append]
        exact ⟨v, .singleton hv hd⟩
      · obtain ⟨n, hn⟩ := ih hdigits fun c hc => h c (by simp [hc])
        exact ⟨_, hn.concat hv hd⟩

end ScriptLint.Text
