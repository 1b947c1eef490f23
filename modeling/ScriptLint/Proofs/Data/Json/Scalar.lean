import Mathlib.Data.List.Basic
import ScriptLint.Data.Json.Printer
import ScriptLint.Data.Json.Reader

namespace ScriptLint.Data.Json

open ScriptLint.Text

/-! Texts and numbers read back from their JSON. -/

/-! ### Texts -/

theorem hexValue?_hexDigit : ∀ n < 16, hexValue? (hexDigit n) = some n := by
  decide

theorem fourDigits?_hexDigits {n : Nat} (hn : n < 0x20) :
    fourDigits? '0' '0' (hexDigit (n / 16)) (hexDigit (n % 16)) = some n := by
  have hzero : hexValue? '0' = some 0 := by decide
  have hhigh := hexValue?_hexDigit (n / 16) (by omega)
  have hlow := hexValue?_hexDigit (n % 16) (by omega)
  simp only [fourDigits?, hexDigits?, List.foldl_cons, List.foldl_nil, hzero, hhigh, hlow,
    Option.bind_some, Option.map_some]
  congr 1
  omega

theorem readUnits_escaped {e : Char} (he : e ≠ 'u') {c : Char} (hc : escaped? e = some c)
    (cs : List Char) :
    readUnits ('\\' :: e :: cs) =
      (readUnits cs).map fun (units, rest) => (c.toNat :: units, rest) := by
  rw [readUnits.eq_4 e cs fun _ _ _ _ _ hu _ => he hu, hc]
  cases readUnits cs <;> rfl

theorem readUnits_plain {c : Char} (hquote : c ≠ '"') (hslash : c ≠ '\\')
    (hc : ¬ c.toNat < 0x20)
    (cs : List Char) :
    readUnits (c :: cs) = (readUnits cs).map fun (units, rest) =>
      (c.toNat :: units, rest) := by
  rw [readUnits.eq_5 c cs hquote (fun _ _ _ _ _ h _ => hslash h) fun _ _ h _ => hslash h]
  simp [hslash, hc]

/-- Whatever a character is written as, it is read back as itself. -/
theorem readUnits_escape (c : Char) (cs : List Char) :
    readUnits (escape c ++ cs) =
      (readUnits cs).map fun (units, rest) => (c.toNat :: units, rest) := by
  unfold escape
  split
  case h_8 hquote hslash _ _ _ _ _ =>
    split
    · rename_i hcontrol
      simp only [List.cons_append, List.nil_append, readUnits,
        fourDigits?_hexDigits hcontrol]
      cases readUnits cs <;> rfl
    · rename_i hcontrol
      exact readUnits_plain hquote hslash hcontrol cs
  all_goals exact readUnits_escaped (by decide) rfl cs

theorem readUnits_flatMap_escape (cs rest : List Char) :
    readUnits (cs.flatMap escape ++ '"' :: rest) = some (cs.map Char.toNat, rest) := by
  induction cs with
  | nil => rfl
  | cons c cs ih =>
      rw [List.flatMap_cons, List.append_assoc, readUnits_escape, ih]
      rfl

theorem charOf?_toNat (c : Char) : charOf? c.toNat = some c := by
  have hvalid : c.toNat.isValidChar := c.valid
  rw [charOf?, dif_pos hvalid]
  exact congrArg some (Char.ext (UInt32.toNat_inj.mp (Nat.mod_eq_of_lt c.val.toNat_lt)))

/-- No character is half of another. -/
theorem isFirstHalf_toNat (c : Char) : isFirstHalf c.toNat = false := by
  have hvalid : c.toNat.isValidChar := c.valid
  simp only [isFirstHalf, Bool.and_eq_false_iff, decide_eq_false_iff_not]
  rcases hvalid with h | ⟨h, -⟩ <;> omega

theorem pairUp_toNat (cs : List Char) : pairUp (cs.map Char.toNat) = some cs := by
  induction cs with
  | nil => rfl
  | cons c cs ih =>
      cases cs with
      | nil => simp [pairUp, charOf?_toNat]
      | cons d cs =>
          rw [List.map_cons] at ih
          simp [pairUp, isFirstHalf_toNat, charOf?_toNat, ih]

theorem readText_escape (s : String) (rest : List Char) :
    readText (s.toList.flatMap escape ++ '"' :: rest) = some (some s, rest) := by
  simp [readText, readUnits_flatMap_escape, pairUp_toNat, String.ofList_toList]

/-! ### Numbers -/

/-- Whether a number that stands before a text goes on in it. -/
def Extends (rest : List Char) : Prop :=
  ∃ c, rest.head? = some c ∧ (c.isDigit = true ∨ c = '.' ∨ c = 'e' ∨ c = 'E')

theorem not_extends_nil : ¬ Extends [] := by
  rintro ⟨c, hc, -⟩
  cases hc

theorem readDigits_append {ds rest : List Char} (hds : ∀ c ∈ ds, c.isDigit = true)
    (hne : ds ≠ []) (hrest : ¬ Extends rest) :
    readDigits (ds ++ rest) = some (ds, rest) := by
  have htake : (ds ++ rest).takeWhile Char.isDigit = ds := by
    rw [List.takeWhile_append_of_pos hds]
    cases rest with
    | nil => simp
    | cons c rest =>
        have hc : ¬ c.isDigit = true := fun hc => hrest ⟨c, rfl, .inl hc⟩
        rw [List.takeWhile_cons_of_neg hc, List.append_nil]
  simp [readDigits, htake, hne]

theorem naturalOf_toDigits (n : Nat) : naturalOf (Nat.toDigits 10 n) = n := by
  rw [naturalOf, ← Nat.ofDigitChars_eq_foldl]
  exact Nat.ofDigitChars_ten_toDigits

theorem isDigit_of_mem_toDigits {n : Nat} {c : Char} (hc : c ∈ Nat.toDigits 10 n) :
    c.isDigit = true :=
  Nat.isDigit_of_mem_toDigits (by omega) (by omega) hc

theorem exists_toDigits_eq_cons (n : Nat) :
    ∃ c ds, Nat.toDigits 10 n = c :: ds ∧ c.isDigit = true := by
  obtain ⟨c, ds, hds⟩ :=
    List.exists_cons_of_ne_nil (Nat.toDigits_ne_nil (n := n) (b := 10))
  exact ⟨c, ds, hds, isDigit_of_mem_toDigits (hds ▸ List.mem_cons_self)⟩

theorem digitChar_ne_zero {n : Nat} (hpos : 0 < n) (hn : n < 10) : n.digitChar ≠ '0' := by
  revert hpos
  revert n
  decide

/-- Only the number zero begins with the digit zero. -/
theorem head?_toDigits_ne {n : Nat} (hpos : 0 < n) :
    (Nat.toDigits 10 n).head? ≠ some '0' := by
  induction n using Nat.strongRecOn with
  | ind n ih =>
      by_cases hn : n < 10
      · rw [Nat.toDigits_of_lt_base hn, List.head?_cons]
        exact fun h => digitChar_ne_zero hpos hn (Option.some.inj h)
      · have hhigh := ih (n / 10) (by omega) (by omega)
        rw [Nat.toDigits_of_base_le (by omega) (by omega), List.head?_append]
        cases hhead : (Nat.toDigits 10 (n / 10)).head? with
        | none => exact absurd (List.head?_eq_none_iff.mp hhead) Nat.toDigits_ne_nil
        | some c => simpa [hhead] using hhigh

theorem readUnsigned_toDigits (n : Nat) {rest : List Char} (hrest : ¬ Extends rest) :
    readUnsigned (Nat.toDigits 10 n ++ rest) = some (.natural n, rest) := by
  have hdigits : readDigits (Nat.toDigits 10 n ++ rest) = some (Nat.toDigits 10 n, rest) :=
    readDigits_append (fun _ => isDigit_of_mem_toDigits) Nat.toDigits_ne_nil hrest
  have hzero :
      ¬ ((Nat.toDigits 10 n).head? = some '0' ∧ (Nat.toDigits 10 n).length ≠ 1) := by
    rintro ⟨hhead, hlength⟩
    cases n with
    | zero => exact hlength rfl
    | succ n => exact head?_toDigits_ne (Nat.succ_pos n) hhead
  have hfraction : readFraction rest = some (false, rest) := by
    unfold readFraction
    split
    · exact absurd ⟨_, rfl, .inr (.inl rfl)⟩ hrest
    · rfl
  have hexponent : readExponent rest = some (false, rest) := by
    unfold readExponent
    split
    · exact absurd ⟨_, rfl, .inr (.inr (.inl rfl))⟩ hrest
    · exact absurd ⟨_, rfl, .inr (.inr (.inr rfl))⟩ hrest
    · rfl
  simp [readUnsigned, hdigits, hzero, hfraction, hexponent, naturalOf_toDigits]

theorem readNumber_toDigits (n : Nat) {rest : List Char} (hrest : ¬ Extends rest) :
    readNumber (Nat.toDigits 10 n ++ rest) = some (.natural n, rest) := by
  rw [readNumber.eq_2, readUnsigned_toDigits n hrest]
  intro cs hcs
  -- a sign is no digit
  obtain ⟨c, ds, hds, hdigit⟩ := exists_toDigits_eq_cons n
  rw [hds, List.cons_append, List.cons.injEq] at hcs
  rw [hcs.1] at hdigit
  cases hdigit

end ScriptLint.Data.Json
