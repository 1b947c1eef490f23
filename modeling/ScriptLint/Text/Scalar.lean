namespace ScriptLint.Text

/-! Characters by number, and numbers written with hexadecimal digits. -/

def hexValue? (c : Char) : Option Nat :=
  if '0' ≤ c ∧ c ≤ '9' then some (c.toNat - '0'.toNat)
  else if 'a' ≤ c ∧ c ≤ 'f' then some (c.toNat - 'a'.toNat + 10)
  else if 'A' ≤ c ∧ c ≤ 'F' then some (c.toNat - 'A'.toNat + 10)
  else none

def hexDigits? (cs : List Char) : Option Nat :=
  cs.foldl (fun acc c => acc.bind fun n => (hexValue? c).map (16 * n + ·)) (some 0)

def charOf? (n : Nat) : Option Char :=
  if h : n.isValidChar then some ⟨n.toUInt32, by
    have : n < UInt32.size := Nat.lt_trans (by
      rcases h with h | ⟨_, h⟩
      · exact Nat.lt_trans h (by decide)
      · exact h) (by decide : 0x110000 < UInt32.size)
    simpa [UInt32.isValidChar, Nat.toUInt32, UInt32.toNat_ofNat,
      Nat.mod_eq_of_lt this] using h⟩
  else none

end ScriptLint.Text
