import ScriptLint.Proofs.Script.Literal
import ScriptLint.Proofs.Text.CharSet

namespace ScriptLint.Script

open ScriptLint.Text

/-! String literals that are written as JSON is for readers of nothing but ASCII, and which
of them are read as the text that they spell. -/

/-! ### Halves of characters -/

/-- The two numbers that stand for a character outside the basic plane. -/
def firstHalf (c : Char) : Nat := 0xD800 + (c.toNat - 0x10000) / 0x400

def secondHalf (c : Char) : Nat := 0xDC00 + (c.toNat - 0x10000) % 0x400

theorem isFirstHalf_firstHalf (c : Char) : Data.Json.isFirstHalf (firstHalf c) = true := by
  have hle : c.toNat ≤ 0x10FFFF := CharSet.toNat_le_maxScalar c
  rw [Data.Json.isFirstHalf, firstHalf, Bool.and_eq_true, decide_eq_true_iff,
    decide_eq_true_iff]
  omega

theorem isSecondHalf_secondHalf (c : Char) :
    Data.Json.isSecondHalf (secondHalf c) = true := by
  rw [Data.Json.isSecondHalf, secondHalf, Bool.and_eq_true, decide_eq_true_iff,
    decide_eq_true_iff]
  omega

theorem join_add (a b : Nat) :
    Data.Json.join (0xD800 + a) (0xDC00 + b) = 0x10000 + a * 0x400 + b := by
  unfold Data.Json.join
  omega

theorem join_halves {c : Char} (hc : 0x10000 ≤ c.toNat) :
    Data.Json.join (firstHalf c) (secondHalf c) = c.toNat := by
  rw [firstHalf, secondHalf, join_add, Nat.add_assoc, Nat.div_add_mod']
  exact Nat.add_sub_of_le hc

theorem not_isValidChar_firstHalf (c : Char) : ¬ (firstHalf c).isValidChar := by
  have hle : c.toNat ≤ 0x10FFFF := CharSet.toNat_le_maxScalar c
  rw [Nat.isValidChar, firstHalf]
  omega

theorem not_isValidChar_secondHalf (c : Char) : ¬ (secondHalf c).isValidChar := by
  rw [Nat.isValidChar, secondHalf]
  omega

/-! ### Spelling -/

def IsPlainAscii (c : Char) : Prop := 0x20 ≤ c.toNat ∧ c.toNat < 0x80 ∧ c ≠ '"' ∧ c ≠ '\\'

instance : DecidablePred IsPlainAscii := fun c =>
  inferInstanceAs (Decidable (0x20 ≤ c.toNat ∧ c.toNat < 0x80 ∧ c ≠ '"' ∧ c ≠ '\\'))

namespace Node

/-- A part of a literal that gives a number with four digits. -/
def IsUnit (source : List Char) (part : Node) (n : Nat) : Prop :=
  part.kind = .escapeSequence ∧ ∃ digits, part.text source = '\\' :: 'u' :: digits ∧
    digits.length = 4 ∧ SpellsHex digits n

def IsLetter (source : List Char) (part : Node) (e : Char) : Prop :=
  part.kind = .escapeSequence ∧ part.text source = ['\\', e]

instance (source : List Char) (part : Node) (e : Char) :
    Decidable (part.IsLetter source e) :=
  inferInstanceAs (Decidable (_ ∧ _))

end Node

/-- The parts of a literal spell a text as JSON for readers of ASCII: plain characters as
they are, some others with a letter, any other with its number, and one outside the basic
plane with the numbers of its halves. -/
inductive SpellsAscii (source : List Char) : List Node → List Char → Prop
  | nil : SpellsAscii source [] []
  | plain {part : Node} {parts : List Node} {text : List Char}
      (hkind : part.kind = .stringFragment)
      (hplain : ∀ c ∈ part.text source, IsPlainAscii c)
      (h : SpellsAscii source parts text) :
      SpellsAscii source (part :: parts) (part.text source ++ text)
  | letter {part : Node} {parts : List Node} {text : List Char} {e c : Char}
      (hpart : part.IsLetter source e) (hc : Data.Json.escaped? e = some c)
      (h : SpellsAscii source parts text) : SpellsAscii source (part :: parts) (c :: text)
  | unit {part : Node} {parts : List Node} {text : List Char} {c : Char}
      (hpart : part.IsUnit source c.toNat) (h : SpellsAscii source parts text) :
      SpellsAscii source (part :: parts) (c :: text)
  | pair {first second : Node} {parts : List Node} {text : List Char} {c : Char}
      (hc : 0x10000 ≤ c.toNat) (hfirst : first.IsUnit source (firstHalf c))
      (hsecond : second.IsUnit source (secondHalf c)) (h : SpellsAscii source parts text) :
      SpellsAscii source (first :: second :: parts) (c :: text)

variable {source text : List Char} {part : Node} {parts : List Node}

/-! ### As JSON -/

theorem readUnits_of_plain {cs : List Char} (h : ∀ c ∈ cs, IsPlainAscii c)
    (rest : List Char) :
    Data.Json.readUnits (cs ++ rest) =
      (Data.Json.readUnits rest).map fun (units, rest) =>
        (cs.map Char.toNat ++ units, rest) := by
  induction cs with
  | nil => simp
  | cons c cs ih =>
      rw [List.forall_mem_cons] at h
      obtain ⟨⟨hcontrol, -, hquote, hslash⟩, hcs⟩ := h
      rw [List.cons_append,
        Data.Json.readUnits_plain hquote hslash (Nat.not_lt.mpr hcontrol), ih hcs,
        Option.map_map]
      rfl

theorem Node.IsUnit.readUnits_eq {n : Nat} (h : part.IsUnit source n) (rest : List Char) :
    Data.Json.readUnits (part.text source ++ rest) =
      (Data.Json.readUnits rest).map fun (units, rest) => (n :: units, rest) := by
  obtain ⟨-, digits, htext, hlength, hdigits⟩ := h
  obtain ⟨a, b, c, d, rfl⟩ := List.length_eq_four.mp hlength
  have hread : Data.Json.fourDigits? a b c d = some n := hdigits.hexDigits?_eq
  rw [htext]
  simp only [List.cons_append, List.nil_append, Data.Json.readUnits, hread]
  cases Data.Json.readUnits rest <;> rfl

theorem Node.IsLetter.readUnits_eq {e c : Char} (h : part.IsLetter source e)
    (hc : Data.Json.escaped? e = some c) (rest : List Char) :
    Data.Json.readUnits (part.text source ++ rest) =
      (Data.Json.readUnits rest).map fun (units, rest) => (c.toNat :: units, rest) := by
  have he : e ≠ 'u' := by
    rintro rfl
    cases hc
  rw [h.2]
  exact Data.Json.readUnits_escaped he hc rest

theorem pairUp_cons {units : List Nat} (c : Char) :
    Data.Json.pairUp (c.toNat :: units) = (Data.Json.pairUp units).map (c :: ·) := by
  cases units with
  | nil => simp [Data.Json.pairUp, Data.Json.charOf?_toNat]
  | cons n units =>
      rw [Data.Json.pairUp]
      simp only [Data.Json.isFirstHalf_toNat, Bool.false_and, Bool.false_eq_true, if_false,
        Data.Json.charOf?_toNat]
      cases Data.Json.pairUp (n :: units) <;> rfl

theorem pairUp_append {units : List Nat} (cs : List Char) :
    Data.Json.pairUp (cs.map Char.toNat ++ units) =
      (Data.Json.pairUp units).map (cs ++ ·) := by
  induction cs with
  | nil => simp
  | cons c cs ih =>
      rw [List.map_cons, List.cons_append, pairUp_cons, ih, Option.map_map]
      rfl

theorem pairUp_halves {units : List Nat} {c : Char} (hc : 0x10000 ≤ c.toNat) :
    Data.Json.pairUp (firstHalf c :: secondHalf c :: units) =
      (Data.Json.pairUp units).map (c :: ·) := by
  rw [Data.Json.pairUp]
  simp only [isFirstHalf_firstHalf, isSecondHalf_secondHalf, Bool.and_self, if_true,
    join_halves hc, Data.Json.charOf?_toNat]
  cases Data.Json.pairUp units <;> rfl

/-- The parts give numbers that make up the text. -/
def GivesUnits (source : List Char) (parts : List Node) (text : List Char) : Prop :=
  ∃ units, Data.Json.pairUp units = some text ∧ ∀ rest,
    Data.Json.readUnits (parts.flatMap (Node.text source) ++ '"' :: rest) =
      some (units, rest)

theorem GivesUnits.cons (h : GivesUnits source parts text) (values : List Char)
    (hpart : ∀ rest, Data.Json.readUnits (part.text source ++ rest) =
      (Data.Json.readUnits rest).map fun (units, rest) =>
        (values.map Char.toNat ++ units, rest)) :
    GivesUnits source (part :: parts) (values ++ text) := by
  obtain ⟨units, htext, hunits⟩ := h
  refine ⟨values.map Char.toNat ++ units, ?_, fun rest => ?_⟩
  · rw [pairUp_append, htext, Option.map_some]
  · rw [List.flatMap_cons, List.append_assoc, hpart, hunits, Option.map_some]

theorem SpellsAscii.givesUnits (h : SpellsAscii source parts text) :
    GivesUnits source parts text := by
  induction h with
  | nil => exact ⟨[], rfl, fun rest => by simp [Data.Json.readUnits]⟩
  | @plain part _ _ _ hplain _ ih =>
      exact ih.cons (part.text source) (readUnits_of_plain hplain)
  | @letter _ _ _ _ c hpart hc _ ih => exact ih.cons [c] (hpart.readUnits_eq hc)
  | @unit _ _ _ c hpart _ ih => exact ih.cons [c] hpart.readUnits_eq
  | @pair first second parts text c hc hfirst hsecond _ ih =>
      -- The halves are numbers of no character, and only make one together.
      obtain ⟨units, htext, hunits⟩ := ih
      refine ⟨firstHalf c :: secondHalf c :: units, ?_, fun rest => ?_⟩
      · rw [pairUp_halves hc, htext, Option.map_some]
      · rw [List.flatMap_cons, List.flatMap_cons, List.append_assoc, List.append_assoc,
          hfirst.readUnits_eq, hsecond.readUnits_eq, hunits, Option.map_some,
          Option.map_some]

/-- What stands between the quotes of such a literal is the JSON of the text. -/
theorem SpellsAscii.readText_eq (h : SpellsAscii source parts text) (rest : List Char) :
    Data.Json.readText (parts.flatMap (Node.text source) ++ '"' :: rest) =
      some (some (String.ofList text), rest) := by
  obtain ⟨units, htext, hunits⟩ := h.givesUnits
  simp only [Data.Json.readText, hunits, htext, Option.map_some]

/-! ### As a key -/

/-- Letters that JSON has for control characters, and that are read as themselves. -/
def misreadLetters : List Char := ['b', 'f']

theorem Node.IsLetter.reading_eq {e c : Char} (h : part.IsLetter source e)
    (hc : Data.Json.escaped? e = some c) :
    part.reading source = [if e ∈ misreadLetters then e else c] := by
  rw [Node.reading_of_escape h.1, h.2]
  unfold Data.Json.escaped? at hc
  split at hc
  all_goals first
    | cases hc; rfl
    | cases hc

theorem Node.IsUnit.reading_of_char {c : Char} (h : part.IsUnit source c.toNat) :
    part.reading source = [c] := by
  obtain ⟨hkind, digits, htext, hlength, hdigits⟩ := h
  rw [Node.reading_of_escape hkind, htext, decodeEscape_of_denotes (.unit hlength hdigits)]

theorem Node.IsUnit.length_reading {n : Nat} (h : part.IsUnit source n)
    (hn : ¬ n.isValidChar) : (part.reading source).length = 5 := by
  obtain ⟨hkind, digits, htext, hlength, hdigits⟩ := h
  obtain ⟨d, rest, rfl⟩ := List.exists_cons_of_ne_nil hdigits.ne_nil
  have hbrace : d ≠ '\x7b' := hdigits.head_ne (by decide)
  have hbound : n < 1 <<< 32 := Nat.lt_trans hdigits.lt (by rw [hlength]; decide)
  have hnumber : hexNumber? (d :: rest) = some n := hexNumber?_of_spellsHex hdigits hbound
  have hnone :
      ((scalarDigits? ('\\' :: 'u' :: d :: rest)).bind hexNumber?).bind
        charOf? = none := by
    simp [scalarDigits?, hbrace, hnumber, charOf?, hn]
  rw [Node.reading_of_escape hkind, htext, decodeEscape]
  · simp [hnone, hlength]
  all_goals simp

/-- Whether nothing keeps such a literal from being read as the text that it spells: all
characters are of the basic plane, and those letters are not used. -/
def KeepsText (source : List Char) (parts : List Node) (text : List Char) : Prop :=
  (∀ c ∈ text, c.toNat < 0x10000) ∧
    ∀ part ∈ parts, ∀ e ∈ misreadLetters, ¬ part.IsLetter source e

/-- What the parts are read as is at least as long as the text, and is the text exactly if
nothing keeps it from that. -/
def ReadingSpec (source : List Char) (parts : List Node) (text : List Char) : Prop :=
  text.length ≤ (parts.flatMap (Node.reading source)).length ∧
    (parts.flatMap (Node.reading source) = text ↔ KeepsText source parts text)

theorem ReadingSpec.cons {values : List Char} (h : ReadingSpec source parts text)
    (hreading : part.reading source = values) (hvalues : ∀ c ∈ values, c.toNat < 0x10000)
    (hpart : ∀ e ∈ misreadLetters, ¬ part.IsLetter source e) :
    ReadingSpec source (part :: parts) (values ++ text) := by
  obtain ⟨hle, hiff⟩ := h
  refine ⟨?_, ?_⟩
  · rw [List.flatMap_cons, hreading, List.length_append, List.length_append]
    exact Nat.add_le_add_left hle _
  · rw [List.flatMap_cons, hreading, List.append_cancel_left_eq, hiff, KeepsText,
      KeepsText, List.forall_mem_append, List.forall_mem_cons, and_iff_right hvalues,
      and_iff_right hpart]

theorem escaped?_ne : ∀ e ∈ misreadLetters, Data.Json.escaped? e ≠ some e :=
  forall_mem_of_all (by decide)

theorem lt_of_escaped? {e c : Char} (h : Data.Json.escaped? e = some c) :
    c.toNat < 0x10000 := by
  unfold Data.Json.escaped? at h
  split at h
  all_goals first
    | cases h; decide
    | cases h

theorem Node.IsUnit.lt {n : Nat} (h : part.IsUnit source n) : n < 0x10000 := by
  obtain ⟨-, digits, -, hlength, hdigits⟩ := h
  have hlt := hdigits.lt
  rwa [hlength] at hlt

theorem Node.IsUnit.not_isLetter {n : Nat} {e : Char} (h : part.IsUnit source n) :
    ¬ part.IsLetter source e := by
  rintro ⟨-, htext⟩
  obtain ⟨-, digits, hdigits, hlength, -⟩ := h
  rw [hdigits] at htext
  rw [(List.cons.inj (List.cons.inj htext).2).2] at hlength
  cases hlength

/-- No part is read as less than it spells, and half a character is read as more; so what
is read can only be the text if it is so part by part. -/
theorem SpellsAscii.readingSpec (h : SpellsAscii source parts text) :
    ReadingSpec source parts text := by
  induction h with
  | nil => exact ⟨Nat.le_refl _, by simp [KeepsText]⟩
  | plain hkind hplain _ ih =>
      refine ih.cons (Node.reading_of_text hkind)
        (fun c hc => Nat.lt_trans (hplain c hc).2.1 (by decide)) ?_
      rintro e - ⟨hescape, -⟩
      rw [hkind] at hescape
      cases hescape
  | @letter part parts text e c hpart hc _ ih =>
      have hreading := hpart.reading_eq hc
      by_cases he : e ∈ misreadLetters
      · rw [if_pos he] at hreading
        refine ⟨?_,
          iff_of_false ?_ fun hkeeps => hkeeps.2 part List.mem_cons_self e he hpart⟩
        · rw [List.flatMap_cons, hreading]
          exact Nat.succ_le_succ ih.1
        · rw [List.flatMap_cons, hreading]
          intro heq
          rw [← (List.cons.inj heq).1] at hc
          exact escaped?_ne e he hc
      · rw [if_neg he] at hreading
        refine ih.cons hreading (by simpa using lt_of_escaped? hc)
          fun e' he' hletter => he ?_
        have hsame := hpart.2.symm.trans hletter.2
        rwa [(List.cons.inj (List.cons.inj hsame).2).1]
  | unit hpart _ ih =>
      exact ih.cons hpart.reading_of_char (by simpa using hpart.lt) fun _ _ =>
        hpart.not_isLetter
  | @pair first second parts text c hc hfirst hsecond _ ih =>
      -- Five characters are read for each half.
      have hlength : text.length + 10 ≤
          ((first :: second :: parts).flatMap (Node.reading source)).length := by
        rw [List.flatMap_cons, List.flatMap_cons, List.length_append, List.length_append,
          hfirst.length_reading (not_isValidChar_firstHalf c),
          hsecond.length_reading (not_isValidChar_secondHalf c)]
        have hle := ih.1
        omega
      refine ⟨Nat.le_trans ?_ hlength, iff_of_false ?_ ?_⟩
      · rw [List.length_cons]
        omega
      · intro heq
        rw [heq, List.length_cons] at hlength
        omega
      · exact fun hkeeps => Nat.not_lt.mpr hc (hkeeps.1 c List.mem_cons_self)

theorem SpellsAscii.stringValue_eq_iff {n : Node}
    (h : SpellsAscii source n.namedChildren text) :
    stringValue source n = text ↔ KeepsText source n.namedChildren text := by
  rw [stringValue_eq]
  exact h.readingSpec.2

end ScriptLint.Script
