import ScriptLint.Proofs.Data.Json.Scalar
import ScriptLint.Proofs.Script.Returned
import ScriptLint.Proofs.Text.Hexadecimal

namespace ScriptLint.Script

open ScriptLint.Text

/-! What string literals stand for in the language, and that this is how they are read. -/

/-! ### Escape sequences -/

def controlLetters : List (Char × Char) :=
  [('n', '\n'), ('t', '\t'), ('r', '\r'), ('0', '\x00')]

def lineEnds : List Char := ['\n', '\r', '\u2028', '\u2029']

/-- An escape sequence as a scanner takes it from a literal. -/
inductive IsEscape : List Char → Prop
  | single {c : Char} (hc : c ∉ "xu01234567".toList) : IsEscape ['\\', c]
  | octal {digits : List Char} (hdigits : ∀ d ∈ digits, d ∈ "01234567".toList)
      (hlength : 1 ≤ digits.length ∧ digits.length ≤ 3) : IsEscape ('\\' :: digits)
  | byte {digits : List Char} (hdigits : ∀ d ∈ digits, IsHexDigit d)
      (hlength : digits.length = 2) : IsEscape ('\\' :: 'x' :: digits)
  | unit {digits : List Char} (hdigits : ∀ d ∈ digits, IsHexDigit d)
      (hlength : digits.length = 4) : IsEscape ('\\' :: 'u' :: digits)
  | scalar {digits : List Char} (hdigits : ∀ d ∈ digits, IsHexDigit d)
      (hne : digits ≠ []) :
      IsEscape ('\\' :: 'u' :: '\x7b' :: (digits ++ ['\x7d']))
  /-- A line end is taken along behind a carriage return, and behind a question mark. -/
  | lineEnd {c d : Char} (hc : c = '\r' ∨ c = '?') (hd : d ∈ ['\n', '\u2028', '\u2029']) :
      IsEscape ['\\', c, d]

/-- What an escape sequence stands for. -/
inductive Denotes : List Char → List Char → Prop
  | control {e c : Char} (h : (e, c) ∈ controlLetters) : Denotes ['\\', e] [c]
  | itself {c : Char} (hc : c ∉ "ntrbvfxu01234567".toList) (hline : c ∉ lineEnds) :
      Denotes ['\\', c] [c]
  | byte {digits : List Char} {c : Char} (hlength : digits.length = 2)
      (h : SpellsHex digits c.toNat) : Denotes ('\\' :: 'x' :: digits) [c]
  | unit {digits : List Char} {c : Char} (hlength : digits.length = 4)
      (h : SpellsHex digits c.toNat) : Denotes ('\\' :: 'u' :: digits) [c]
  | scalar {digits : List Char} {c : Char} (h : SpellsHex digits c.toNat) :
      Denotes ('\\' :: 'u' :: '\x7b' :: (digits ++ ['\x7d'])) [c]
  | lineEnd {d : Char} (hd : d ∈ ['\n', '\u2028', '\u2029']) :
      Denotes ['\\', '?', d] ['?', d]

/-- The escape sequences that are read as something else than what they stand for: three
control characters, octal numbers, line continuations, and numbers that no character
has. -/
inductive Misread : List Char → Prop
  | control {e : Char} (he : e ∈ "bvf".toList) : Misread ['\\', e]
  | octal {digits : List Char} (hdigits : ∀ d ∈ digits, d ∈ "01234567".toList)
      (hne : digits ≠ []) (hzero : digits ≠ ['0']) : Misread ('\\' :: digits)
  | continuation {c : Char} {rest : List Char} (hc : c ∈ lineEnds) :
      Misread ('\\' :: c :: rest)
  | unit {digits : List Char} {n : Nat} (h : SpellsHex digits n) (hn : ¬ n.isValidChar) :
      Misread ('\\' :: 'u' :: digits)
  | scalar {digits : List Char} {n : Nat} (h : SpellsHex digits n) (hn : ¬ n.isValidChar) :
      Misread ('\\' :: 'u' :: '\x7b' :: (digits ++ ['\x7d']))

theorem exists_toNat_eq {n : Nat} (hn : n.isValidChar) : ∃ c : Char, c.toNat = n :=
  ⟨Char.ofNatAux n hn, rfl⟩

theorem IsEscape.exists_denotes {escape : List Char} (h : IsEscape escape)
    (hmisread : ¬ Misread escape) : ∃ value, Denotes escape value := by
  cases h with
  | @single c hc =>
      by_cases hline : c ∈ lineEnds
      · exact absurd (.continuation hline) hmisread
      by_cases hletter : c ∈ "bvf".toList
      · exact absurd (.control hletter) hmisread
      by_cases hcontrol : c ∈ controlLetters.map (·.1)
      · obtain ⟨⟨e, d⟩, hd, rfl⟩ := List.mem_map.mp hcontrol
        exact ⟨_, .control hd⟩
      · refine ⟨_, .itself ?_ hline⟩
        simp [controlLetters] at hc hletter hcontrol ⊢
        tauto
  | @octal digits hdigits hlength =>
      by_cases hzero : digits = ['0']
      · subst hzero
        exact ⟨['\x00'], .control (by decide)⟩
      · have hne : digits ≠ [] := List.length_pos_iff.mp hlength.1
        exact absurd (.octal hdigits hne hzero) hmisread
  | @byte digits hdigits hlength =>
      have hne : digits ≠ [] := List.ne_nil_of_length_eq_add_one hlength
      obtain ⟨n, hn⟩ := exists_spellsHex hne hdigits
      have hbound := hn.lt
      rw [hlength] at hbound
      have hvalid : n.isValidChar := .inl (Nat.lt_trans hbound (by decide))
      obtain ⟨c, rfl⟩ := exists_toNat_eq hvalid
      exact ⟨_, .byte hlength hn⟩
  | @unit digits hdigits hlength =>
      have hne : digits ≠ [] := List.ne_nil_of_length_eq_add_one hlength
      obtain ⟨n, hn⟩ := exists_spellsHex hne hdigits
      by_cases hvalid : n.isValidChar
      · obtain ⟨c, rfl⟩ := exists_toNat_eq hvalid
        exact ⟨_, .unit hlength hn⟩
      · exact absurd (.unit hn hvalid) hmisread
  | @scalar digits hdigits hne =>
      obtain ⟨n, hn⟩ := exists_spellsHex hne hdigits
      by_cases hvalid : n.isValidChar
      · obtain ⟨c, rfl⟩ := exists_toNat_eq hvalid
        exact ⟨_, .scalar hn⟩
      · exact absurd (.scalar hn hvalid) hmisread
  | @lineEnd c d hc hd =>
      rcases hc with rfl | rfl
      · exact absurd (.continuation (by decide)) hmisread
      · exact ⟨_, .lineEnd hd⟩

theorem Misread.cases_head {c : Char} {rest : List Char}
    (h : Misread ('\\' :: c :: rest)) :
    c ∈ "bvf".toList ∨ c ∈ "01234567".toList ∧ c :: rest ≠ ['0'] ∨ c ∈ lineEnds ∨
      c = 'u' ∧ ∃ digits n, (rest = digits ∨ rest = '\x7b' :: (digits ++ ['\x7d'])) ∧
        SpellsHex digits n ∧ ¬ n.isValidChar := by
  cases h with
  | control he => exact .inl he
  | octal hdigits _ hzero => exact .inr (.inl ⟨hdigits c List.mem_cons_self, hzero⟩)
  | continuation hc => exact .inr (.inr (.inl hc))
  | unit hspells hn => exact .inr (.inr (.inr ⟨rfl, _, _, .inl rfl, hspells, hn⟩))
  | scalar hspells hn => exact .inr (.inr (.inr ⟨rfl, _, _, .inr rfl, hspells, hn⟩))

theorem Denotes.not_misread {escape value : List Char} (h : Denotes escape value) :
    ¬ Misread escape := by
  intro hmisread
  cases h with
  | @control e c h =>
      have hletters : ∀ p ∈ controlLetters, p.1 ∉ "bvf".toList ∧
          p.1 ∉ lineEnds ∧ p.1 ≠ 'u' ∧
          (p.1 ∈ "01234567".toList → p.1 = '0') := by
        decide
      obtain ⟨hletter, hline, hu, hoctal⟩ := hletters (e, c) h
      rcases hmisread.cases_head with he | ⟨he, hzero⟩ | he | ⟨he, -⟩
      · exact hletter he
      · exact hzero (congrArg (fun e => [e]) (hoctal he))
      · exact hline he
      · exact hu he
  | @itself c hc hline =>
      have hletters : "bvf".toList ⊆ "ntrbvfxu01234567".toList := by decide
      have hdigits : "01234567".toList ⊆ "ntrbvfxu01234567".toList := by decide
      rcases hmisread.cases_head with he | ⟨he, -⟩ | he | ⟨rfl, -⟩
      · exact hc (hletters he)
      · exact hc (hdigits he)
      · exact hline he
      · exact hc (by decide)
  | @byte digits c hlength h =>
      rcases hmisread.cases_head with he | ⟨he, -⟩ | he | ⟨he, -⟩ <;>
        exact absurd he (by decide)
  | @unit digits c hlength h =>
      rcases hmisread.cases_head with he | ⟨he, -⟩ | he | ⟨-, _, n, rfl | rfl, hn, hvalid⟩
      · exact absurd he (by decide)
      · exact absurd he (by decide)
      · exact absurd he (by decide)
      · exact hvalid (h.unique hn ▸ c.valid)
      · exact h.head_ne (by decide) rfl
  | @scalar digits c h =>
      rcases hmisread.cases_head with he | ⟨he, -⟩ | he |
        ⟨-, _, n, rfl | hdigits, hn, hvalid⟩
      · exact absurd he (by decide)
      · exact absurd he (by decide)
      · exact absurd he (by decide)
      · exact hn.head_ne (by decide) rfl
      · obtain rfl := List.append_cancel_right (List.cons.inj hdigits).2
        exact hvalid (h.unique hn ▸ c.valid)
  | @lineEnd d hd =>
      rcases hmisread.cases_head with he | ⟨he, -⟩ | he | ⟨he, -⟩ <;>
        exact absurd he (by decide)

/-! ### How they are read -/

theorem hexNumber?_of_spellsHex {digits : List Char} {n : Nat} (h : SpellsHex digits n)
    (hn : n < 1 <<< 32) : hexNumber? digits = some n := by
  obtain ⟨d, rest, rfl⟩ := List.exists_cons_of_ne_nil h.ne_nil
  have hplus : d ≠ '+' := h.head_ne (by decide)
  simpa [hexNumber?, hplus, h.hexDigits?_eq] using hn

theorem decodeEscape_of_spellsHex {escape digits : List Char} {c : Char}
    (hlength : 2 < escape.length) (hdigits : scalarDigits? escape = some digits)
    (h : SpellsHex digits c.toNat) : decodeEscape escape = [c] := by
  have hbound : c.toNat < 1 <<< 32 := c.val.toNat_lt
  unfold decodeEscape
  split
  case h_8 =>
    rw [hdigits, Option.bind_some, hexNumber?_of_spellsHex h hbound, Option.bind_some,
      Data.Json.charOf?_toNat]
  all_goals exact absurd hlength (by decide)

theorem decodeEscape_of_denotes {escape value : List Char} (h : Denotes escape value) :
    decodeEscape escape = value := by
  cases h with
  | @control e c h =>
      have hletters : ∀ p ∈ controlLetters, decodeEscape ['\\', p.1] = [p.2] := by decide
      exact hletters (e, c) h
  | @itself c hc hline =>
      -- Quotes and backslashes have cases of their own, which say the same.
      unfold decodeEscape
      split <;> simp_all [scalarDigits?]
  | @byte digits c hlength h => exact decodeEscape_of_spellsHex (by simp [hlength]) rfl h
  | @unit digits c hlength h =>
      refine decodeEscape_of_spellsHex (by simp [hlength]) ?_ h
      obtain ⟨d, rest, rfl⟩ := List.exists_cons_of_ne_nil h.ne_nil
      have hbrace : d ≠ '\x7b' := h.head_ne (by decide)
      simp [scalarDigits?, hbrace]
  | @scalar digits c h =>
      refine decodeEscape_of_spellsHex (by simp) ?_ h
      simp [scalarDigits?]
  | @lineEnd d hd => simp [decodeEscape, scalarDigits?]

/-! ### Literals -/

namespace Node

variable {source : List Char} {part : Node}

def IsPlainPart (source : List Char) (part : Node) : Prop :=
  part.kind = .stringFragment ∨
    part.kind = .escapeSequence ∧ IsEscape (part.text source) ∧
      ¬ Misread (part.text source)

inductive StandsFor (source : List Char) (part : Node) : List Char → Prop
  | text (hkind : part.kind = .stringFragment) : StandsFor source part (part.text source)
  | escape {value : List Char} (hkind : part.kind = .escapeSequence)
      (h : Denotes (part.text source) value) : StandsFor source part value

def Spells (source : List Char) (n : Node) (text : List Char) : Prop :=
  ∃ values, List.Forall₂ (StandsFor source) n.namedChildren values ∧ values.flatten = text

theorem IsPlainPart.exists_standsFor (h : part.IsPlainPart source) :
    ∃ value, part.StandsFor source value := by
  rcases h with hkind | ⟨hkind, hescape, hmisread⟩
  · exact ⟨_, .text hkind⟩
  · obtain ⟨value, hvalue⟩ := hescape.exists_denotes hmisread
    exact ⟨value, .escape hkind hvalue⟩

theorem exists_spells {n : Node} (h : ∀ part ∈ n.namedChildren, part.IsPlainPart source) :
    ∃ text, n.Spells source text := by
  unfold Spells
  generalize n.namedChildren = parts at h
  induction parts with
  | nil => exact ⟨[], [], .nil, rfl⟩
  | cons part parts ih =>
      rw [List.forall_mem_cons] at h
      obtain ⟨value, hvalue⟩ := h.1.exists_standsFor
      obtain ⟨_, values, hvalues, -⟩ := ih h.2
      exact ⟨_, value :: values, .cons hvalue hvalues, rfl⟩

end Node

def Node.reading (source : List Char) (part : Node) : List Char :=
  match part.kind with
  | .stringFragment => part.text source
  | .escapeSequence => decodeEscape (part.text source)
  | _ => []

theorem stringValue_eq (source : List Char) (n : Node) :
    stringValue source n = n.namedChildren.flatMap (Node.reading source) := rfl

theorem Node.reading_of_text {source : List Char} {part : Node}
    (h : part.kind = .stringFragment) : part.reading source = part.text source := by
  rw [reading, h]

theorem Node.reading_of_escape {source : List Char} {part : Node}
    (h : part.kind = .escapeSequence) :
    part.reading source = decodeEscape (part.text source) := by
  rw [reading, h]

theorem stringValue_of_spells {source text : List Char} {n : Node}
    (h : n.Spells source text) : stringValue source n = text := by
  obtain ⟨values, hvalues, rfl⟩ := h
  rw [stringValue_eq]
  generalize n.namedChildren = parts at hvalues
  induction hvalues with
  | nil => rfl
  | @cons part value _ _ hvalue _ ih =>
      rw [List.flatMap_cons, ih, List.flatten_cons]
      congr 1
      cases hvalue with
      | text hkind => rw [Node.reading_of_text hkind]
      | escape hkind hdenotes =>
          rw [Node.reading_of_escape hkind, decodeEscape_of_denotes hdenotes]

theorem Node.key?_of_string {source : List Char} {m n : Node} (hkey : m.KeyNode n)
    (hkind : n.kind = .string) :
    m.key? source = some (.stringLiteral (String.ofList (stringValue source n))) := by
  rw [key?, keyNode?_eq_some_iff.mpr hkey, Option.bind_some, hkind]

/-- A literal whose escape sequences are not misread spells a text, and is read as it; so
what a key is read as depends on nothing but the text that it spells. -/
theorem literal_read_as_spelled {source : List Char} {n : Node}
    (hparts : ∀ part ∈ n.namedChildren, part.IsPlainPart source) :
    (∃ text, n.Spells source text) ∧
      ∀ text, n.Spells source text → stringValue source n = text ∧
        ∀ m : Node, m.KeyNode n → n.kind = .string →
          m.key? source = some (.stringLiteral (String.ofList text)) := by
  refine ⟨Node.exists_spells hparts, fun text hspells => ?_⟩
  have hvalue := stringValue_of_spells hspells
  refine ⟨hvalue, fun m hkey hkind => ?_⟩
  rw [Node.key?_of_string hkey hkind, hvalue]

/-! ### A key in all spellings -/

def mixedText : List Char := "(\x7b\"é\\x42\\u\x7b0063\x7d\\q\\0\":1\x7d)".toList

def mixedKey : Node :=
  .mk .string (some .key) ⟨2, 0, 2⟩ 22 false [
    .mk (.token "\"") none ⟨2, 0, 2⟩ 3 false [],
    .mk .stringFragment none ⟨3, 0, 3⟩ 5 false [],
    .mk .escapeSequence none ⟨5, 0, 5⟩ 9 false [],
    .mk .escapeSequence none ⟨9, 0, 9⟩ 17 false [],
    .mk .escapeSequence none ⟨17, 0, 17⟩ 19 false [],
    .mk .escapeSequence none ⟨19, 0, 19⟩ 21 false [],
    .mk (.token "\"") none ⟨21, 0, 21⟩ 22 false []]

def mixedPair : Node :=
  .mk .pair none ⟨2, 0, 2⟩ 24 false [
    mixedKey,
    .mk (.token ":") none ⟨22, 0, 22⟩ 23 false [],
    .mk (.other "number") (some .value) ⟨23, 0, 23⟩ 24 false []]

theorem mixedKey_read_as_spelled :
    (∀ part ∈ mixedKey.namedChildren, part.IsPlainPart mixedText) ∧
      mixedKey.Spells mixedText "éBcq\x00".toList ∧
      stringValue mixedText mixedKey = "éBcq\x00".toList ∧
      mixedPair.key? mixedText = some (.stringLiteral "éBcq\x00") := by
  have hbyte : Denotes ['\\', 'x', '4', '2'] ['B'] := .byte rfl ⟨0, by decide⟩
  have hscalar :
      Denotes ('\\' :: 'u' :: '\x7b' :: (['0', '0', '6', '3'] ++ ['\x7d'])) ['c'] :=
    .scalar ⟨2, by decide⟩
  have hitself : Denotes ['\\', 'q'] ['q'] := .itself (by decide) (by decide)
  have hzero : Denotes ['\\', '0'] ['\x00'] := .control (by decide)
  have hbyteRead : IsEscape ['\\', 'x', '4', '2'] :=
    .byte (forall_mem_of_all (by decide)) rfl
  have hscalarRead :
      IsEscape ('\\' :: 'u' :: '\x7b' :: (['0', '0', '6', '3'] ++ ['\x7d'])) :=
    .scalar (forall_mem_of_all (by decide)) (by decide)
  have hitselfRead : IsEscape ['\\', 'q'] := .single (by decide)
  have hzeroRead : IsEscape ['\\', '0'] :=
    .octal (forall_mem_of_all (by decide)) (by decide)
  have hparts : ∀ part ∈ mixedKey.namedChildren, part.IsPlainPart mixedText :=
    List.forall_mem_cons.mpr ⟨.inl rfl,
      List.forall_mem_cons.mpr ⟨.inr ⟨rfl, hbyteRead, hbyte.not_misread⟩,
        List.forall_mem_cons.mpr ⟨.inr ⟨rfl, hscalarRead, hscalar.not_misread⟩,
          List.forall_mem_cons.mpr ⟨.inr ⟨rfl, hitselfRead, hitself.not_misread⟩,
            List.forall_mem_singleton.mpr (.inr ⟨rfl, hzeroRead, hzero.not_misread⟩)⟩⟩⟩⟩
  have hspells : mixedKey.Spells mixedText "éBcq\x00".toList :=
    ⟨[['é'], ['B'], ['c'], ['q'], ['\x00']],
      .cons (.text rfl) (.cons (.escape rfl hbyte) (.cons (.escape rfl hscalar)
        (.cons (.escape rfl hitself) (.cons (.escape rfl hzero) .nil)))), rfl⟩
  obtain ⟨hvalue, hkey⟩ := (literal_read_as_spelled hparts).2 _ hspells
  exact ⟨hparts, hspells, hvalue, hkey mixedPair (.pair rfl rfl) rfl⟩

end ScriptLint.Script
