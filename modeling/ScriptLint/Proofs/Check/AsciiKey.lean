import ScriptLint.Proofs.Check.LastDeclaration
import ScriptLint.Proofs.Script.AsciiLiteral

namespace ScriptLint

open ScriptLint.Script ScriptLint.Text

/-! Returned keys that are written in ASCII, and whether they are matched with the outputs
that they name. -/

namespace Finding

def isMissingOf (entryName name : String) (x : Finding) : Bool :=
  x.isMissingWarning && x.message ==
    s!"Output \x60{name}\x60 is declared but \x60{entryName}\x60 never returns it; " ++
      "it will be undefined at runtime"

variable {entryName name : String} {x : Finding}

theorem kind_of_isMissingOf (h : x.isMissingOf entryName name = true) :
    x.kind = .outputMismatch := by
  simp only [isMissingOf, isMissingWarning, Bool.and_eq_true, beq_iff_eq] at h
  exact h.1.1

theorem kind_of_isExtraNote (h : x.isExtraNote entryName name = true) :
    x.kind = .outputMismatch := by
  simp only [isExtraNote, isNote, Bool.and_eq_true, beq_iff_eq] at h
  exact h.1.1

end Finding

namespace Check.Coverage

variable {c : Context} {f : Node} {entryName name : String}

theorem isMissingOf_missingFinding (line : Nat) (o : Socket) :
    (missingFinding entryName line o).isMissingOf entryName name = (o.name == name) := by
  rw [Bool.eq_iff_iff]
  simp only [Finding.isMissingOf, Finding.isMissingWarning, missingFinding,
    String.append_assoc, BEq.rfl, Bool.and_self, Bool.true_and, beq_iff_eq,
    String.append_right_inj, String.append_left_inj]
  exact Iff.rfl

theorem outputs_ne_nil_of_mem {x : Finding} (hx : x ∈ findings c) : c.outputs ≠ [] := by
  intro houtputs
  rw [findings, houtputs] at hx
  split at hx <;> cases hx

theorem exists_isMissingOf_iff (hf : c.function? = some f) :
    (∃ x ∈ findings c, x.isMissingOf c.entryName name = true) ↔
      name ∈ c.outputs.map (·.name) ∧ ¬ Returned Node.IsComment c.source f name := by
  rw [← mem_occurrences_iff (Node.skipsComments_isComment f)]
  constructor
  · rintro ⟨x, hx, hname⟩
    have houtputs : c.outputs ≠ [] := outputs_ne_nil_of_mem hx
    rw [findings_of_some hf houtputs, missing_eq, names_occurrences, List.mem_append] at hx
    rcases hx with hx | hx
    · obtain ⟨o, ho, rfl⟩ := List.mem_map.mp hx
      rw [isMissingOf_missingFinding, beq_iff_eq] at hname
      rw [List.mem_filter, decide_eq_true_iff, hname] at ho
      exact ⟨List.mem_map.mpr ⟨o, ho.1, hname⟩, ho.2⟩
    · obtain ⟨key, -, rfl⟩ := List.mem_map.mp hx
      cases hname
  · rintro ⟨hdeclared, hreturned⟩
    obtain ⟨o, ho, rfl⟩ := List.mem_map.mp hdeclared
    refine ⟨missingFinding c.entryName (c.line f) o, ?_, ?_⟩
    · rw [findings_of_some hf (List.ne_nil_of_mem ho), missing_eq, names_occurrences]
      exact List.mem_append_left _ (List.mem_map_of_mem
        (List.mem_filter.mpr ⟨ho, decide_eq_true hreturned⟩))
    · rw [isMissingOf_missingFinding, beq_self_eq_true]

theorem exists_isExtraNote_iff (hf : c.function? = some f) :
    (∃ x ∈ findings c, x.isExtraNote c.entryName name = true) ↔
      c.outputs ≠ [] ∧ Returned Node.IsComment c.source f name ∧
        name ∉ c.outputs.map (·.name) := by
  have hnames := (undeclared_extras c f).names name
  rw [mem_occurrences_iff (Node.skipsComments_isComment f)] at hnames
  rw [← hnames]
  constructor
  · rintro ⟨x, hx, hname⟩
    have houtputs : c.outputs ≠ [] := outputs_ne_nil_of_mem hx
    refine ⟨houtputs, ?_⟩
    rw [findings_of_some hf houtputs, extra_eq, List.mem_append] at hx
    rcases hx with hx | hx
    · rw [isExtraNote_of_mem_missing x hx] at hname
      cases hname
    · obtain ⟨key, hkey, rfl⟩ := List.mem_map.mp hx
      rw [isExtraNote_extraFinding, beq_iff_eq] at hname
      obtain ⟨e, he, rfl⟩ := List.mem_map.mp hkey
      exact List.mem_map.mpr ⟨e, he, hname⟩
  · rintro ⟨houtputs, hname⟩
    obtain ⟨e, he, rfl⟩ := List.mem_map.mp hname
    refine ⟨extraFinding c.entryName (e.1, (e.2.location c.source).line), ?_, ?_⟩
    · rw [findings_of_some hf houtputs, extra_eq, List.map_map]
      exact List.mem_append_right _ (List.mem_map_of_mem he)
    · rw [isExtraNote_extraFinding, beq_self_eq_true]

end Check.Coverage

namespace Validator

variable {s : Script} {entryName : String} {f : Node} {rules : List Rule}
  {outputs : List Socket}
  {inputs : Option (List Socket)} {p : Finding → Bool}

theorem exists_mem_judge_iff (hp : ∀ x, p x = true → x.kind = .outputMismatch) :
    (∃ x ∈ ((ofRules rules entryName).judge s outputs inputs).findings, p x = true) ↔
      s.rejection? = none ∧
        ∃ x ∈ Check.Coverage.findings (.ofScript s entryName outputs inputs),
          p x = true := by
  cases hs : s.rejection? with
  | some r =>
      rw [judge_of_rejection hs]
      simp only [List.mem_singleton, exists_eq_left, reduceCtorEq, false_and, iff_false]
      intro hr
      cases hp _ hr
  | none =>
      rw [← filter_judge rules hs, and_iff_right rfl]
      constructor
      · rintro ⟨x, hx, hpx⟩
        exact ⟨x, List.mem_filter.mpr ⟨hx, beq_iff_eq.mpr (hp x hpx)⟩, hpx⟩
      · rintro ⟨x, hx, hpx⟩
        exact ⟨x, List.mem_of_mem_filter hx, hpx⟩

/-- A returned key that is the JSON of a text is read as the text exactly if the text is of
the basic plane and two letters are not used. If so, an output of that name is not missed,
and the key not noted. If not, the key is noted for another name even where all outputs
have that name. -/
theorem ascii_key_matched_iff {s : Script} {entryName : String} {f r o m n : Node}
    {text : List Char} (hf : s.LastDeclares entryName f)
    (hr : r ∈ Check.Coverage.bodyNodes f) (ho : r.Returns Node.IsComment o)
    (hm : m ∈ o.namedChildren) (hn : m.KeyNode n) (hkind : n.kind = .string)
    (htext : SpellsAscii s.source n.namedChildren text) :
    (∀ rest,
      Data.Json.readText (n.namedChildren.flatMap (Node.text s.source) ++ '"' :: rest) =
        some (some (String.ofList text), rest)) ∧
      (stringValue s.source n = text ↔ KeepsText s.source n.namedChildren text) ∧
      (KeepsText s.source n.namedChildren text → ∀ rules outputs inputs,
        ∀ x ∈ ((ofRules rules entryName).judge s outputs inputs).findings,
          x.isMissingOf entryName (String.ofList text) = false ∧
            (String.ofList text ∈ outputs.map (·.name) →
              x.isExtraNote entryName (String.ofList text) = false)) ∧
      (¬ KeepsText s.source n.namedChildren text → s.rejection? = none →
        ∀ rules outputs inputs,
          outputs ≠ [] → (∀ k ∈ outputs, k.name = String.ofList text) →
          ∃ x ∈ ((ofRules rules entryName).judge s outputs inputs).findings,
            x.isExtraNote entryName (String.ofList (stringValue s.source n)) = true) := by
  have hvalue := htext.stringValue_eq_iff
  have hreturned : Check.Coverage.Returned Node.IsComment s.source f
      (String.ofList (stringValue s.source n)) := ⟨r, hr, o, ho, m, hm, .string hn hkind⟩
  -- What is found of outputs depends on what the key is read as and on nothing else.
  refine ⟨htext.readText_eq, hvalue, fun hkeeps rules outputs inputs x hx => ?_,
    fun hkeeps hs rules outputs inputs houtputs hnames => ?_⟩
  · have hfunction := hf.function? outputs inputs
    rw [hvalue.mpr hkeeps] at hreturned
    refine ⟨Bool.eq_false_iff.mpr fun hmissing => ?_,
      fun hdeclared => Bool.eq_false_iff.mpr fun hextra => ?_⟩
    · obtain ⟨-, hfound⟩ := (exists_mem_judge_iff fun _ => Finding.kind_of_isMissingOf).mp
        ⟨x, hx, hmissing⟩
      exact ((Check.Coverage.exists_isMissingOf_iff hfunction).mp hfound).2 hreturned
    · obtain ⟨-, hfound⟩ := (exists_mem_judge_iff fun _ => Finding.kind_of_isExtraNote).mp
        ⟨x, hx, hextra⟩
      exact ((Check.Coverage.exists_isExtraNote_iff hfunction).mp hfound).2.2 hdeclared
  · refine (exists_mem_judge_iff fun _ => Finding.kind_of_isExtraNote).mpr ⟨hs, ?_⟩
    refine (Check.Coverage.exists_isExtraNote_iff (hf.function? outputs inputs)).mpr
      ⟨houtputs, hreturned, fun hdeclared => ?_⟩
    obtain ⟨k, hk, hname⟩ := List.mem_map.mp hdeclared
    rw [hnames k hk] at hname
    exact hkeeps (hvalue.mp (String.ofList_injective hname.symm))

end Validator

namespace Script

def asciiKey (parts : List Node) : Node :=
  .onLine .string (some .key) 52 66 (
    .onLine (.token "\"") none 52 53 [] :: parts ++ [.onLine (.token "\"") none 65 66 []])

def asciiPair (parts : List Node) : Node :=
  .onLine .pair none 52 69 [
    asciiKey parts,
    .onLine (.token ":") none 66 67 [],
    .onLine (.other "number") (some .value) 68 69 []]

def asciiObject (parts : List Node) : Node :=
  .onLine .object none 50 71 [
    .onLine (.token "\x7b") none 50 51 [],
    asciiPair parts,
    .onLine (.token "\x7d") none 70 71 []]

def asciiReturn (parts : List Node) : Node :=
  .onLine .returnStatement none 43 72 [
    .onLine (.token "return") none 43 49 [],
    asciiObject parts,
    .onLine (.token ";") none 71 72 []]

def asciiEntry (parts : List Node) : Node :=
  .onLine .functionDeclaration none 0 74 [
    .onLine (.token "function") none 0 8 [],
    .onLine .identifier (some .name) 9 20 [],
    .onLine (.other "formal_parameters") (some .parameters) 20 40 [
      .onLine (.token "(") none 20 21 [],
      .onLine .identifier none 21 27 [],
      .onLine (.token ",") none 27 28 [],
      .onLine .identifier none 29 39 [],
      .onLine (.token ")") none 39 40 []],
    .onLine .statementBlock (some .body) 41 74 [
      .onLine (.token "\x7b") none 41 42 [],
      asciiReturn parts,
      .onLine (.token "\x7d") none 73 74 []]]

/-- A script that returns an object with one key, of twelve characters between its
quotes. -/
def keyed (literal : String) (parts : List Node) : Script where
  source := ("function processData(inputs, properties) \x7b return \x7b \"" ++ literal ++
    "\": 1 \x7d; \x7d").toList
  root := .onLine .program none 0 74 [asciiEntry parts]
  flawed := false

/-- Three escape sequences and two letters: `\u00e9\n\/ab`. -/
def plainParts : List Node :=
  [.onLine .escapeSequence none 53 59 [], .onLine .escapeSequence none 59 61 [],
    .onLine .escapeSequence none 61 63 [], .onLine .stringFragment none 63 65 []]

/-- The halves of a character: `\ud83d\ude00`. -/
def halfParts : List Node :=
  [.onLine .escapeSequence none 53 59 [], .onLine .escapeSequence none 59 65 []]

def plainKeyed : Script := keyed "\\u00e9\\n\\/ab" plainParts

def halfKeyed : Script := keyed "\\ud83d\\ude00" halfParts

theorem plainKeyed_spells :
    SpellsAscii plainKeyed.source (asciiKey plainParts).namedChildren "é\n/ab".toList :=
  .unit ⟨rfl, "00e9".toList, rfl, rfl, 2, by decide⟩
    (.letter ⟨rfl, rfl⟩ rfl
      (.letter ⟨rfl, rfl⟩ rfl (.plain rfl (forall_mem_of_all (by decide)) .nil)))

theorem halfKeyed_spells :
    SpellsAscii halfKeyed.source (asciiKey halfParts).namedChildren "😀".toList :=
  .pair (by decide) ⟨rfl, "d83d".toList, rfl, rfl, 0, by decide⟩
    ⟨rfl, "de00".toList, rfl, rfl, 0, by decide⟩ .nil

theorem keyed_lastDeclares {literal : String} {parts : List Node}
    (hname : (asciiEntry parts).Declares (keyed literal parts).source "processData") :
    (keyed literal parts).LastDeclares "processData" (asciiEntry parts) :=
  ⟨[], [], rfl, hname, List.forall_mem_nil _⟩

end Script

namespace Validator

theorem plainKeyed_matched :
    SpellsAscii Script.plainKeyed.source
      (asciiKey plainParts).namedChildren "é\n/ab".toList ∧
      stringValue Script.plainKeyed.source (asciiKey plainParts) = "é\n/ab".toList ∧
      ∀ x ∈ ((ofRules [] "processData").judge .plainKeyed
        [⟨"é\n/ab", .any⟩] none).findings,
        x.isMissingOf "processData" "é\n/ab" = false ∧
          x.isExtraNote "processData" "é\n/ab" = false := by
  have hf : Script.plainKeyed.LastDeclares "processData" (asciiEntry plainParts) :=
    keyed_lastDeclares ⟨rfl, _, rfl, by decide⟩
  have hletters : ∀ part ∈ (asciiKey plainParts).namedChildren,
      misreadLetters.all
        (fun e => decide (¬ part.IsLetter Script.plainKeyed.source e)) = true := by
    decide
  have hkeeps : KeepsText Script.plainKeyed.source (asciiKey plainParts).namedChildren
      "é\n/ab".toList :=
    ⟨forall_mem_of_all (by decide),
      fun part hpart => forall_mem_of_all (hletters part hpart)⟩
  have hobject : ¬ (asciiObject plainParts).IsComment := by
    rintro ⟨⟩
  have hreturns :
      (asciiReturn plainParts).Returns Node.IsComment (asciiObject plainParts) :=
    ⟨rfl, _, ⟨hobject, [], [], rfl, List.forall_mem_nil _⟩, .bare rfl⟩
  have hpair : (asciiPair plainParts).KeyNode (asciiKey plainParts) := .pair rfl rfl
  obtain ⟨-, hvalue, hmatched, -⟩ := ascii_key_matched_iff hf (.tail _ (.head _)) hreturns
    (.head _) hpair rfl plainKeyed_spells
  refine ⟨plainKeyed_spells, hvalue.mpr hkeeps, fun x hx => ?_⟩
  obtain ⟨hmissing, hextra⟩ := hmatched hkeeps [] _ _ x hx
  exact ⟨hmissing, hextra (.head _)⟩

/-- The halves of a character do not name the output with the character: it is missed, and
their digits are noted. -/
theorem halfKeyed_unmatched :
    Script.halfKeyed.rejection? = none ∧
      Script.halfKeyed.LastDeclares "processData" (asciiEntry halfParts) ∧
      SpellsAscii Script.halfKeyed.source (asciiKey halfParts).namedChildren "😀".toList ∧
      stringValue Script.halfKeyed.source (asciiKey halfParts) = "ud83dude00".toList ∧
      ((ofRules [] "processData").judge .halfKeyed [⟨"😀", .any⟩] none).findings.filter
          (fun x => x.kind == .outputMismatch) =
        [Check.Coverage.missingFinding "processData" 1 ⟨"😀", .any⟩,
          Check.Coverage.extraFinding "processData" ("ud83dude00", 1)] := by
  have hs : Script.halfKeyed.rejection? = none := by
    rw [rejection?_eq_none_iff rfl]
    exact ⟨rfl, by decide, by decide⟩
  refine ⟨hs, keyed_lastDeclares ⟨rfl, _, rfl, by decide⟩, halfKeyed_spells, by decide, ?_⟩
  rw [filter_judge [] hs]
  rfl

end Validator

end ScriptLint
