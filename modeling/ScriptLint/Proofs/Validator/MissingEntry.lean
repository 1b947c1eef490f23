import ScriptLint.Proofs.Validator.Errors

namespace ScriptLint

open ScriptLint.Script ScriptLint.Text

/-! What is found in a script that does not declare its entry function. -/

/-- The findings that need no entry function. -/
inductive Script.Unentered (s : Script) (entryName : String)
    (rules : List Rule) : Finding → Prop
  | topLevelReturn {n : Node} (hn : n ∈ s.topLevel) (hreturn : n.kind = .returnStatement) :
      Unentered s entryName rules
        { kind := .syntaxError, severity := .error
          message := s!"\x60return\x60 must be inside \x60{entryName}\x60; "
            ++ "top-level return statements are not allowed"
          line := some (n.location s.source).line
          column := some (n.location s.source).column }
  | forbidden {k : Nat} {line : List Char} {r : Rule}
      (hline : (lines s.source)[k]? = some line)
      (hr : r ∈ rules) (hmatch : r.matchesLine line = true) :
      Unentered s entryName rules
        { kind := .security, severity := .error
          message := r.message
          line := some (k + 1) }
  | ambientOutputs (line : Nat) :
      Unentered s entryName rules
        { kind := .bestPractice, severity := .warning
          message := "\x60outputs\x60 is not defined in the custom node runtime. "
            ++ s!"Return your values from \x60{entryName}\x60 instead: "
            ++ "\x60return \x7b OutputName: value \x7d\x60"
          line := some line }
  | stringType (line : Nat) :
      Unentered s entryName rules
        { kind := .bestPractice, severity := .info
          message := "\x60\"string\"\x60 is not a valid dataType; "
            ++ "use \x60\"text\"\x60 for string values"
          line := some line }

variable {s : Script} {entryName : String} {rules : List Rule} {x : Finding}

namespace Script.Unentered

theorem kind_ne (hx : s.Unentered entryName rules x) :
    x.kind ≠ .missingFunction ∧ x.kind ≠ .outputMismatch := by
  cases hx <;> exact ⟨nofun, nofun⟩

theorem not_note (hx : s.Unentered entryName rules x) :
    x.isResultNote = false ∧ ∀ param name, x.isUndeclaredNote param name = false := by
  cases hx with
  | topLevelReturn =>
      exact ⟨Finding.isNote_of_kind_ne nofun, fun _ _ => Finding.isNote_of_kind_ne nofun⟩
  | forbidden =>
      exact ⟨Finding.isNote_of_kind_ne nofun, fun _ _ => Finding.isNote_of_kind_ne nofun⟩
  | ambientOutputs =>
      exact ⟨Finding.isNote_of_severity_ne nofun,
        fun _ _ => Finding.isNote_of_severity_ne nofun⟩
  | stringType =>
      constructor
      · exact Finding.isNote_of_message_ne (by dsimp only; decide)
      · intro param name
        exact Finding.isNote_of_message_ne (Finding.ne_append (by dsimp only; decide))

end Script.Unentered

namespace Check

variable {c : Context}

theorem Structure.findings_of_none (hf : c.function? = none) :
    Structure.findings c =
      missingEntry c :: (topLevelReturns c).map (returnFinding c) := by
  rw [findings, entryFindings, hf]
  rfl

theorem Structure.kind_ne_missing_of_some {f : Node} (hf : c.function? = some f)
    (hx : x ∈ Structure.findings c) : x.kind ≠ .missingFunction := by
  intro hkind
  rcases List.mem_append.mp hx with hentry | hreturn
  · cases hkind.symm.trans (mem_entryFindings_of_some hf hentry).1
  · obtain ⟨n, -, rfl⟩ := List.mem_map.mp hreturn
    cases hkind

theorem Heuristics.findings_of_none (hf : c.function? = none) :
    Heuristics.findings c = ambientOutputs c ++ stringTypes c := by
  simp [findings_eq, hf]

theorem Heuristics.unentered_of_mem_ambientOutputs (hx : x ∈ ambientOutputs c) :
    c.script.Unentered c.entryName rules x := by
  unfold ambientOutputs at hx
  split at hx
  · cases hx
  · split at hx
    · cases hx
    · obtain rfl := List.mem_singleton.mp hx
      exact .ambientOutputs _

theorem Heuristics.unentered_of_mem_stringTypes (hx : x ∈ stringTypes c) :
    c.script.Unentered c.entryName rules x := by
  obtain ⟨line, -, rfl⟩ := List.mem_map.mp hx
  exact .stringType line

theorem unentered_of_mem_returns
    (hx : x ∈ (Structure.topLevelReturns c).map (Structure.returnFinding c)) :
    c.script.Unentered c.entryName rules x := by
  obtain ⟨n, hn, rfl⟩ := List.mem_map.mp hx
  obtain ⟨htop, hconstruct⟩ := List.mem_filter.mp hn
  exact .topLevelReturn htop (Node.construct_eq_return_iff.mp (beq_iff_eq.mp hconstruct))

theorem unentered_of_mem_scan (hx : x ∈ Rule.scan rules c.source) :
    c.script.Unentered c.entryName rules x := by
  obtain ⟨k, line, hline, r, hr, hmatch, rfl⟩ := Rule.mem_scan_iff.mp hx
  exact .forbidden hline hr hmatch

/-- Without an entry function a report begins with what misses it. -/
theorem report_of_none (rules : List Rule) (hf : c.function? = none) :
    ∃ rest, report rules c (Coverage.findings c) (Heuristics.findings c) =
        Structure.missingEntry c :: rest ∧
      ∀ y ∈ rest, c.script.Unentered c.entryName (Rule.withBuiltin rules) y := by
  refine ⟨_, by rw [report, Structure.findings_of_none hf]; rfl, fun y hy => ?_⟩
  rw [Coverage.findings_of_none hf, Heuristics.findings_of_none hf, List.nil_append] at hy
  rcases List.mem_append.mp hy with hreturn | hy
  · exact unentered_of_mem_returns hreturn
  rcases List.mem_append.mp hy with hscan | hy
  · exact unentered_of_mem_scan hscan
  rcases List.mem_append.mp hy with hambient | hstring
  · exact Heuristics.unentered_of_mem_ambientOutputs hambient
  · exact Heuristics.unentered_of_mem_stringTypes hstring

theorem kind_ne_missing_of_mem_report {f : Node} (hf : c.function? = some f)
    (hx : x ∈ report rules c (Coverage.findings c) (Heuristics.findings c)) :
    x.kind ≠ .missingFunction := by
  rcases mem_report.mp hx with h | h | h | h
  · exact Structure.kind_ne_missing_of_some hf h
  · rw [Coverage.kind_of_mem h]
    nofun
  · rw [(Rule.kind_of_mem_scan h).1]
    nofun
  · rw [(Heuristics.kind_of_mem h).1]
    nofun

end Check

/-- The findings on a script that does not declare its entry function. -/
structure EntryMissing (s : Script) (entryName : String) (rules : List Rule)
    (fs : List Finding) : Prop where
  first : ∃ x rest, fs = x :: rest ∧ x.kind = .missingFunction ∧ x.severity = .error ∧
    x.line = some 1 ∧ ∀ y ∈ rest, s.Unentered entryName rules y
  once : fs.countP (fun x => x.kind == .missingFunction) = 1
  covered : ∀ x ∈ fs, x.kind ≠ .outputMismatch
  unnoted : ∀ x ∈ fs, x.isResultNote = false ∧
    ∀ param name, x.isUndeclaredNote param name = false

theorem EntryMissing.of_first {rest : List Finding} (hkind : x.kind = .missingFunction)
    (hseverity : x.severity = .error) (hline : x.line = some 1)
    (hrest : ∀ y ∈ rest, s.Unentered entryName rules y) :
    EntryMissing s entryName rules (x :: rest) where
  first := ⟨x, rest, rfl, hkind, hseverity, hline, hrest⟩
  once := by
    have hnone : rest.countP (fun x => x.kind == .missingFunction) = 0 :=
      Finding.countP_eq_zero fun y hy => beq_false_of_ne (hrest y hy).kind_ne.1
    rw [List.countP_cons, hnone, hkind]
    rfl
  covered := by
    refine List.forall_mem_cons.mpr ⟨?_, fun y hy => (hrest y hy).kind_ne.2⟩
    rw [hkind]
    nofun
  unnoted := by
    refine List.forall_mem_cons.mpr ⟨?_, fun y hy => (hrest y hy).not_note⟩
    have hne : x.kind ≠ .bestPractice := by
      rw [hkind]
      nofun
    exact ⟨Finding.isNote_of_kind_ne hne, fun _ _ => Finding.isNote_of_kind_ne hne⟩

/-- A script with a variable and an inner function that have the name of the entry
function. -/
def Script.enclosing : Script where
  source := "const f=()=>\x7bfunction f()\x7b\x7d\x7d".toList
  root := .onLine .program none 0 28 [
    .onLine .lexicalDeclaration none 0 28 [
      .onLine (.token "const") (some .kind) 0 5 [],
      .onLine .variableDeclarator none 6 28 [
        .onLine .identifier (some .name) 6 7 [],
        .onLine (.token "=") none 7 8 [],
        .onLine .arrowFunction (some .value) 8 28 [
          .onLine (.other "formal_parameters") (some .parameters) 8 10 [
            .onLine (.token "(") none 8 9 [],
            .onLine (.token ")") none 9 10 []],
          .onLine (.token "=>") none 10 12 [],
          .onLine .statementBlock (some .body) 12 28 [
            .onLine (.token "\x7b") none 12 13 [],
            .onLine .functionDeclaration none 13 27 [
              .onLine (.token "function") none 13 21 [],
              .onLine .identifier (some .name) 22 23 [],
              .onLine (.other "formal_parameters") (some .parameters) 23 25 [
                .onLine (.token "(") none 23 24 [],
                .onLine (.token ")") none 24 25 []],
              .onLine .statementBlock (some .body) 25 27 [
                .onLine (.token "\x7b") none 25 26 [],
                .onLine (.token "\x7d") none 26 27 []]],
            .onLine (.token "\x7d") none 27 28 []]]]]]
  flawed := false

namespace Validator

variable {outputs : List Socket} {inputs : Option (List Socket)}

theorem graded_of_mem_judge
    (hx : x ∈ ((ofRules rules entryName).judge s outputs inputs).findings) : x.Graded := by
  cases hs : s.rejection? with
  | some r =>
      rw [judge_of_rejection hs] at hx
      obtain rfl := List.mem_singleton.mp hx
      simp [Finding.Graded, Rejection.finding, Finding.atLocation]
  | none =>
      rw [judge_ofRules_of_none hs] at hx
      exact Check.graded_of_mem_report hx

theorem entryMissing_judge (rules : List Rule) (outputs : List Socket)
    (inputs : Option (List Socket)) (hs : s.rejection? = none)
    (hentry : ∀ n ∈ s.topLevel, ¬ n.Declares s.source entryName) :
    EntryMissing s entryName (Rule.withBuiltin rules)
      ((ofRules rules entryName).judge s outputs inputs).findings := by
  have hf : (Context.ofScript s entryName outputs inputs).function? = none :=
    Context.function?_eq_none_iff.mpr hentry
  obtain ⟨rest, hreport, hrest⟩ := Check.report_of_none rules hf
  rw [judge_ofRules_of_none hs, hreport]
  exact .of_first rfl rfl rfl hrest

theorem exists_missing_judge_iff (rules : List Rule) (outputs : List Socket)
    (inputs : Option (List Socket)) :
    (∃ x ∈ ((ofRules rules entryName).judge s outputs inputs).findings,
        x.kind = .missingFunction) ↔
      s.rejection? = none ∧ ∀ n ∈ s.topLevel, ¬ n.Declares s.source entryName := by
  constructor
  · rintro ⟨x, hx, hkind⟩
    cases hs : s.rejection? with
    | some r =>
        rw [judge_of_rejection hs] at hx
        obtain rfl := List.mem_singleton.mp hx
        cases hkind
    | none =>
        rw [judge_ofRules_of_none hs] at hx
        cases hf : (Context.ofScript s entryName outputs inputs).function? with
        | none => exact ⟨rfl, Context.function?_eq_none_iff.mp hf⟩
        | some f => exact absurd hkind (Check.kind_ne_missing_of_mem_report hf hx)
  · rintro ⟨hs, hentry⟩
    obtain ⟨x, rest, hfs, hkind, -⟩ :=
      (entryMissing_judge rules outputs inputs hs hentry).first
    exact ⟨x, by rw [hfs]; exact List.mem_cons_self, hkind⟩

/-- What misses the entry function is reported for the scripts without one, once and before
all else, and then nothing that needs an entry function is. -/
theorem judge_missing_entry (rules : List Rule) (entryName : String) (s : Script)
    (outputs : List Socket) (inputs : Option (List Socket)) :
    ((∃ x ∈ ((ofRules rules entryName).judge s outputs inputs).findings,
        x.kind = .missingFunction) ↔
      s.rejection? = none ∧ ∀ n ∈ s.topLevel, ¬ n.Declares s.source entryName) ∧
    ((∃ x ∈ ((ofRules rules entryName).judge s outputs inputs).findings,
        x.kind = .missingFunction) →
      EntryMissing s entryName (Rule.withBuiltin rules)
        ((ofRules rules entryName).judge s outputs inputs).findings) ∧
    ∀ x ∈ ((ofRules rules entryName).judge s outputs inputs).findings, x.Graded := by
  refine ⟨exists_missing_judge_iff rules outputs inputs, ?_, fun x => graded_of_mem_judge⟩
  intro hmissing
  obtain ⟨hs, hentry⟩ := (exists_missing_judge_iff rules outputs inputs).mp hmissing
  exact entryMissing_judge rules outputs inputs hs hentry

theorem judge_enclosing :
    (Script.enclosing.rejection? = none ∧
      ∀ n ∈ Script.enclosing.topLevel, ¬ n.Declares Script.enclosing.source "f") ∧
    (∃ x ∈ ((ofRules [] "f").judge Script.enclosing [] none).findings,
      x.kind = .missingFunction) ∧
    EntryMissing Script.enclosing "f" (Rule.withBuiltin [])
      ((ofRules [] "f").judge Script.enclosing [] none).findings := by
  have haccepted : Script.enclosing.rejection? = none := by
    rw [Script.rejection?_eq_none_iff rfl]
    exact ⟨rfl, by decide, by decide⟩
  have hentry :
      ∀ n ∈ Script.enclosing.topLevel, ¬ n.Declares Script.enclosing.source "f" := by
    simp only [← Node.isDeclaration_iff]
    decide
  obtain ⟨hiff, hmissing, -⟩ := judge_missing_entry [] "f" Script.enclosing [] none
  have hfound := hiff.mpr ⟨haccepted, hentry⟩
  exact ⟨⟨haccepted, hentry⟩, hfound, hmissing hfound⟩

end Validator

end ScriptLint
