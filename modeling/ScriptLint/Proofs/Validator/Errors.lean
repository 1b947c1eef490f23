import ScriptLint.Proofs.Check.Numbering
import ScriptLint.Proofs.Check.Sockets
import ScriptLint.Proofs.Script.Construct

namespace ScriptLint

open ScriptLint.Script ScriptLint.Text

/-! Which results have errors. No check makes one depend on sockets. -/

variable {c : Context} {x : Finding} {rules : List Rule}

/-- What is missing, no syntax or not allowed is an error, and nothing else is. -/
def Finding.Graded (x : Finding) : Prop :=
  x.severity = .error ↔
    x.kind = .missingFunction ∨ x.kind = .syntaxError ∨ x.kind = .security

theorem Result.hasErrors_iff {r : Result} :
    r.hasErrors = true ↔ ∃ x ∈ r.findings, x.severity = .error := by
  simp [hasErrors, errors, withSeverity]

namespace Check

theorem Structure.graded_of_mem (hx : x ∈ Structure.findings c) : x.Graded := by
  rcases mem_findings hx with ⟨hkind | hkind, hseverity⟩ |
    ⟨hkind, hseverity | ⟨hseverity, -⟩⟩ <;>
    simp [Finding.Graded, hkind, hseverity]

/-- What is found in the entry function itself is no error. -/
theorem Structure.mem_entryFindings_of_some {f : Node} (hf : c.function? = some f)
    (hx : x ∈ entryFindings c) : x.kind = .bestPractice ∧ x.severity ≠ .error := by
  simp only [entryFindings, hf, List.mem_append] at hx
  rcases hx with hrepeated | hfew
  · obtain ⟨hkind, hseverity⟩ := mem_repeated hrepeated
    exact ⟨hkind, by simp [hseverity]⟩
  · obtain ⟨hkind, hseverity | ⟨hseverity, -⟩⟩ := mem_fewParams hfew
    · exact ⟨hkind, by simp [hseverity]⟩
    · exact ⟨hkind, by simp [hseverity]⟩

theorem Structure.exists_error_iff :
    (∃ x ∈ Structure.findings c, x.severity = .error) ↔
      c.function? = none ∨ ∃ n ∈ c.script.topLevel, n.kind = .returnStatement := by
  constructor
  · rintro ⟨x, hx, herror⟩
    rcases List.mem_append.mp hx with hentry | hreturn
    · cases hf : c.function? with
      | none => exact .inl rfl
      | some f => exact absurd herror (mem_entryFindings_of_some hf hentry).2
    · obtain ⟨n, hn, -⟩ := List.mem_map.mp hreturn
      obtain ⟨htop, hconstruct⟩ := List.mem_filter.mp hn
      exact .inr ⟨n, htop, Node.construct_eq_return_iff.mp (beq_iff_eq.mp hconstruct)⟩
  · rintro (hf | ⟨n, htop, hkind⟩)
    · refine ⟨missingEntry c, List.mem_append_left _ ?_, rfl⟩
      rw [entryFindings, hf]
      exact List.mem_singleton_self _
    · refine ⟨returnFinding c n, List.mem_append_right _ (List.mem_map_of_mem ?_), rfl⟩
      exact List.mem_filter.mpr
        ⟨htop, beq_iff_eq.mpr (Node.construct_eq_return_iff.mpr hkind)⟩

theorem Coverage.severity_ne_error (hx : x ∈ Coverage.findings c) :
    x.severity ≠ .error := by
  unfold findings at hx
  split at hx
  · cases hx
  · split at hx
    · cases hx
    · rcases List.mem_append.mp hx with hmissing | hextra
      · obtain ⟨o, -, rfl⟩ := List.mem_map.mp hmissing
        nofun
      · obtain ⟨k, -, rfl⟩ := List.mem_map.mp hextra
        nofun

theorem Coverage.graded_of_mem (hx : x ∈ Coverage.findings c) : x.Graded := by
  simp [Finding.Graded, kind_of_mem hx, severity_ne_error hx]

theorem Heuristics.severity_ne_error (hx : x ∈ Heuristics.findings c) :
    x.severity ≠ .error := by
  rcases (kind_of_mem hx).2 with h | h <;> simp [h]

theorem Heuristics.graded_of_mem (hx : x ∈ Heuristics.findings c) : x.Graded := by
  simp [Finding.Graded, (kind_of_mem hx).1, severity_ne_error hx]

theorem graded_of_mem_scan {source : List Char}
    (hx : x ∈ Rule.scan rules source) : x.Graded := by
  simp [Finding.Graded, Rule.kind_of_mem_scan hx]

/-- The standard findings, each check's in its place. -/
theorem mem_report {coverage heuristics : List Finding} :
    x ∈ report rules c coverage heuristics ↔
      x ∈ Structure.findings c ∨ x ∈ coverage ∨
        x ∈ Rule.scan (Rule.withBuiltin rules) c.source ∨ x ∈ heuristics := by
  simp only [report, List.mem_append]

theorem graded_of_mem_report
    (hx : x ∈ report rules c (Coverage.findings c) (Heuristics.findings c)) :
    x.Graded := by
  rcases mem_report.mp hx with h | h | h | h
  · exact Structure.graded_of_mem h
  · exact Coverage.graded_of_mem h
  · exact graded_of_mem_scan h
  · exact Heuristics.graded_of_mem h

theorem exists_error_report_iff :
    (∃ x ∈ report rules c (Coverage.findings c) (Heuristics.findings c),
      x.severity = .error) ↔
      c.function? = none ∨ (∃ n ∈ c.script.topLevel, n.kind = .returnStatement) ∨
        ∃ line ∈ lines c.source, ∃ r ∈ Rule.withBuiltin rules,
          r.matchesLine line = true := by
  rw [← Rule.exists_mem_scan_iff, ← or_assoc, ← Structure.exists_error_iff]
  constructor
  · rintro ⟨x, hx, herror⟩
    rcases mem_report.mp hx with h | h | h | h
    · exact .inl ⟨x, h, herror⟩
    · exact absurd herror (Coverage.severity_ne_error h)
    · exact .inr ⟨x, h⟩
    · exact absurd herror (Heuristics.severity_ne_error h)
  · rintro (⟨x, hx, herror⟩ | ⟨x, hx⟩)
    · exact ⟨x, mem_report.mpr (.inl hx), herror⟩
    · exact ⟨x, mem_report.mpr (.inr (.inr (.inl hx))), (Rule.kind_of_mem_scan hx).2⟩

end Check

namespace Validator

/-- The standard checks for an entry function, with rules behind the built-in ones. -/
def ofRules (rules : List Rule) (entryName : String) : Validator :=
  { standard with checks := Check.withRules rules, entryName }

variable {entryName : String} {s : Script} {outputs : List Socket}
  {inputs : Option (List Socket)}

theorem judge_ofRules_of_none (hs : s.rejection? = none) :
    ((ofRules rules entryName).judge s outputs inputs).findings =
      Check.report rules (.ofScript s entryName outputs inputs)
        (Check.Coverage.findings (.ofScript s entryName outputs inputs))
        (Check.Heuristics.findings (.ofScript s entryName outputs inputs)) :=
  Check.judge_findings rfl hs

theorem judge_hasErrors_iff :
    ((ofRules rules entryName).judge s outputs inputs).hasErrors = true ↔
      (∃ r, s.rejection? = some r) ∨ (∀ n ∈ s.topLevel, ¬ n.Declares s.source entryName) ∨
        (∃ n ∈ s.topLevel, n.kind = .returnStatement) ∨
          ∃ line ∈ lines s.source, ∃ r ∈ Rule.withBuiltin rules,
            r.matchesLine line = true := by
  rw [Result.hasErrors_iff]
  cases hs : s.rejection? with
  | some r =>
      rw [judge_of_rejection hs]
      simp [Rejection.finding, Finding.atLocation]
  | none =>
      rw [judge_ofRules_of_none hs, Check.exists_error_report_iff,
        Context.function?_eq_none_iff]
      simp [Context.ofScript, Context.source]

/-- A result has errors unless the text is a script that declares its entry function,
returns only in functions and matches no rule. So the sockets have no say in it. -/
theorem validate_hasErrors_iff (rules : List Rule) (entryName : String)
    (text : List Char) :
    (∀ outputs inputs,
      ((∃ x ∈ ((ofRules rules entryName).validate text outputs inputs).findings,
          x.severity = .error) ↔
        ((ofRules rules entryName).validate text outputs inputs).hasErrors = true) ∧
      (((ofRules rules entryName).validate text outputs inputs).hasErrors = true ↔
        (∃ r, Script.parse text = .error r) ∨
          (∀ n ∈ (Script.ofText text).topLevel, ¬ n.Declares text entryName) ∨
          (∃ n ∈ (Script.ofText text).topLevel, n.kind = .returnStatement) ∨
          ∃ line ∈ lines text, ∃ r ∈ Rule.withBuiltin rules, r.matchesLine line = true)) ∧
      ∀ outputs inputs outputs' inputs',
        ((ofRules rules entryName).validate text outputs inputs).hasErrors =
          ((ofRules rules entryName).validate text outputs' inputs').hasErrors := by
  have herrors (outputs : List Socket) (inputs : Option (List Socket)) :
      ((ofRules rules entryName).validate text outputs inputs).hasErrors = true ↔ _ :=
    judge_hasErrors_iff
  refine ⟨fun outputs inputs => ⟨Result.hasErrors_iff.symm, ?_⟩, ?_⟩
  · simp only [Script.parse_eq_error_iff]
    exact herrors outputs inputs
  · intro outputs inputs outputs' inputs'
    rw [Bool.eq_iff_iff, herrors, herrors]

end Validator

end ScriptLint
