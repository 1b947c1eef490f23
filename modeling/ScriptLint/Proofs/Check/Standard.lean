import ScriptLint.Proofs.Check.Run

namespace ScriptLint

open ScriptLint.Script

/-! What the standard checks report together, and what can be told of a finding from the
check that made it. -/

namespace Check

variable {c : Context} {f : Node} {x : Finding}

theorem runAll_withRules (c : Context) (extra : List Rule) :
    runAll c (withRules extra) =
      .ok (Structure.findings c ++ (Coverage.findings c ++
        (Rule.scan (Rule.withBuiltin extra) c.source ++ Heuristics.findings c))) := by
  simp [runAll, withRules, entryFunction, coverage, security, heuristics, ofFindings,
    Except.map]

/-- No check of a node fails or takes any time. -/
theorem eq_ofFindings_of_mem {extra : List Rule} {k : Check} (hk : k ∈ withRules extra) :
    ∃ f, k = ofFindings k.name k.description f := by
  simp only [withRules, List.mem_cons, List.not_mem_nil, or_false] at hk
  rcases hk with rfl | rfl | rfl | rfl <;> exact ⟨_, rfl⟩

namespace Structure

theorem mem_repeated {line : Nat} (hx : x ∈ repeated c line) :
    x.kind = .bestPractice ∧ x.severity = .warning := by
  by_cases hcount : c.entry.declarations.length > 1
  · rw [repeated, if_pos hcount] at hx
    obtain rfl := List.mem_singleton.mp hx
    exact ⟨rfl, rfl⟩
  · rw [repeated, if_neg hcount] at hx
    cases hx

/-- A note on the parameters shows at its end how they should be. -/
theorem mem_fewParams {line : Nat} (hx : x ∈ fewParams c f line) :
    x.kind = .bestPractice ∧
      (x.severity = .warning ∨
        x.severity = .info ∧ ∃ text, x.message = text ++ "(inputs, properties)\x60") := by
  unfold fewParams at hx
  split at hx
  · obtain rfl := List.mem_singleton.mp hx
    exact ⟨rfl, .inl rfl⟩
  · split at hx
    · obtain rfl := List.mem_singleton.mp hx
      exact ⟨rfl, .inr ⟨rfl, _, (String.append_assoc ..).symm⟩⟩
    · cases hx
  · cases hx

/-- What is no error is a best practice, and what is a note tells the parameters. -/
theorem mem_findings (hx : x ∈ findings c) :
    ((x.kind = .missingFunction ∨ x.kind = .syntaxError) ∧ x.severity = .error) ∨
      (x.kind = .bestPractice ∧
        (x.severity = .warning ∨
          x.severity = .info ∧
            ∃ text, x.message = text ++ "(inputs, properties)\x60")) := by
  rcases List.mem_append.mp hx with hentry | hreturn
  · unfold entryFindings at hentry
    split at hentry
    · obtain rfl := List.mem_singleton.mp hentry
      exact .inl ⟨.inl rfl, rfl⟩
    · rcases List.mem_append.mp hentry with hrepeated | hfew
      · exact .inr ⟨(mem_repeated hrepeated).1, .inl (mem_repeated hrepeated).2⟩
      · exact .inr (mem_fewParams hfew)
  · obtain ⟨n, -, rfl⟩ := List.mem_map.mp hreturn
    exact .inl ⟨.inr rfl, rfl⟩

theorem kind_ne_outputMismatch (hx : x ∈ findings c) : x.kind ≠ .outputMismatch := by
  intro hkind
  rcases mem_findings hx with ⟨h | h, -⟩ | ⟨h, -⟩ <;> cases hkind.symm.trans h

theorem message_of_note (hx : x ∈ findings c) (hnote : x.severity = .info) :
    ∃ text, x.message = text ++ "(inputs, properties)\x60" := by
  rcases mem_findings hx with ⟨-, h⟩ | ⟨-, h | ⟨-, h⟩⟩
  · cases hnote.symm.trans h
  · cases hnote.symm.trans h
  · exact h

end Structure

namespace Coverage

def missing (c : Context) (f : Node) : List Socket :=
  c.outputs.filter fun o => !(returnedKeys c.source f).any fun k => k.1 == o.name

def extra (c : Context) (f : Node) : List (String × Nat) :=
  (returnedKeys c.source f).filter fun k => !c.declaresOutput k.1

theorem findings_of_none (hf : c.function? = none) : findings c = [] := by
  rw [findings, hf]

theorem findings_of_some (hf : c.function? = some f) (houtputs : c.outputs ≠ []) :
    findings c = (missing c f).map (missingFinding c.entryName (c.line f)) ++
      (extra c f).map (extraFinding c.entryName) := by
  simp only [findings, hf, List.isEmpty_iff, if_neg houtputs, missing, extra]

theorem kind_of_mem (hx : x ∈ findings c) : x.kind = .outputMismatch := by
  unfold findings at hx
  split at hx
  · cases hx
  · split at hx
    · cases hx
    · rcases List.mem_append.mp hx with hmissing | hextra
      · obtain ⟨o, -, rfl⟩ := List.mem_map.mp hmissing
        rfl
      · obtain ⟨k, -, rfl⟩ := List.mem_map.mp hextra
        rfl

end Coverage

end Check

theorem Rule.kind_of_mem_scan {rules : List Rule} {source : List Char} {x : Finding}
    (hx : x ∈ scan rules source) : x.kind = .security ∧ x.severity = .error := by
  obtain ⟨⟨line, number⟩, -, hline⟩ := List.mem_flatMap.mp hx
  obtain ⟨r, -, rfl⟩ := List.mem_map.mp hline
  exact ⟨rfl, rfl⟩

theorem Rule.kind_ne_outputMismatch {rules : List Rule} {source : List Char} {x : Finding}
    (hx : x ∈ scan rules source) : x.kind ≠ .outputMismatch := by
  rw [(kind_of_mem_scan hx).1]
  decide

namespace Check.Heuristics

variable {c : Context} {f : Node} {x : Finding}

theorem mem_ambientOutputs (hx : x ∈ ambientOutputs c) :
    x.kind = .bestPractice ∧ x.severity = .warning := by
  unfold ambientOutputs at hx
  split at hx
  · cases hx
  · split at hx
    · cases hx
    · obtain rfl := List.mem_singleton.mp hx
      exact ⟨rfl, rfl⟩

theorem mem_unusedResult (hx : x ∈ unusedResult c f) :
    x.kind = .bestPractice ∧ x.severity = .info ∧
      x.message =
        "\x60result\x60 is computed but never returned; include it in the returned " ++
        "object, e.g. \x60return \x7b Output: result \x7d\x60" := by
  unfold unusedResult at hx
  split at hx
  · cases hx
  · split at hx
    · cases hx
    · obtain rfl := List.mem_singleton.mp hx
      exact ⟨rfl, rfl, rfl⟩

theorem length_unusedResult_le (c : Context) (f : Node) :
    (unusedResult c f).length ≤ 1 := by
  unfold unusedResult
  split
  · exact Nat.zero_le _
  · split
    · exact Nat.zero_le _
    · exact Nat.le_refl _

theorem mem_stringTypes (hx : x ∈ stringTypes c) :
    x.kind = .bestPractice ∧ x.severity = .info ∧
      x.message =
        "\x60\"string\"\x60 is not a valid dataType; use \x60\"text\"\x60 for string values" := by
  obtain ⟨line, -, rfl⟩ := List.mem_map.mp hx
  exact ⟨rfl, rfl, rfl⟩

theorem mem_undeclaredInputs (hx : x ∈ undeclaredInputs c f) :
    x.kind = .bestPractice ∧ x.severity = .info ∧
      ∃ text, x.message = text ++ "it will be undefined at runtime" := by
  unfold undeclaredInputs at hx
  split at hx
  · obtain ⟨access, -, rfl⟩ := List.mem_map.mp hx
    exact ⟨rfl, rfl, _, rfl⟩
  · cases hx

theorem findings_eq (c : Context) :
    findings c = ambientOutputs c ++ (c.function?.map (unusedResult c)).getD [] ++
    stringTypes c ++
      (c.function?.map (undeclaredInputs c)).getD [] := rfl

theorem kind_of_mem (hx : x ∈ findings c) :
    x.kind = .bestPractice ∧ (x.severity = .warning ∨ x.severity = .info) := by
  rcases List.mem_append.mp hx with hx | hinputs
  · rcases List.mem_append.mp hx with hx | hstring
    · rcases List.mem_append.mp hx with hambient | hresult
      · exact ⟨(mem_ambientOutputs hambient).1, .inl (mem_ambientOutputs hambient).2⟩
      · cases hf : c.function? with
        | none => simp [hf] at hresult
        | some f =>
            have hmem : x ∈ unusedResult c f := by simpa [hf] using hresult
            exact ⟨(mem_unusedResult hmem).1, .inr (mem_unusedResult hmem).2.1⟩
    · exact ⟨(mem_stringTypes hstring).1, .inr (mem_stringTypes hstring).2.1⟩
  · cases hf : c.function? with
    | none => simp [hf] at hinputs
    | some f =>
        have hmem : x ∈ undeclaredInputs c f := by simpa [hf] using hinputs
        exact ⟨(mem_undeclaredInputs hmem).1, .inr (mem_undeclaredInputs hmem).2.1⟩

theorem kind_ne_outputMismatch (hx : x ∈ findings c) : x.kind ≠ .outputMismatch := by
  rw [(kind_of_mem hx).1]
  decide

end Check.Heuristics

end ScriptLint
