import ScriptLint.Proofs.Check.Firsts
import ScriptLint.Proofs.Check.Note
import ScriptLint.Proofs.Validator.Verdict

namespace ScriptLint

open ScriptLint.Script

/-! What declaring one more socket changes in the findings of the standard checks: what
asked for it goes, and all else stays as and where it was. -/

/-! ### One more socket -/

namespace Context

def declareOutput (c : Context) (k : Socket) : Context :=
  { c with outputs := c.outputs ++ [k] }

def declareInput (c : Context) (k : Socket) : Context :=
  { c with inputs := c.inputs.map (· ++ [k]) }

@[simp] theorem function?_declareOutput (c : Context) (k : Socket) :
    (c.declareOutput k).function? = c.function? := rfl

@[simp] theorem function?_declareInput (c : Context) (k : Socket) :
    (c.declareInput k).function? = c.function? := rfl

@[simp] theorem source_declareInput (c : Context) (k : Socket) :
    (c.declareInput k).source = c.source := rfl

def inputName? (c : Context) : Option String :=
  c.function?.bind fun f => f.paramName? c.source 0

theorem declaresOutput_declareOutput (c : Context) (k : Socket) (name : String) :
    (c.declareOutput k).declaresOutput name =
      (c.declaresOutput name || k.name == name) := by
  simp [declaresOutput, declareOutput]

theorem declaresOutput_eq_true_iff {c : Context} {name : String} :
    c.declaresOutput name = true ↔ name ∈ c.outputs.map (·.name) := by
  simp [declaresOutput]

end Context

namespace Check

variable {c : Context} {f : Node} {k : Socket}

namespace Coverage

variable {name : String}

theorem mem_names_returnedKeys {source : List Char} :
    name ∈ (returnedKeys source f).map (·.1) ↔
      name ∈ (returnedNames source f).map (·.1) := by
  rw [returnedKeys, mem_names_firsts]
  simp

theorem missing_eq (c : Context) (f : Node) :
    missing c f =
      c.outputs.filter fun o => o.name ∉ (returnedNames c.source f).map (·.1) := by
  refine List.filter_congr fun o _ => ?_
  have hname : (returnedKeys c.source f).any (fun key => key.1 == o.name) = true ↔
      o.name ∈ (returnedNames c.source f).map (·.1) := by
    rw [← mem_names_returnedKeys, List.mem_map]
    simp only [List.any_eq_true, beq_iff_eq]
  rw [Bool.eq_iff_iff, decide_eq_true_iff, ← hname, Bool.not_eq_true, Bool.not_eq_true']

theorem extra_declareOutput (c : Context) (f : Node) (k : Socket) :
    extra (c.declareOutput k) f = (extra c f).filter fun key => key.1 != k.name := by
  unfold extra
  rw [List.filter_filter]
  refine List.filter_congr fun key _ => ?_
  rw [Context.declaresOutput_declareOutput, Bool.not_or, Bool.and_comm, bne_comm]
  rfl

theorem missing_declareOutput (c : Context) (f : Node) (k : Socket) :
    missing (c.declareOutput k) f =
      missing c f ++
        [k].filter fun o => !(returnedKeys c.source f).any fun key => key.1 == o.name :=
  List.filter_append ..

theorem count_extra (hdeclared : k.name ∉ c.outputs.map (·.name))
    (hreturned : k.name ∈ (returnedNames c.source f).map (·.1)) :
    (extra c f).countP (fun key => key.1 == k.name) = 1 := by
  have hnodup : ((extra c f).map (·.1)).Nodup :=
    (nodup_names_firsts _ _).sublist (List.filter_sublist.map _)
  have hmem : k.name ∈ (extra c f).map (·.1) := by
    obtain ⟨key, hkey, hname⟩ := List.mem_map.mp (mem_names_returnedKeys.mpr hreturned)
    refine List.mem_map.mpr ⟨key, List.mem_filter.mpr ⟨hkey, ?_⟩, hname⟩
    rw [Bool.not_eq_true', ← Bool.not_eq_true, Context.declaresOutput_eq_true_iff, hname]
    exact hdeclared
  have hcount := List.count_eq_one_of_mem hnodup hmem
  rw [List.count, List.countP_map] at hcount
  exact hcount

/-- Declaring a name that is returned takes out what noted it. -/
theorem findings_declareOutput_returned (hf : c.function? = some f)
    (houtputs : c.outputs ≠ [])
    (hreturned : k.name ∈ (returnedNames c.source f).map (·.1)) :
    findings (c.declareOutput k) =
      (findings c).filter fun x => !x.isExtraNote c.entryName k.name := by
  have hmissing : missing (c.declareOutput k) f = missing c f := by
    obtain ⟨key, hkey, hname⟩ := List.mem_map.mp (mem_names_returnedKeys.mpr hreturned)
    have hany : (returnedKeys c.source f).any (fun key => key.1 == k.name) = true :=
      List.any_eq_true.mpr ⟨key, hkey, beq_iff_eq.mpr hname⟩
    rw [missing_declareOutput, List.filter_singleton, hany]
    exact List.append_nil _
  rw [findings_of_some (c := c.declareOutput k) hf
    (List.append_ne_nil_of_left_ne_nil houtputs _),
    findings_of_some hf houtputs, List.filter_append,
    Finding.filter_not_eq_self isExtraNote_of_mem_missing, hmissing, extra_declareOutput,
    List.filter_map]
  congr 2
  refine List.filter_congr fun key _ => ?_
  rw [Function.comp_apply, isExtraNote_extraFinding]
  rfl

theorem countP_isExtraNote (hf : c.function? = some f) (houtputs : c.outputs ≠ [])
    (hdeclared : k.name ∉ c.outputs.map (·.name))
    (hreturned : k.name ∈ (returnedNames c.source f).map (·.1)) :
    (findings c).countP (Finding.isExtraNote c.entryName k.name) = 1 := by
  rw [findings_of_some hf houtputs, List.countP_append,
    Finding.countP_eq_zero isExtraNote_of_mem_missing, Nat.zero_add, List.countP_map]
  refine Eq.trans (List.countP_congr fun key _ => ?_) (count_extra hdeclared hreturned)
  rw [Function.comp_apply, isExtraNote_extraFinding]

/-- Declaring a name that is not returned adds a warning behind the others. -/
theorem findings_declareOutput_missing (hf : c.function? = some f)
    (houtputs : c.outputs ≠ [])
    (hreturned : k.name ∉ (returnedNames c.source f).map (·.1)) :
    findings (c.declareOutput k) =
      (missing c f).map (missingFinding c.entryName (c.line f)) ++
      missingFinding c.entryName (c.line f) k ::
        (extra c f).map (extraFinding c.entryName) := by
  have hkey : ∀ key ∈ returnedKeys c.source f, key.1 ≠ k.name := fun key hkey hname =>
    hreturned (mem_names_returnedKeys.mp (List.mem_map.mpr ⟨key, hkey, hname⟩))
  have hmissing : missing (c.declareOutput k) f = missing c f ++ [k] := by
    have hany : (returnedKeys c.source f).any (fun key => key.1 == k.name) = false :=
      List.any_eq_false.mpr fun key h => by simpa using hkey key h
    rw [missing_declareOutput, List.filter_singleton, hany]
    rfl
  have hextra : extra (c.declareOutput k) f = extra c f := by
    rw [extra_declareOutput]
    refine List.filter_eq_self.mpr fun key h => ?_
    simpa using hkey key (List.mem_of_mem_filter h)
  rw [findings_of_some (c := c.declareOutput k) hf
    (List.append_ne_nil_of_left_ne_nil houtputs _),
    hmissing, hextra, List.map_append, List.append_assoc]
  rfl

end Coverage

namespace Heuristics

variable {name param : String}

/-- The result is noted unless an output has its name, and nothing else is said of it. -/
theorem unusedResult_declareOutput (c : Context) (f : Node) (k : Socket) :
    unusedResult (c.declareOutput k) f =
      (unusedResult c f).filter fun x => !x.isUnusedNote k.name := by
  by_cases hk : k.name = "result"
  · have hafter : unusedResult (c.declareOutput k) f = [] := by
      unfold unusedResult
      rw [Context.declaresOutput_declareOutput, hk]
      cases h : (codeMatches (c.declareOutput k).source resultDeclaration).head? with
      | none => rfl
      | some line => simp
    -- Every finding of this heuristic is the note on the result.
    rw [hafter, eq_comm, List.filter_eq_nil_iff]
    intro x hx
    simp [Finding.isUnusedNote, hk, isResultNote_of_mem_unusedResult hx]
  · have hsame : unusedResult (c.declareOutput k) f = unusedResult c f := by
      unfold unusedResult
      rw [Context.declaresOutput_declareOutput, beq_false_of_ne hk, Bool.or_false]
      rfl
    rw [hsame, Finding.filter_not_eq_self]
    intro x _
    rw [Finding.isUnusedNote, beq_false_of_ne hk, Bool.false_and]

theorem findings_declareOutput (c : Context) (k : Socket) :
    findings (c.declareOutput k) = (findings c).filter fun x =>
      !x.isUnusedNote k.name := by
  have hambient : ∀ x ∈ ambientOutputs c, x.isUnusedNote k.name = false :=
    fun x hx => Finding.isUnusedNote_of_isResultNote _ (isNote_of_mem_ambientOutputs hx)
  have hstring : ∀ x ∈ stringTypes c, x.isUnusedNote k.name = false :=
    fun x hx => Finding.isUnusedNote_of_isResultNote _ (isResultNote_of_mem_stringTypes hx)
  rw [findings_eq, findings_eq, List.filter_append, List.filter_append, List.filter_append,
    Finding.filter_not_eq_self hambient, Finding.filter_not_eq_self hstring,
    Context.function?_declareOutput]
  cases hf : c.function? with
  | none => rfl
  | some f =>
      have hinputs : ∀ x ∈ undeclaredInputs c f, x.isUnusedNote k.name = false :=
        fun x hx =>
          Finding.isUnusedNote_of_isResultNote _ (isResultNote_of_mem_undeclaredInputs hx)
      simp only [Option.map_some, Option.getD_some, unusedResult_declareOutput,
        Finding.filter_not_eq_self hinputs]
      rfl

theorem undeclaredInputs_declareInput {inputs : List Socket}
    (hinputs : c.inputs = some inputs) (hparam : f.paramName? c.source 0 = some param) :
    undeclaredInputs (c.declareInput k) f =
      (undeclaredInputs c f).filter fun x => !x.isUndeclaredNote param k.name := by
  have hafter : (c.declareInput k).inputs = some (inputs ++ [k]) := by
    simp [Context.declareInput, hinputs]
  cases hbody : f.body? with
  | none => simp [undeclaredInputs, hbody]
  | some body =>
      have hseen (name : String) : name ∈ (inputs ++ [k]).map (·.name) ↔
          name ∈ inputs.map (·.name) ∨ name = k.name := by
        simp
      simp only [undeclaredInputs, hafter, hinputs, hparam, hbody,
        Context.source_declareInput, firsts_of_mem_iff hseen, List.filter_map]
      congr 1
      refine List.filter_congr fun access _ => ?_
      rw [Function.comp_apply, isUndeclaredNote_undeclaredFinding]
      rfl

theorem countP_undeclaredInputs_le (name : String)
    (hparam : f.paramName? c.source 0 = some param) :
    (undeclaredInputs c f).countP (Finding.isUndeclaredNote param name) ≤ 1 := by
  cases hinputs : c.inputs with
  | none => simp [undeclaredInputs, hinputs]
  | some inputs =>
      cases hbody : f.body? with
      | none => simp [undeclaredInputs, hbody]
      | some body =>
          have hnodup :=
            nodup_names_firsts (inputs.map (·.name)) (reads c.source param body)
          have hcount := List.nodup_iff_count_le_one.mp hnodup name
          rw [List.count, List.countP_map] at hcount
          simp only [undeclaredInputs, hinputs, hparam, hbody, List.countP_map]
          refine le_of_eq_of_le (List.countP_congr fun access _ => ?_) hcount
          rw [Function.comp_apply, isUndeclaredNote_undeclaredFinding]
          rfl

theorem undeclaredInputs_of_none (hparam : f.paramName? c.source 0 = none) :
    undeclaredInputs c f = [] := by
  unfold undeclaredInputs
  rw [hparam]
  split
  · rename_i h _
    cases h
  · rfl

theorem findings_declareInput {inputs : List Socket} (hinputs : c.inputs = some inputs)
    (hname : c.inputName? = some param) (k : Socket) :
    (findings c).countP (Finding.isUndeclaredNote param k.name) ≤ 1 ∧
      findings (c.declareInput k) =
        (findings c).filter fun x => !x.isUndeclaredNote param k.name := by
  obtain ⟨f, hf, hparam⟩ := Option.bind_eq_some_iff.mp hname
  have hambient : ∀ x ∈ ambientOutputs c, x.isUndeclaredNote param k.name = false :=
    fun x hx => isNote_of_mem_ambientOutputs hx
  have hresult : ∀ x ∈ unusedResult c f, x.isUndeclaredNote param k.name = false :=
    fun x hx => isUndeclaredNote_of_mem_unusedResult hx
  have hstring : ∀ x ∈ stringTypes c, x.isUndeclaredNote param k.name = false :=
    fun x hx => isUndeclaredNote_of_mem_stringTypes hx
  constructor
  · have hcount := countP_undeclaredInputs_le k.name hparam
    simp only [findings_eq, hf, Option.map_some, Option.getD_some, List.countP_append,
      Finding.countP_eq_zero hambient, Finding.countP_eq_zero hresult,
      Finding.countP_eq_zero hstring]
    omega
  · simp only [findings_eq, Context.function?_declareInput, hf, Option.map_some,
      Option.getD_some, List.filter_append, Finding.filter_not_eq_self hambient,
      Finding.filter_not_eq_self hresult, Finding.filter_not_eq_self hstring,
      undeclaredInputs_declareInput hinputs hparam]
    rfl

theorem findings_declareInput_of_none (hname : c.inputName? = none) (k : Socket) :
    findings (c.declareInput k) = findings c := by
  rw [findings_eq, findings_eq, Context.function?_declareInput]
  cases hf : c.function? with
  | none => rfl
  | some f =>
      have hparam : f.paramName? c.source 0 = none := by
        rw [Context.inputName?, hf] at hname
        exact hname
      simp only [Option.map_some, Option.getD_some, undeclaredInputs_of_none hparam]
      rw [undeclaredInputs_of_none (c := c.declareInput k) hparam]
      rfl

end Heuristics

end Check

/-! ### The findings of all checks -/

/-- What changes when one more output is declared. -/
structure OutputDeclared (c : Context) (k : Socket)
    (before after : List Finding) : Prop where
  /-- A returned name: one note on it goes. -/
  returned : ∀ f, c.function? = some f →
    k.name ∈ (Check.Coverage.returnedNames c.source f).map (·.1) →
      before.countP (Finding.isExtraNote c.entryName k.name) = 1 ∧
        after = (before.filter fun x => !x.isExtraNote c.entryName k.name).filter fun x =>
          !x.isUnusedNote k.name
  /-- A name that is not returned: a warning comes right after those on other such
  names. -/
  missing : ∀ f, c.function? = some f →
    k.name ∉ (Check.Coverage.returnedNames c.source f).map (·.1) →
      ∃ warnings back, before = Check.Structure.findings c ++ warnings ++ back ∧
        (∀ x ∈ warnings, x.isMissingWarning = true) ∧
        (∀ x ∈ Check.Structure.findings c ++ back, x.isMissingWarning = false) ∧
        after = (Check.Structure.findings c ++ warnings ++
          Check.Coverage.missingFinding c.entryName (c.line f) k :: back).filter fun x =>
            !x.isUnusedNote k.name
  absent : c.function? = none → after = before
  /-- There was at most one note on the result. -/
  unused : before.countP Finding.isResultNote ≤ 1

/-- What changes when one more input is declared: the one note on its name goes. -/
structure InputDeclared (c : Context) (k : Socket)
    (before after : List Finding) : Prop where
  named : ∀ param, c.inputName? = some param →
    before.countP (Finding.isUndeclaredNote param k.name) ≤ 1 ∧
      after = before.filter fun x => !x.isUndeclaredNote param k.name
  unnamed : c.inputName? = none → after = before

namespace Check

variable {c : Context} {f : Node} {k : Socket} {rules : List Rule} {p : Finding → Bool}
  {coverage heuristics : List Finding}

/-- The findings of the standard checks, given those of the two checks that look at
sockets. -/
def report (rules : List Rule) (c : Context)
    (coverage heuristics : List Finding) : List Finding :=
  Structure.findings c ++ (coverage ++
    (Rule.scan (Rule.withBuiltin rules) c.source ++ heuristics))

theorem report_declareOutput (c : Context) (k : Socket) :
    report rules (c.declareOutput k) coverage heuristics =
      report rules c coverage heuristics :=
  rfl

theorem judge_findings {v : Validator} {s : Script} {outputs : List Socket}
    {inputs : Option (List Socket)} (hv : v.checks = withRules rules)
    (hs : s.rejection? = none) :
    (v.judge s outputs inputs).findings =
      report rules (v.context s outputs inputs)
        (Coverage.findings (v.context s outputs inputs))
        (Heuristics.findings (v.context s outputs inputs)) := by
  rw [Validator.judge_of_runAll_ok hs (by rw [hv]; exact runAll_withRules _ rules)]
  rfl

/-- What only holds of mismatched outputs is sifted by the check of the outputs. -/
theorem sift_report_coverage (hp : ∀ x : Finding, x.kind ≠ .outputMismatch → p x = false)
    (hheuristics : ∀ x ∈ heuristics, x.kind = .bestPractice) :
    (report rules c coverage heuristics).countP p = coverage.countP p ∧
      ((report rules c coverage heuristics).filter fun x => !p x) =
        report rules c (coverage.filter fun x => !p x) heuristics := by
  have hstructure : ∀ x ∈ Structure.findings c, p x = false :=
    fun x hx => hp x (Structure.kind_ne_outputMismatch hx)
  have hscan : ∀ x ∈ Rule.scan (Rule.withBuiltin rules) c.source, p x = false := by
    intro x hx
    exact hp x (by rw [(Rule.kind_of_mem_scan hx).1]; decide)
  have hrest : ∀ x ∈ heuristics, p x = false := by
    intro x hx
    exact hp x (by rw [hheuristics x hx]; decide)
  constructor
  · simp only [report, List.countP_append, Finding.countP_eq_zero hstructure,
      Finding.countP_eq_zero hscan, Finding.countP_eq_zero hrest, Nat.zero_add,
      Nat.add_zero]
  · simp only [report, List.filter_append, Finding.filter_not_eq_self hstructure,
      Finding.filter_not_eq_self hscan, Finding.filter_not_eq_self hrest]

/-- What only holds of notes that the heuristics make is sifted by them. -/
theorem sift_report_heuristics (hp : ∀ x : Finding, x.kind ≠ .bestPractice → p x = false)
    (hstructure : ∀ x ∈ Structure.findings c, p x = false)
    (hcoverage : ∀ x ∈ coverage, x.kind = .outputMismatch) :
    (report rules c coverage heuristics).countP p = heuristics.countP p ∧
      ((report rules c coverage heuristics).filter fun x => !p x) =
        report rules c coverage (heuristics.filter fun x => !p x) := by
  have hscan : ∀ x ∈ Rule.scan (Rule.withBuiltin rules) c.source, p x = false := by
    intro x hx
    exact hp x (by rw [(Rule.kind_of_mem_scan hx).1]; decide)
  have hrest : ∀ x ∈ coverage, p x = false := by
    intro x hx
    exact hp x (by rw [hcoverage x hx]; decide)
  constructor
  · simp only [report, List.countP_append, Finding.countP_eq_zero hstructure,
      Finding.countP_eq_zero hscan, Finding.countP_eq_zero hrest, Nat.zero_add]
  · simp only [report, List.filter_append, Finding.filter_not_eq_self hstructure,
      Finding.filter_not_eq_self hscan, Finding.filter_not_eq_self hrest]

theorem filter_report_unused (hcoverage : ∀ x ∈ coverage, x.kind = .outputMismatch) :
    ((report rules c coverage (Heuristics.findings c)).filter
      fun x => !x.isUnusedNote k.name) =
      report rules c coverage (Heuristics.findings (c.declareOutput k)) := by
  have hkind (x : Finding) (hx : x.kind ≠ .bestPractice) : x.isUnusedNote k.name = false :=
    Finding.isUnusedNote_of_isResultNote _ (Finding.isNote_of_kind_ne hx)
  have hstructure : ∀ x ∈ Structure.findings c, x.isUnusedNote k.name = false :=
    fun x hx => Finding.isUnusedNote_of_isResultNote _ (Structure.isResultNote_of_mem hx)
  rw [(sift_report_heuristics hkind hstructure hcoverage).2,
    Heuristics.findings_declareOutput]

theorem outputDeclared_report (houtputs : c.outputs ≠ [])
    (hdeclared : k.name ∉ c.outputs.map (·.name)) :
    OutputDeclared c k (report rules c (Coverage.findings c) (Heuristics.findings c))
      (report rules (c.declareOutput k) (Coverage.findings (c.declareOutput k))
        (Heuristics.findings (c.declareOutput k))) where
  returned := by
    intro f hf hreturned
    have hextra (x : Finding) (hx : x.kind ≠ .outputMismatch) :
        x.isExtraNote c.entryName k.name = false := Finding.isNote_of_kind_ne hx
    have hheuristics : ∀ x ∈ Heuristics.findings c, x.kind = .bestPractice :=
      fun x hx => (Heuristics.kind_of_mem hx).1
    obtain ⟨hcount, hfilter⟩ := sift_report_coverage hextra hheuristics
    constructor
    · rw [hcount]
      exact Coverage.countP_isExtraNote hf houtputs hdeclared hreturned
    · rw [hfilter, ← Coverage.findings_declareOutput_returned hf houtputs hreturned,
        filter_report_unused fun x hx => Coverage.kind_of_mem hx, report_declareOutput]
  missing := by
    intro f hf hreturned
    have hbefore := Coverage.findings_of_some hf houtputs
    have hafter := Coverage.findings_declareOutput_missing hf houtputs hreturned
    refine ⟨(Coverage.missing c f).map (Coverage.missingFinding c.entryName (c.line f)),
      (Coverage.extra c f).map (Coverage.extraFinding c.entryName) ++
        (Rule.scan (Rule.withBuiltin rules) c.source ++ Heuristics.findings c),
        ?_, ?_, ?_, ?_⟩
    · rw [hbefore, report]
      simp only [List.append_assoc]
    · intro x hx
      obtain ⟨o, -, rfl⟩ := List.mem_map.mp hx
      rfl
    · intro x hx
      rcases List.mem_append.mp hx with hstructure | hback
      · exact Finding.isMissingWarning_of_kind_ne
          (Structure.kind_ne_outputMismatch hstructure)
      rcases List.mem_append.mp hback with hextra | hback
      · obtain ⟨key, -, rfl⟩ := List.mem_map.mp hextra
        rfl
      rcases List.mem_append.mp hback with hscan | hheuristics
      · refine Finding.isMissingWarning_of_kind_ne ?_
        rw [(Rule.kind_of_mem_scan hscan).1]
        decide
      · refine Finding.isMissingWarning_of_kind_ne ?_
        rw [(Heuristics.kind_of_mem hheuristics).1]
        decide
    · rw [report_declareOutput, ← filter_report_unused fun x hx => Coverage.kind_of_mem hx,
        hafter, report]
      simp only [List.append_assoc, List.cons_append]
  absent := by
    intro hf
    have hheuristics :
        Heuristics.findings (c.declareOutput k) = Heuristics.findings c := by
      rw [Heuristics.findings_eq, Heuristics.findings_eq, Context.function?_declareOutput,
        hf]
      rfl
    rw [hheuristics, Coverage.findings_of_none hf,
      Coverage.findings_of_none (c := c.declareOutput k) hf]
    rfl
  unused := by
    have hkind (x : Finding) (hx : x.kind ≠ .bestPractice) : x.isResultNote = false :=
      Finding.isNote_of_kind_ne hx
    have hstructure : ∀ x ∈ Structure.findings c, x.isResultNote = false :=
      fun x hx => Structure.isResultNote_of_mem hx
    rw [(sift_report_heuristics hkind hstructure fun x hx => Coverage.kind_of_mem hx).1]
    exact Heuristics.countP_isResultNote_le c

theorem inputDeclared_report {inputs : List Socket} (hinputs : c.inputs = some inputs) :
    InputDeclared c k (report rules c (Coverage.findings c) (Heuristics.findings c))
      (report rules (c.declareInput k) (Coverage.findings (c.declareInput k))
        (Heuristics.findings (c.declareInput k))) where
  named := by
    intro param hname
    have hstructure :
        ∀ x ∈ Structure.findings c, x.isUndeclaredNote param k.name = false :=
      fun x hx => Structure.isUndeclaredNote_of_mem hx
    have hkind (x : Finding) (hx : x.kind ≠ .bestPractice) :
        x.isUndeclaredNote param k.name = false := Finding.isNote_of_kind_ne hx
    have hcoverage : ∀ x ∈ Coverage.findings c, x.kind = .outputMismatch :=
      fun x hx => Coverage.kind_of_mem hx
    obtain ⟨hcount, hfilter⟩ := sift_report_heuristics hkind hstructure hcoverage
    obtain ⟨hle, hafter⟩ := Heuristics.findings_declareInput hinputs hname k
    constructor
    · rw [hcount]
      exact hle
    · rw [hfilter, ← hafter]
      rfl
  unnamed := by
    intro hname
    rw [Heuristics.findings_declareInput_of_none hname]
    rfl

end Check

/-! ### A script that asks for both -/

namespace Script

def Node.onLine (kind : Kind) (role : Option Role) (start stop : Nat)
    (children : List Node) : Node :=
  .mk kind role ⟨start, 0, start⟩ stop false children

/-- A script that returns `b` and reads `x`. -/
def returning : Script where
  source := "function processData(i) \x7b return \x7b b: i.x \x7d; \x7d".toList
  root := .onLine .program none 0 46 [
    .onLine .functionDeclaration none 0 46 [
      .onLine (.token "function") none 0 8 [],
      .onLine .identifier (some .name) 9 20 [],
      .onLine (.other "formal_parameters") (some .parameters) 20 23 [
        .onLine (.token "(") none 20 21 [],
        .onLine .identifier none 21 22 [],
        .onLine (.token ")") none 22 23 []],
      .onLine .statementBlock (some .body) 24 46 [
        .onLine (.token "\x7b") none 24 25 [],
        .onLine .returnStatement none 26 44 [
          .onLine (.token "return") none 26 32 [],
          .onLine .object none 33 43 [
            .onLine (.token "\x7b") none 33 34 [],
            .onLine .pair none 35 41 [
              .onLine .propertyIdentifier (some .key) 35 36 [],
              .onLine (.token ":") none 36 37 [],
              .onLine .memberExpression (some .value) 38 41 [
                .onLine .identifier (some .object) 38 39 [],
                .onLine (.token ".") none 39 40 [],
                .onLine .propertyIdentifier (some .property) 40 41 []]],
            .onLine (.token "\x7d") none 42 43 []],
          .onLine (.token ";") none 43 44 []],
        .onLine (.token "\x7d") none 45 46 []]]]
  flawed := false

theorem returning_rejection? : returning.rejection? = none := by
  rw [rejection?_eq_none_iff rfl]
  exact ⟨rfl, by decide, by decide⟩

end Script

namespace Validator

/-- Declaring what a finding asks to declare takes out that finding. -/
theorem judge_declare_socket {v : Validator} {rules : List Rule} {s : Script}
    (hv : v.checks = Check.withRules rules) (hs : s.rejection? = none) :
    (∀ (outputs : List Socket) (inputs : Option (List Socket)) (k : Socket), outputs ≠ [] →
      k.name ∉ outputs.map (·.name) →
        OutputDeclared (v.context s outputs inputs) k (v.judge s outputs inputs).findings
          (v.judge s (outputs ++ [k]) inputs).findings) ∧
      ∀ (outputs inputs : List Socket) (n : Socket),
        InputDeclared (v.context s outputs (some inputs)) n
          (v.judge s outputs (some inputs)).findings
          (v.judge s outputs (some (inputs ++ [n]))).findings := by
  constructor
  · intro outputs inputs k houtputs hdeclared
    rw [Check.judge_findings hv hs, Check.judge_findings hv hs]
    exact Check.outputDeclared_report houtputs hdeclared
  · intro outputs inputs n
    rw [Check.judge_findings hv hs, Check.judge_findings hv hs]
    exact Check.inputDeclared_report rfl

theorem judge_returning_declare :
    ((standard.judge .returning [⟨"a", .any⟩] (some [])).findings.countP
        (Finding.isExtraNote "processData" "b") = 1 ∧
      (standard.judge .returning [⟨"a", .any⟩, ⟨"b", .any⟩] (some [])).findings =
        ((standard.judge .returning [⟨"a", .any⟩] (some [])).findings.filter
          fun x => !x.isExtraNote "processData" "b").filter fun x => !x.isUnusedNote "b") ∧
      (standard.judge .returning [⟨"a", .any⟩] (some [⟨"x", .any⟩])).findings =
        (standard.judge .returning [⟨"a", .any⟩] (some [])).findings.filter
          fun x => !x.isUndeclaredNote "i" "x" := by
  have h := @judge_declare_socket standard [] .returning rfl Script.returning_rejection?
  have houtput := h.1 [⟨"a", .any⟩] (some []) ⟨"b", .any⟩ (by decide) (by decide)
  have hinput := h.2 [⟨"a", .any⟩] [] ⟨"x", .any⟩
  exact ⟨houtput.returned _ rfl (by decide), (hinput.named "i" rfl).2⟩

end Validator

end ScriptLint
