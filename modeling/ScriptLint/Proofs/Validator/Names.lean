import ScriptLint.Proofs.Check.Sockets

namespace ScriptLint

open ScriptLint.Script

/-! What of the declared sockets shows in a result: the names of the inputs as a set, and
those of the outputs in the order in which warnings name them. -/

/-- The lists name the same sockets, each in its own order and with its own repetitions. -/
def Socket.SameNames (sockets sockets' : List Socket) : Prop :=
  ∀ name, name ∈ sockets.map (·.name) ↔ name ∈ sockets'.map (·.name)

namespace Socket.SameNames

variable {sockets sockets' : List Socket}

theorem of_perm (h : sockets.Perm sockets') : SameNames sockets sockets' :=
  fun _ => (h.map _).mem_iff

theorem refl : ∀ sockets : Option (List Socket), Option.Rel SameNames sockets sockets
  | none => .none
  | some _ => .some fun _ => Iff.rfl

theorem of_map_eq (h : sockets.map (·.name) = sockets'.map (·.name)) :
    SameNames sockets sockets' :=
  fun _ => by rw [h]

end Socket.SameNames

variable {s : Script} {entryName : String} {outputs outputs' : List Socket}
  {inputs inputs' : Option (List Socket)}

theorem Context.declaresOutput_congr (h : Socket.SameNames outputs' outputs)
    (name : String) :
    (ofScript s entryName outputs' inputs').declaresOutput name =
      (ofScript s entryName outputs inputs).declaresOutput name := by
  rw [Bool.eq_iff_iff, declaresOutput_eq_true_iff, declaresOutput_eq_true_iff]
  exact h name

/-! ### The warnings -/

def Script.missingWarnings (s : Script) (entryName : String) (outputs : List Socket) :
    List Finding :=
  match (Entry.locate s entryName).function? with
  | none => []
  | some f =>
      (outputs.filter fun o =>
          o.name ∉ (Check.Coverage.returnedNames s.source f).map (·.1)).map
        (Check.Coverage.missingFinding entryName (f.location s.source).line)

theorem Script.missingWarnings_perm (h : outputs'.Perm outputs) :
    (s.missingWarnings entryName outputs').Perm (s.missingWarnings entryName outputs) := by
  unfold missingWarnings
  split
  · exact .nil
  · exact (h.filter _).map _

/-- A warning names its output, and tells nothing else of it. -/
theorem Script.missingWarnings_congr (h : outputs'.map (·.name) = outputs.map (·.name)) :
    s.missingWarnings entryName outputs' = s.missingWarnings entryName outputs := by
  unfold missingWarnings
  cases (Entry.locate s entryName).function? with
  | none => rfl
  | some f =>
      have hnames (sockets : List Socket) :
          (sockets.filter fun o =>
              o.name ∉ (Check.Coverage.returnedNames s.source f).map (·.1)).map
            (Check.Coverage.missingFinding entryName (f.location s.source).line) =
          ((sockets.map (·.name)).filter fun name =>
              name ∉ (Check.Coverage.returnedNames s.source f).map (·.1)).map
            fun name => Check.Coverage.missingFinding entryName (f.location s.source).line
              ⟨name, .any⟩ := by
        rw [List.filter_map, List.map_map]
        rfl
      dsimp only
      rw [hnames, hnames, h]

theorem Script.isMissingWarning_of_mem {x : Finding}
    (hx : x ∈ s.missingWarnings entryName outputs) : x.isMissingWarning = true := by
  unfold missingWarnings at hx
  split at hx
  · cases hx
  · obtain ⟨o, -, rfl⟩ := List.mem_map.mp hx
    rfl

/-! ### Findings with places for the warnings -/

/-- Findings, with the warnings put in each place left for them. -/
def Finding.fill (warnings : List Finding)
    (places : List (Option Finding)) : List Finding :=
  places.flatMap fun place => place.elim warnings ([·])

@[simp] theorem Finding.fill_append (warnings : List Finding)
    (front back : List (Option Finding)) :
    fill warnings (front ++ back) = fill warnings front ++ fill warnings back :=
  List.flatMap_append

@[simp] theorem Finding.fill_map_some (warnings findings : List Finding) :
    fill warnings (findings.map some) = findings := by
  simp [fill, List.flatMap_map]

/-- Findings that an order of the outputs changes by the order of the warnings alone. -/
structure Finding.Ordered (s : Script) (entryName : String) (outputs : List Socket)
    (places : List (Option Finding)) (findings : List Socket → List Finding) : Prop where
  other : ∀ x, some x ∈ places → x.isMissingWarning = false
  filled : ∀ outputs', outputs'.Perm outputs →
    findings outputs' = fill (s.missingWarnings entryName outputs') places

namespace Check

variable {rules : List Rule} {k : Check}

namespace Coverage

theorem map_missing {f : Node} (hf : (Entry.locate s entryName).function? = some f) :
    (missing (.ofScript s entryName outputs inputs) f).map
        (missingFinding entryName (f.location s.source).line) =
      s.missingWarnings entryName outputs := by
  rw [missingWarnings, hf, missing_eq]
  rfl

theorem extra_congr {f : Node} (h : Socket.SameNames outputs' outputs) :
    extra (.ofScript s entryName outputs' inputs') f =
      extra (.ofScript s entryName outputs inputs) f :=
  List.filter_congr fun _ _ => by rw [Context.declaresOutput_congr h]

theorem findings_ofScript {f : Node} (hf : (Entry.locate s entryName).function? = some f)
    (houtputs : outputs ≠ []) :
    findings (.ofScript s entryName outputs inputs) =
      s.missingWarnings entryName outputs ++
        (extra (.ofScript s entryName outputs inputs) f).map (extraFinding entryName) := by
  have hmissing : (missing (.ofScript s entryName outputs inputs) f).map
      (missingFinding entryName (f.location s.source).line) =
        s.missingWarnings entryName outputs := map_missing hf
  rw [findings_of_some (c := .ofScript s entryName outputs inputs) hf houtputs, ← hmissing]
  rfl

theorem findings_congr (h : outputs'.map (·.name) = outputs.map (·.name)) :
    findings (.ofScript s entryName outputs' inputs') =
      findings (.ofScript s entryName outputs inputs) := by
  cases hf : (Entry.locate s entryName).function? with
  | none =>
      rw [findings_of_none (c := .ofScript s entryName outputs inputs) hf,
        findings_of_none (c := .ofScript s entryName outputs' inputs') hf]
  | some f =>
      by_cases houtputs : outputs = []
      · obtain rfl : outputs' = [] := by simpa [houtputs] using h
        rw [houtputs]
        simp [findings, Context.ofScript, Context.function?, hf]
      · have houtputs' : outputs' ≠ [] := by
          rintro rfl
          exact houtputs (by simpa using h.symm)
        have hextra : extra (.ofScript s entryName outputs' inputs') f =
            extra (.ofScript s entryName outputs inputs) f := extra_congr (.of_map_eq h)
        rw [findings_ofScript hf houtputs', findings_ofScript hf houtputs,
          hextra, missingWarnings_congr h]

theorem exists_places (s : Script) (entryName : String) (outputs : List Socket)
    (inputs : Option (List Socket)) :
    ∃ places, Finding.Ordered s entryName outputs places fun outputs' =>
      findings (.ofScript s entryName outputs' inputs) := by
  cases hf : (Entry.locate s entryName).function? with
  | none => exact ⟨[], nofun, fun _ _ => findings_of_none hf⟩
  | some f =>
      by_cases houtputs : outputs = []
      · refine ⟨[], nofun, fun outputs' h => ?_⟩
        obtain rfl : outputs' = [] := (houtputs ▸ h).eq_nil
        simp [findings, Context.ofScript, Context.function?, hf, Finding.fill]
      · let extras :=
          (extra (.ofScript s entryName outputs inputs) f).map (extraFinding entryName)
        refine ⟨none :: extras.map some, ?_, fun outputs' h => ?_⟩
        · intro x hx
          obtain ⟨key, -, rfl⟩ : ∃ key ∈ _, extraFinding entryName key = x := by
            simpa [extras] using hx
          rfl
        · have houtputs' : outputs' ≠ [] := fun hnil => houtputs (hnil ▸ h).symm.eq_nil
          have hextra : extra (.ofScript s entryName outputs' inputs) f =
              extra (.ofScript s entryName outputs inputs) f := extra_congr (.of_perm h)
          rw [findings_ofScript hf houtputs', hextra]
          exact congrArg _ (Finding.fill_map_some _ extras).symm

end Coverage

namespace Heuristics

theorem unusedResult_congr {f : Node} (h : Socket.SameNames outputs' outputs) :
    unusedResult (.ofScript s entryName outputs' inputs') f =
      unusedResult (.ofScript s entryName outputs inputs) f := by
  unfold unusedResult
  rw [Context.declaresOutput_congr h]
  rfl

theorem undeclaredInputs_congr {f : Node}
    (h : Option.Rel Socket.SameNames inputs' inputs) :
    undeclaredInputs (.ofScript s entryName outputs' inputs') f =
      undeclaredInputs (.ofScript s entryName outputs inputs) f := by
  cases h with
  | none => rfl
  | @some inputs' inputs h =>
      cases hparam : f.paramName? s.source 0 with
      | none =>
          rw [undeclaredInputs_of_none
            (c := .ofScript s entryName outputs (some inputs)) hparam,
            undeclaredInputs_of_none
              (c := .ofScript s entryName outputs' (some inputs')) hparam]
      | some param =>
          cases hbody : f.body? with
          | none => simp [undeclaredInputs, hbody]
          | some body =>
              simp only [undeclaredInputs, Context.ofScript, Context.source, hparam, hbody,
                firsts_congr h]
              rfl

theorem findings_congr (houtputs : Socket.SameNames outputs' outputs)
    (hinputs : Option.Rel Socket.SameNames inputs' inputs) :
    findings (.ofScript s entryName outputs' inputs') =
      findings (.ofScript s entryName outputs inputs) := by
  rw [findings_eq, findings_eq]
  have hresult : unusedResult (.ofScript s entryName outputs' inputs') =
      unusedResult (.ofScript s entryName outputs inputs) :=
    funext fun _ => unusedResult_congr houtputs
  have hinput : undeclaredInputs (.ofScript s entryName outputs' inputs') =
      undeclaredInputs (.ofScript s entryName outputs inputs) :=
    funext fun _ => undeclaredInputs_congr hinputs
  rw [hresult, hinput]
  rfl

end Heuristics

theorem run_congr (hk : k ∈ withRules rules)
    (houtputs : outputs'.map (·.name) = outputs.map (·.name))
    (hinputs : Option.Rel Socket.SameNames inputs' inputs) :
    k.run (.ofScript s entryName outputs' inputs') =
      k.run (.ofScript s entryName outputs inputs) := by
  simp only [withRules, List.mem_cons, List.not_mem_nil, or_false] at hk
  rcases hk with rfl | rfl | rfl | rfl
  · rfl
  · exact congrArg Except.ok (Coverage.findings_congr houtputs)
  · rfl
  · exact congrArg Except.ok (Heuristics.findings_congr (.of_map_eq houtputs) hinputs)

/-- A check that warns of no output leaves no place for warnings. -/
theorem exists_places_of_eq (f : Context → List Finding) (outputs : List Socket)
    (hother : ∀ x ∈ f (.ofScript s entryName outputs inputs), x.kind ≠ .outputMismatch)
    (hf : ∀ outputs', outputs'.Perm outputs →
      f (.ofScript s entryName outputs' inputs) =
        f (.ofScript s entryName outputs inputs)) :
    ∃ places, Finding.Ordered s entryName outputs places fun outputs' =>
      f (.ofScript s entryName outputs' inputs) := by
  refine ⟨(f (.ofScript s entryName outputs inputs)).map some, fun x hx => ?_,
    fun outputs' h => ?_⟩
  · obtain ⟨x', hx', heq⟩ := List.mem_map.mp hx
    exact Finding.isMissingWarning_of_kind_ne (hother x (Option.some.inj heq ▸ hx'))
  · rw [Finding.fill_map_some]
    exact hf outputs' h

theorem exists_places (hk : k ∈ withRules rules) (s : Script) (entryName : String)
    (outputs : List Socket) (inputs : Option (List Socket)) :
    ∃ f : Context → List Finding, (∀ c, k.run c = .ok (f c)) ∧
      ∃ places, Finding.Ordered s entryName outputs places fun outputs' =>
        f (.ofScript s entryName outputs' inputs) := by
  simp only [withRules, List.mem_cons, List.not_mem_nil, or_false] at hk
  rcases hk with rfl | rfl | rfl | rfl
  · refine ⟨_, fun _ => rfl, exists_places_of_eq _ outputs ?_ fun _ _ => rfl⟩
    exact fun x hx => Structure.kind_ne_outputMismatch hx
  · exact ⟨_, fun _ => rfl, Coverage.exists_places s entryName outputs inputs⟩
  · let scan (c : Context) := Rule.scan (Rule.withBuiltin rules) c.source
    exact ⟨scan, fun _ => rfl, exists_places_of_eq scan outputs
      (fun _ hx => Rule.kind_ne_outputMismatch hx) fun _ _ => rfl⟩
  · exact ⟨_, fun _ => rfl, exists_places_of_eq _ outputs
      (fun _ hx => Heuristics.kind_ne_outputMismatch hx)
      fun _ h => Heuristics.findings_congr (.of_perm h) (Socket.SameNames.refl inputs)⟩

/-! ### Any checks in any order -/

theorem runAll_congr {c c' : Context} {checks : List Check}
    (h : ∀ k ∈ checks, k.run c' = k.run c) : runAll c' checks = runAll c checks := by
  induction checks with
  | nil => rfl
  | cons k ks ih =>
      rw [List.forall_mem_cons] at h
      rw [runAll, runAll, h.1, ih h.2]

theorem exists_places_runAll {checks : List Check}
    (hchecks : ∀ k ∈ checks, ∃ rules, k ∈ withRules rules) (s : Script)
    (entryName : String) (outputs : List Socket) (inputs : Option (List Socket)) :
    ∃ f : Context → List Finding, (∀ c, runAll c checks = .ok (f c)) ∧
      ∃ places, Finding.Ordered s entryName outputs places fun outputs' =>
        f (.ofScript s entryName outputs' inputs) := by
  induction checks with
  | nil => exact ⟨fun _ => [], fun _ => rfl, [], nofun, fun _ _ => rfl⟩
  | cons k ks ih =>
      rw [List.forall_mem_cons] at hchecks
      obtain ⟨⟨rules, hk⟩, hks⟩ := hchecks
      obtain ⟨f, hf, front, hfront⟩ := exists_places hk s entryName outputs inputs
      obtain ⟨g, hg, back, hback⟩ := ih hks
      refine ⟨fun c => f c ++ g c, fun c => ?_, front ++ back, fun x hx => ?_,
        fun outputs' h => ?_⟩
      · simp [runAll, hf, hg, Except.map]
      · exact (List.mem_append.mp hx).elim (hfront.other x) (hback.other x)
      · rw [Finding.fill_append, ← hfront.filled outputs' h, ← hback.filled outputs' h]

end Check

namespace Validator

variable {v : Validator}

theorem judge_congr (hv : ∀ k ∈ v.checks, ∃ rules, k ∈ Check.withRules rules)
    (houtputs : outputs'.map (·.name) = outputs.map (·.name))
    (hinputs : Option.Rel Socket.SameNames inputs' inputs) :
    v.judge s outputs' inputs' = v.judge s outputs inputs := by
  have hrun : Check.runAll (v.context s outputs' inputs') v.checks =
      Check.runAll (v.context s outputs inputs) v.checks := by
    refine Check.runAll_congr fun k hk => ?_
    obtain ⟨rules, hk⟩ := hv k hk
    exact Check.run_congr hk houtputs hinputs
  rw [judge, judge, hrun]

theorem exists_places_judge (hv : ∀ k ∈ v.checks, ∃ rules, k ∈ Check.withRules rules)
    (s : Script) (outputs : List Socket) (inputs : Option (List Socket)) :
    ∃ places, Finding.Ordered s v.entryName outputs places fun outputs' =>
      (v.judge s outputs' inputs).findings := by
  cases hs : s.rejection? with
  | some r =>
      refine ⟨[some r.finding], fun x hx => ?_, fun outputs' _ => ?_⟩
      · obtain rfl : x = r.finding := by simpa using hx
        rfl
      · rw [judge_of_rejection hs]
        rfl
  | none =>
      obtain ⟨f, hf, places, hplaces⟩ :=
        Check.exists_places_runAll hv s v.entryName outputs inputs
      refine ⟨places, hplaces.other, fun outputs' h => ?_⟩
      rw [← hplaces.filled outputs' h]
      exact congrArg Result.findings (judge_of_runAll_ok hs (hf _))

/-- A result of standard checks, whichever and in whichever order, tells nothing of
declared sockets but their names. Those of the inputs count as a set; those of the outputs
are in order in the warnings on outputs that are never returned, and nothing else moves
with them. -/
theorem judge_names_only (hv : ∀ k ∈ v.checks, ∃ rules, k ∈ Check.withRules rules)
    (s : Script) :
    (∀ outputs outputs' inputs inputs', outputs'.map (·.name) = outputs.map (·.name) →
      inputs'.map (·.map (·.name)) = inputs.map (·.map (·.name)) →
        v.judge s outputs' inputs' = v.judge s outputs inputs) ∧
    (∀ outputs inputs inputs', Socket.SameNames inputs' inputs →
      v.judge s outputs (some inputs') = v.judge s outputs (some inputs)) ∧
    ∀ outputs inputs, ∃ places : List (Option Finding),
      (∀ x, some x ∈ places → x.isMissingWarning = false) ∧
      ∀ outputs', outputs'.Perm outputs →
        (∀ x ∈ s.missingWarnings v.entryName outputs', x.isMissingWarning = true) ∧
        (s.missingWarnings v.entryName outputs').Perm
          (s.missingWarnings v.entryName outputs) ∧
        (v.judge s outputs' inputs).findings =
          Finding.fill (s.missingWarnings v.entryName outputs') places := by
  refine ⟨fun outputs outputs' inputs inputs' houtputs hinputs => ?_,
    fun outputs inputs inputs' h => judge_congr hv rfl (.some h), fun outputs inputs => ?_⟩
  · refine judge_congr hv houtputs ?_
    cases inputs with
    | none =>
        obtain rfl : inputs' = none := by simpa using hinputs
        exact .none
    | some inputs =>
        obtain ⟨sockets, rfl, h⟩ : ∃ sockets, inputs' = some sockets ∧
            sockets.map (·.name) = inputs.map (·.name) := by
          simpa using hinputs
        exact .some (.of_map_eq h)
  · obtain ⟨places, hplaces⟩ := exists_places_judge hv s outputs inputs
    exact ⟨places, hplaces.other,
      fun outputs' h => ⟨fun x hx => Script.isMissingWarning_of_mem hx,
      Script.missingWarnings_perm h, hplaces.filled outputs' h⟩⟩

/-- A script that returns `b` alone, and what the order of `a` and `c` changes in its
result. -/
theorem judge_returning_names_only :
    (∀ k ∈ standard.checks, ∃ rules, k ∈ Check.withRules rules) ∧
    standard.judge .returning [⟨"a", .text⟩, ⟨"c", .number⟩]
      (some [⟨"x", .any⟩, ⟨"x", .json⟩]) =
      standard.judge .returning [⟨"a", .any⟩, ⟨"c", .any⟩] (some [⟨"x", .any⟩]) ∧
    ∃ places : List (Option Finding),
      (standard.judge .returning [⟨"a", .any⟩, ⟨"c", .any⟩] none).findings =
        Finding.fill [Check.Coverage.missingFinding "processData" 1 ⟨"a", .any⟩,
          Check.Coverage.missingFinding "processData" 1 ⟨"c", .any⟩] places ∧
      (standard.judge .returning [⟨"c", .any⟩, ⟨"a", .any⟩] none).findings =
        Finding.fill [Check.Coverage.missingFinding "processData" 1 ⟨"c", .any⟩,
          Check.Coverage.missingFinding "processData" 1 ⟨"a", .any⟩] places := by
  have hv : ∀ k ∈ standard.checks, ∃ rules, k ∈ Check.withRules rules :=
    fun _ hk => ⟨[], hk⟩
  obtain ⟨htypes, hinputs, horder⟩ := judge_names_only hv .returning
  refine ⟨hv, ?_, ?_⟩
  · calc standard.judge .returning [⟨"a", .text⟩, ⟨"c", .number⟩]
            (some [⟨"x", .any⟩, ⟨"x", .json⟩])
      _ = standard.judge .returning [⟨"a", .any⟩, ⟨"c", .any⟩]
          (some [⟨"x", .any⟩, ⟨"x", .json⟩]) := htypes _ _ _ _ rfl rfl
      _ = standard.judge .returning [⟨"a", .any⟩, ⟨"c", .any⟩] (some [⟨"x", .any⟩]) :=
        hinputs _ _ _ fun name => by simp
  · obtain ⟨places, -, hplaces⟩ := horder [⟨"a", .any⟩, ⟨"c", .any⟩] none
    exact ⟨places, (hplaces _ (.refl _)).2.2, (hplaces _ (.swap _ _ _)).2.2⟩

end Validator

end ScriptLint
