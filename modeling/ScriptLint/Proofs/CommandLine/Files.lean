import ScriptLint.CommandLine.Run
import ScriptLint.Proofs.Check.Standard
import ScriptLint.Proofs.CommandLine.Pool
import ScriptLint.Proofs.Config.Switches
import ScriptLint.Proofs.Validator.Watch

namespace ScriptLint

open ScriptLint.Data

/-! How a run over several files ends: with a report of all of them, or with an error and
nothing printed, in whatever order the files are finished. -/

/-! ### Time limits -/

theorem Check.totalDuration_eq_zero {checks : List Check} (c : Context)
    (h : ∀ k ∈ checks, k.duration = 0) : totalDuration c checks = 0 := by
  induction checks with
  | nil => rfl
  | cons k ks ih =>
      rw [List.forall_mem_cons] at h
      rw [totalDuration, h.1, ih h.2]
      cases k.run c <;> rfl

namespace Config

/-- The checks of a configuration take no time, so a limit makes no difference. -/
theorem validateGuarded_validator (c : Config) (text : List Char) (outputs : List Socket)
    (inputs : Option (List Socket)) :
    c.validator.validateGuarded text outputs inputs =
      c.validator.validate text outputs inputs := by
  have hduration : c.validator.duration (.ofText text) outputs inputs = 0 := by
    unfold Validator.duration
    split
    · rfl
    · refine Check.totalDuration_eq_zero _ fun k hk => ?_
      obtain ⟨f, hf⟩ := Check.eq_ofFindings_of_mem (c.mem_withRules_of_mem hk)
      rw [hf]
      rfl
  unfold Validator.validateGuarded
  split
  · next limit hlimit =>
      have hpos : 0 < limit := by
        by_cases hzero : c.timeoutMs = 0
        · simp [validator, timeout, hzero] at hlimit
        · obtain rfl : c.timeoutMs = limit := by
            simpa [validator, timeout, hzero] using hlimit
          exact Nat.pos_of_ne_zero hzero
      rw [Validator.validateWithin, Validator.judgeWithin_eq, hduration, if_pos hpos]
      rfl
  · rfl

end Config

namespace CommandLine

variable {env : Surroundings} {v : Validator} {c : Config} {options : ReportOptions}
  {command : Command} {files : List String} {path message : String} {r : String × Result}
  {rs : List (String × Result)} {outcome : Except String (String × Result)}

/-! ### Settings -/

/-- A default of a configuration names nothing that there is, and no option stands in its
place. -/
def BadDefault (c : Config) (options : ReportOptions) : Prop :=
  (options.format = none ∧ ∃ name, c.format = some name ∧ Format.ofName? name = none) ∨
    options.failOn = none ∧ ∃ name, c.failOn = some name ∧ Severity.ofName? name = none

theorem choose_eq_none_iff {α : Type} {default : α} {ofName? : String → Option α}
    {option : Option α} {configured : Option String} :
    choose default ofName? option configured = none ↔
      option = none ∧ ∃ name, configured = some name ∧ ofName? name = none := by
  cases option <;> cases configured <;> simp [choose]

theorem resolve_of_bad (h : BadDefault c options) :
    ∃ message, Settings.resolve c options = .error message := by
  cases hformat : choose .text Format.ofName? options.format c.format with
  | none => exact ⟨_, by simp only [Settings.resolve, hformat]; rfl⟩
  | some format =>
      cases hfailOn : choose .error Severity.ofName? options.failOn c.failOn with
      | none => exact ⟨_, by simp only [Settings.resolve, hformat, hfailOn]; rfl⟩
      | some failOn =>
          rcases h with h | h
          · rw [choose_eq_none_iff.mpr h] at hformat
            cases hformat
          · rw [choose_eq_none_iff.mpr h] at hfailOn
            cases hfailOn

theorem resolve_of_not_bad (h : ¬ BadDefault c options) :
    ∃ c' : Config, ∃ s : Settings,
      s.validator = c'.validator ∧ Settings.resolve c options = .ok s := by
  cases hformat : choose .text Format.ofName? options.format c.format with
  | none => exact absurd (.inl (choose_eq_none_iff.mp hformat)) h
  | some format =>
      cases hfailOn : choose .error Severity.ofName? options.failOn c.failOn with
      | none => exact absurd (.inr (choose_eq_none_iff.mp hfailOn)) h
      | some failOn =>
          exact ⟨_, ⟨_, _, _⟩, rfl, by simp only [Settings.resolve, hformat, hfailOn]; rfl⟩

/-! ### One file -/

def Command.work? : Command → Option (List String × ReportOptions)
  | .check scripts _ _ options => some (scripts, options)
  | .node definitions options => some (definitions, options)
  | .patterns | .init .. => none

inductive Yields (env : Surroundings) (v : Validator) :
    Command → String → String × Result → Prop
  | script {scripts : List String} {outputs inputs : List Socket} {options : ReportOptions}
      {path : String} {text : List Char} (hread : env.read path = some text) :
      Yields env v (.check scripts outputs inputs options) path
        (path, v.validate text outputs (if inputs.isEmpty then none else some inputs))
  | definition {definitions : List String} {options : ReportOptions} {path : String}
      {text : List Char} {d : NodeDefinition} (hread : env.read path = some text)
      (hd : (Json.ofText? text).bind NodeDefinition.ofValue? = some d) :
      Yields env v (.node definitions options) path
        (label path d, v.validate d.code.toList d.outputs d.inputs)

/-- Why a file yields nothing to a command. -/
inductive Fault (env : Surroundings) : Command → String → String → Prop
  | unread {command : Command} {path : String} (hread : env.read path = none) :
      Fault env command path ("Failed to read " ++ path)
  | undecoded {definitions : List String} {options : ReportOptions} {path : String}
      {text : List Char} (hread : env.read path = some text)
      (hd : (Json.ofText? text).bind NodeDefinition.ofValue? = none) :
      Fault env (.node definitions options) path ("Invalid node definition in " ++ path)

theorem Yields.unique {r' : String × Result} (h : Yields env v command path r)
    (h' : Yields env v command path r') : r = r' := by
  cases h with
  | script hread =>
      cases h' with
      | script hread' =>
          obtain rfl := Option.some.inj (hread.symm.trans hread')
          rfl
  | definition hread hd =>
      cases h' with
      | definition hread' hd' =>
          obtain rfl := Option.some.inj (hread.symm.trans hread')
          obtain rfl := Option.some.inj (hd.symm.trans hd')
          rfl

theorem Fault.not_yields (h : Fault env command path message) :
    ¬ Yields env v command path r := by
  intro hr
  cases h with
  | unread hread => cases hr <;> simp_all
  | undecoded hread hd =>
      cases hr with
      | definition hread' hd' =>
          obtain rfl := Option.some.inj (hread.symm.trans hread')
          cases hd.symm.trans hd'

/-- What a worker makes of a file: what the file yields, or why it yields nothing. -/
inductive Handled (env : Surroundings) (v : Validator) (command : Command)
    (path : String) :
    Except String (String × Result) → Prop
  | done {r : String × Result} (h : Yields env v command path r) :
      Handled env v command path (.ok r)
  | failed {message : String} (h : Fault env command path message) :
      Handled env v command path (.error message)

theorem handled_ok_iff (h : Handled env v command path outcome) :
    outcome = .ok r ↔ Yields env v command path r := by
  cases h with
  | done h =>
      refine ⟨fun heq => ?_, fun hr => by rw [h.unique hr]⟩
      obtain rfl := Except.ok.inj heq
      exact h
  | failed h => exact ⟨nofun, fun hr => absurd hr h.not_yields⟩

theorem handled_checkFile (env : Surroundings) (c : Config) (scripts : List String)
    (outputs inputs : List Socket) (options : ReportOptions) (path : String) :
    Handled env c.validator (.check scripts outputs inputs options) path
      (checkFile env c.validator outputs inputs path) := by
  unfold checkFile readText
  cases hread : env.read path with
  | none => exact .failed (.unread hread)
  | some text =>
      have hyields :
          Yields env c.validator (.check scripts outputs inputs options) path _ :=
        .script hread
      rw [← c.validateGuarded_validator] at hyields
      exact .done hyields

theorem handled_nodeFile (env : Surroundings) (c : Config) (definitions : List String)
    (options : ReportOptions) (path : String) :
    Handled env c.validator (.node definitions options) path
      (nodeFile env c.validator path) := by
  unfold nodeFile readDefinition readText
  cases hread : env.read path with
  | none => exact .failed (.unread hread)
  | some text =>
      cases hd : (Json.ofText? text).bind NodeDefinition.ofValue? with
      | none =>
          simp only [bind, Except.bind, hd]
          exact .failed (.undecoded hread hd)
      | some d =>
          have hyields : Yields env c.validator (.node definitions options) path _ :=
            .definition hread hd
          rw [← c.validateGuarded_validator] at hyields
          simp only [bind, Except.bind, hd]
          exact .done hyields

/-! ### All files -/

theorem runCommand_eq_report (env : Surroundings) (c : Config)
    (h : command.work? = some (files, options)) :
    ∃ one, (∀ schedule,
        runCommand schedule env c command = report schedule c options files one) ∧
      ∀ (c' : Config) path,
        Handled env c'.validator command path (one c'.validator path) := by
  cases command with
  | check scripts outputs inputs options' =>
      obtain ⟨rfl, rfl⟩ := Prod.mk.inj (Option.some.inj h)
      exact ⟨fun v => checkFile env v outputs inputs, fun _ => rfl,
        fun c' path => handled_checkFile env c' _ _ _ _ path⟩
  | node definitions options' =>
      obtain ⟨rfl, rfl⟩ := Prod.mk.inj (Option.some.inj h)
      exact ⟨nodeFile env, fun _ => rfl, fun c' path => handled_nodeFile env c' _ _ path⟩
  | patterns => cases h
  | init path force => cases h

theorem runRequest_of_work (h : command.work? = some (files, options))
    (config : Option String) (schedule : Schedule) :
    runRequest schedule env (.run config command) =
      match loadConfig env config with
      | .ok c => runCommand schedule env c command
      | .error message => .ofError message := by
  cases command with
  | check | node | patterns => rfl
  | init path force => cases h

section Reports

variable {s : Settings} {one : Validator → String → Except String (String × Result)}
  {schedule : Schedule}

theorem report_of_ok (hs : Settings.resolve c options = .ok s)
    (hcollect : Pool.collect (one s.validator) files (schedule files.length) = .ok rs) :
    report schedule c options files one = finish s rs := by
  simp only [report, hs, hcollect]

theorem report_of_error (hs : Settings.resolve c options = .ok s)
    (hcollect : Pool.collect (one s.validator) files (schedule files.length) =
      .error message) :
    report schedule c options files one = .ofError message := by
  simp only [report, hs, hcollect]

theorem report_cases (hs : Settings.resolve c options = .ok s)
    (hone : ∀ path, Handled env s.validator command path (one s.validator path)) :
    (∃ rs, List.Forall₂ (Yields env s.validator command) files rs ∧
        ∀ schedule, report schedule c options files one = finish s rs) ∨
      (∃ path ∈ files, ∃ message, Fault env command path message) ∧
        ∀ schedule, ∃ path ∈ files, ∃ message, Fault env command path message ∧
          report schedule c options files one = .ofError message := by
  have hfault : ∀ {path message}, one s.validator path = .error message →
      Fault env command path message := by
    intro path message herror
    cases herror ▸ hone path with
    | failed h => exact h
  rcases Pool.collect_cases (f := one s.validator) (Order.inTurn files.length) with
    ⟨rs, -, hrs⟩ | ⟨path, hpath, message, herror, -⟩
  · refine .inl ⟨rs, hrs.imp fun _ _ h => (handled_ok_iff (hone _)).mp h,
      fun schedule => ?_⟩
    exact report_of_ok hs (Pool.collect_eq_ok _ hrs)
  · refine .inr ⟨⟨path, hpath, message, hfault herror⟩, fun schedule => ?_⟩
    obtain ⟨path', hpath', message', herror', hcollect⟩ :=
      Pool.collect_eq_error (schedule files.length) hpath herror
    exact ⟨path', hpath', message', hfault herror', report_of_error hs hcollect⟩

end Reports

/-- A run over files prints the report of all of them in the order of the arguments,
whatever the order in which they are finished; or it prints no report, fails, and names a
file that cannot be used. A configuration that cannot be loaded and a default that names
nothing end it before any file is read. -/
theorem runRequest_all_or_nothing (env : Surroundings) (config : Option String)
    (hcommand : command.work? = some (files, options)) :
    (∀ path e, config = some path → Config.ofFile path (env.read path) = .error e →
      ∀ schedule, runRequest schedule env (.run config command) =
        ⟨1, "", "Error: Could not load --config " ++ path ++ "\n", none⟩) ∧
    ∀ c, loadConfig env config = .ok c →
      (BadDefault c options → ∃ message, ∀ schedule,
        runRequest schedule env (.run config command) =
          ⟨1, "", "Error: " ++ message ++ "\n", none⟩) ∧
      (¬ BadDefault c options → ∃ s, Settings.resolve c options = .ok s ∧
        ((∃ rs, List.Forall₂ (Yields env s.validator command) files rs ∧
            ∀ schedule, runRequest schedule env (.run config command) = finish s rs ∧
              (finish s rs).output = endLine (renderMany rs s.format)) ∨
          (∃ path ∈ files, ∃ message, Fault env command path message) ∧
            ∀ schedule, ∃ path ∈ files, ∃ message, Fault env command path message ∧
              runRequest schedule env (.run config command) =
                ⟨1, "", "Error: " ++ message ++ "\n", none⟩)) := by
  refine ⟨?_, fun c hc => ?_⟩
  · rintro path e rfl he schedule
    have hload :
        loadConfig env (some path) = .error ("Could not load --config " ++ path) := by
      simp only [loadConfig, he]
    rw [runRequest_of_work hcommand, hload]
    simp only [Outcome.ofError, ← String.append_assoc]
    rfl
  obtain ⟨one, hreport, hone⟩ := runCommand_eq_report env c hcommand
  have hrun : ∀ schedule, runRequest schedule env (.run config command) =
      report schedule c options files one := by
    intro schedule
    rw [runRequest_of_work hcommand, hc]
    exact hreport schedule
  simp only [hrun]
  refine ⟨fun hbad => ?_, fun hgood => ?_⟩
  · obtain ⟨message, hmessage⟩ := resolve_of_bad hbad
    exact ⟨message, fun schedule => by simp only [report, hmessage, Outcome.ofError]⟩
  · obtain ⟨c', s, hvalidator, hs⟩ := resolve_of_not_bad hgood
    refine ⟨s, hs, ?_⟩
    rcases report_cases hs (hvalidator ▸ hone c') with ⟨rs, hrs, h⟩ | h
    · exact .inl ⟨rs, hrs, fun schedule => ⟨h schedule, rfl⟩⟩
    · exact .inr h

/-- Of two files only one can be read, so the other one is named in every order. -/
theorem runRequest_all_or_nothing_unread :
    (Command.check ["a.js", "b.js"] [] [] ⟨none, none, none⟩).work? =
        some (["a.js", "b.js"], ⟨none, none, none⟩) ∧
      ∀ schedule, runRequest schedule
          ⟨fun path => if path = "a.js" then some [] else none, fun _ => .missing⟩
          (.run none (.check ["a.js", "b.js"] [] [] ⟨none, none, none⟩)) =
        ⟨1, "", "Error: Failed to read b.js\n", none⟩ := by
  refine ⟨rfl, fun schedule => ?_⟩
  let env : Surroundings :=
    ⟨fun path => if path = "a.js" then some [] else none, fun _ => .missing⟩
  have hread : env.read "a.js" = some [] := rfl
  have hmissing : env.read "b.js" = none := rfl
  have hcommand :
      (Command.check ["a.js", "b.js"] [] [] ⟨none, none, none⟩).work? = some _ := rfl
  obtain ⟨-, h⟩ := runRequest_all_or_nothing env none hcommand
  have hgood : ¬ BadDefault .default ⟨none, none, none⟩ := by
    simp [BadDefault, Config.default]
  obtain ⟨s, -, ⟨rs, hrs, -⟩ | ⟨-, hfault⟩⟩ := (h .default rfl).2 hgood
  · cases hrs with
    | cons _ hrs =>
        cases hrs with
        | cons hyields => exact absurd hyields (Fault.unread hmissing).not_yields
  · obtain ⟨path, hpath, message, hmessage, houtcome⟩ := hfault schedule
    rw [houtcome]
    cases hmessage with
    | unread hnone =>
        simp only [List.mem_cons, List.not_mem_nil, or_false] at hpath
        rcases hpath with rfl | rfl
        · cases hread.symm.trans hnone
        · rfl

end CommandLine

end ScriptLint
