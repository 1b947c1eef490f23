import ScriptLint.Proofs.CommandLine.Files
import ScriptLint.Proofs.Data.Node

namespace ScriptLint.CommandLine

open ScriptLint.Data

/-! A script in a file of its own and the same script in a stored node are checked
alike. -/

variable {env env' : Surroundings} {v : Validator} {c : Config} {options : ReportOptions}
  {path path' : String} {code text : List Char} {outputs inputs : List Socket}

/-! ### Sockets from flags -/

structure Names (text : List Char) (o : Socket) : Prop where
  value : canBeValue .check text = true
  socket : Socket.ofText text = .ok o

def flagged (flag : String) (texts : List String) : List String :=
  texts.flatMap fun t => [flag, t]

def Given.checking (path : String) (outputs inputs : List Socket)
    (seen : List Key) : Given :=
  ⟨.check, none, ⟨none, none, none⟩, outputs, inputs, false, [path], seen⟩

theorem Given.accept_output {o : Socket} {seen : List Key}
    (ho : Socket.ofText text = .ok o) :
    (checking path outputs inputs seen).accept .output text =
      .ok (checking path (outputs ++ [o]) inputs (.output :: seen)) := by
  simp only [accept, see, Key.isRepeatable, Bool.not_true, Bool.and_false,
    Bool.false_eq_true, if_false, bind, Except.bind, put?, socket?, ho]
  rfl

theorem Given.accept_input {o : Socket} {seen : List Key}
    (ho : Socket.ofText text = .ok o) :
    (checking path outputs inputs seen).accept .input text =
      .ok (checking path outputs (inputs ++ [o]) (.input :: seen)) := by
  simp only [accept, see, Key.isRepeatable, Bool.not_true, Bool.and_false,
    Bool.false_eq_true, if_false, bind, Except.bind, put?, socket?, ho]
  rfl

/-- Sockets that a flag names are taken in one after the other. -/
theorem readArguments_flagged (flag : String) (key : Key)
    (given : List Socket → List Key → Given) {texts : List String} {sockets : List Socket}
    (hflag : Argument.ofText .check flag.toList = .option key none)
    (hmode : ∀ before seen, (given before seen).mode = .check)
    (haccept : ∀ before seen text o, Socket.ofText text = .ok o →
      (given before seen).accept key text = .ok (given (before ++ [o]) (key :: seen)))
    (h : List.Forall₂ (fun (t : String) o => Names t.toList o) texts sockets)
    (before : List Socket) (seen : List Key) :
    ∃ seen', ∀ rest, readArguments (given before seen) false
        ((flagged flag texts).map String.toList ++ rest) =
      readArguments (given (before ++ sockets) seen') false rest := by
  induction h generalizing before seen with
  | nil => exact ⟨seen, fun rest => by simp [flagged]⟩
  | @cons t o texts sockets ht _ ih =>
      obtain ⟨seen', hrest⟩ := ih (before ++ [o]) (key :: seen)
      refine ⟨seen', fun rest => ?_⟩
      rw [List.append_assoc] at hrest
      have hstep : (flagged flag (t :: texts)).map String.toList ++ rest =
          flag.toList :: t.toList :: ((flagged flag texts).map String.toList ++ rest) :=
            rfl
      -- The flag has no value of its own and takes the text behind it.
      rw [hstep, readArguments, if_neg Bool.false_ne_true]
      simp only [hmode, hflag, ht.value, if_true, haccept before seen _ _ ht.socket, bind,
        Except.bind]
      exact hrest rest

theorem readArguments_script {rest : List (List Char)}
    (hpath : Argument.ofText .check path.toList = .plain) (hempty : path ≠ "") :
    readArguments .start false ("check".toList :: path.toList :: rest) =
      readArguments (.checking path [] [] []) false rest := by
  have hcheck : Argument.ofText Given.start.mode "check".toList = .plain := rfl
  have hmode : Given.start.acceptPlain false "check".toList =
      .ok { Given.start with mode := .check, seen := [] } := rfl
  have hpositional :
      Given.acceptPlain { Given.start with mode := .check, seen := [] } false
      path.toList = .ok (.checking path [] [] []) := by
    simp [Given.acceptPlain, hempty, Mode.room, Given.checking, Given.start]
  rw [readArguments, if_neg Bool.false_ne_true]
  simp only [hcheck, hmode, bind, Except.bind]
  rw [readArguments, if_neg Bool.false_ne_true]
  simp only [hpath, hpositional, bind, Except.bind]

/-- Sockets that flags name are those of the command, in the order of the flags. -/
theorem ofArguments?_flagged (path : String) (outputTexts inputTexts : List String)
    (hpath : Argument.ofText .check path.toList = .plain) (hempty : path ≠ "")
    (houtputs : List.Forall₂ (fun (t : String) o => Names t.toList o) outputTexts outputs)
    (hinputs : List.Forall₂ (fun (t : String) o => Names t.toList o) inputTexts inputs) :
    Request.ofArguments?
        ("check" :: path :: (flagged "-o" outputTexts ++ flagged "-i" inputTexts)) =
      some (.run none (.check [path] outputs inputs ⟨none, none, none⟩)) := by
  obtain ⟨seen, houtput⟩ := readArguments_flagged "-o" .output
    (fun before seen => .checking path before [] seen) rfl (fun _ _ => rfl)
    (fun _ _ _ _ ho => Given.accept_output ho) houtputs [] []
  obtain ⟨seen', hinput⟩ := readArguments_flagged "-i" .input
    (fun before seen => .checking path outputs before seen) rfl (fun _ _ => rfl)
    (fun _ _ _ _ ho => Given.accept_input ho) hinputs [] seen
  have hinput' := hinput []
  rw [List.append_nil] at hinput'
  simp only [Request.ofArguments?, List.map_cons, List.map_append,
    readArguments_script hpath hempty, houtput, List.nil_append]
  rw [hinput']
  rfl

/-! ### One file -/

theorem checkFile_of_read (hread : env.read path = some code) :
    checkFile env v outputs inputs path = .ok (path,
      v.validateGuarded code outputs (if inputs.isEmpty then none else some inputs)) := by
  rw [checkFile, readText, hread]
  rfl

theorem nodeFile_of_read {d : NodeDefinition} (hread : env.read path = some text)
    (hd : (Json.ofText? text).bind NodeDefinition.ofValue? = some d) :
    nodeFile env v path =
      .ok (label path d, v.validateGuarded d.code.toList d.outputs d.inputs) := by
  simp only [nodeFile, readDefinition, readText, hread, hd, bind, Except.bind]
  rfl

/-- The label of a single result is not printed. -/
theorem finish_singleton (s : Settings) (label label' : String) (r : Result) :
    finish s [(label, r)] = finish s [(label', r)] := rfl

/-- Runs over one file each that have the same result are the same. -/
theorem report_singleton {one one' : Validator → String → Except String (String × Result)}
    (h : ∀ v, ∃ label label' r, one v path = .ok (label, r) ∧
      one' v path' = .ok (label', r))
    (schedule schedule' : Schedule) :
    report schedule c options [path] one = report schedule' c options [path'] one' := by
  cases hs : Settings.resolve c options with
  | error message => simp only [report, hs]
  | ok s =>
      obtain ⟨label, label', r, hone, hone'⟩ := h s.validator
      rw [report_of_ok hs (Pool.collect_eq_ok _ (.cons hone .nil)),
        report_of_ok hs (Pool.collect_eq_ok _ (.cons hone' .nil)), finish_singleton]

theorem runRequest_check_eq_node {config config' : Option String} {name : Option String}
    (hconfig : loadConfig env config = loadConfig env' config')
    (hcode : env.read path = some code) (htext : env'.read path' = some text)
    (hd : (Json.ofText? text).bind NodeDefinition.ofValue? =
      some (.ofSockets name (String.ofList code) outputs inputs))
      (schedule schedule' : Schedule) :
    runRequest schedule env (.run config (.check [path] outputs inputs options)) =
      runRequest schedule' env' (.run config' (.node [path'] options)) := by
  rw [runRequest_of_work rfl, runRequest_of_work rfl, hconfig]
  cases loadConfig env' config' with
  | error message => rfl
  | ok c =>
      have hone (v : Validator) : ∃ label label' r,
          checkFile env v outputs inputs path = .ok (label, r) ∧
            nodeFile env' v path' = .ok (label', r) := by
        refine ⟨_, label path' (.ofSockets name (String.ofList code) outputs inputs), _,
          checkFile_of_read hcode, ?_⟩
        rw [nodeFile_of_read htext hd, NodeDefinition.ofSockets, String.toList_ofList]
      exact report_singleton hone schedule schedule'

/-! ### Both commands -/

/-- Checking a script with sockets from flags does all the same as checking a stored node
with its code and sockets, under the same configuration and options. The name of the node
and the order of its members do not count, nor which of their names the code and the data
types go by. -/
theorem run_check_eq_node {args args' : List String} {config config' : Option String}
    (hcheck : Request.ofArguments? args =
      some (.run config (.check [path] outputs inputs options)))
    (hnode : Request.ofArguments? args' = some (.run config' (.node [path'] options)))
    (hconfig : loadConfig env config = loadConfig env' config')
    (hcode : env.read path = some code) (htext : env'.read path' = some text) :
    (∀ members, Json.ofText? text = some (.record members) →
      NodeDefinition.Stored members (String.ofList code) outputs inputs →
        run env args = run env' args') ∧
    ∀ name, (Json.ofText? text).bind NodeDefinition.ofValue? =
      some (.ofSockets name (String.ofList code) outputs inputs) →
        run env args = run env' args' := by
  have hrun (name : Option String) (hd : (Json.ofText? text).bind NodeDefinition.ofValue? =
      some (.ofSockets name (String.ofList code) outputs inputs)) :
      run env args = run env' args' := by
    simp only [run, hcheck, hnode]
    exact runRequest_check_eq_node hconfig hcode htext hd _ _
  refine ⟨fun members hmembers hstored => ?_, hrun⟩
  obtain ⟨name, hname⟩ := hstored.ofValue?_eq
  exact hrun name (by rw [hmembers, Option.bind_some, hname])

def storedCode : List Char :=
  "function processData(i) \x7b return \x7b b: i.x \x7d; \x7d".toList

def storedMembers : List (String × Value) :=
  [("inputs", .list [.record [("name", .text "x"), ("type", .text "number")]]),
    ("name", .text "a node"), ("version", .null),
    ("script", .text (String.ofList storedCode)),
    ("outputs", .list [.record [("data_type", .text "json"), ("name", .text "a")],
      .record [("name", .text "b")]])]

def storedFolder : Folder :=
  ⟨"/nodes", [(["a.js"], .text storedCode),
    (["a.json"], .text (Json.print .compact (.record storedMembers)))]⟩

theorem run_storedFolder :
    run storedFolder.surroundings
        ["check", "a.js", "-o", "a: JSON", "-o", "b", "-i", "x:number"] =
      run storedFolder.surroundings ["node", "a.json"] := by
  have hoption : Request.ofArguments?
      ["check", "a.js", "-o", "a: JSON", "-o", "b", "-i", "x:number"] =
        some (.run none
          (.check ["a.js"] [⟨"a", .json⟩, ⟨"b", .any⟩] [⟨"x", .number⟩]
            ⟨none, none, none⟩)) :=
    ofArguments?_flagged "a.js" ["a: JSON", "b"] ["x:number"] rfl (by decide)
      (.cons ⟨rfl, rfl⟩ (.cons ⟨rfl, rfl⟩ .nil)) (.cons ⟨rfl, rfl⟩ .nil)
  have hmembers : Json.ofText? (Json.print .compact (.record storedMembers)) =
      some (.record storedMembers) := Json.ofText?_print _ rfl
  have hstored : NodeDefinition.Stored storedMembers (String.ofList storedCode)
      [⟨"a", .json⟩, ⟨"b", .any⟩] [⟨"x", .number⟩] :=
    { name := .inr (.inr ⟨_, .given (storedMembers.take 1) (storedMembers.drop 2) rfl
        (by decide) (by decide)⟩)
      code := .given (storedMembers.take 3) (storedMembers.drop 4) rfl
        (by decide) (by decide)
      outputs := .inr ⟨_, .given (storedMembers.take 4) [] rfl (by decide) (by decide),
        .cons (.typed (.given [_] [] rfl (by decide) (by decide))
          (.given [] [_] rfl (by decide) (by decide)))
        (.cons (.untyped (.given [] [] rfl (by decide) (by decide))
          (.absent (by decide)) rfl)
          .nil)⟩
      inputs :=
        .inr ⟨by decide, _, .given [] (storedMembers.drop 1) rfl (by decide) (by decide),
        .cons (.typed (.given [] [_] rfl (by decide) (by decide))
          (.given [_] [] rfl (by decide) (by decide))) .nil⟩ }
  exact (run_check_eq_node hoption rfl rfl rfl rfl).1 storedMembers hmembers hstored

end ScriptLint.CommandLine
