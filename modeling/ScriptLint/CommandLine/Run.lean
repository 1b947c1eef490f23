import ScriptLint.CommandLine.Arguments
import ScriptLint.CommandLine.Folder
import ScriptLint.CommandLine.Pool
import ScriptLint.Data.Record
import ScriptLint.Report.Basic

namespace ScriptLint.CommandLine

open ScriptLint.Data

/-! What the program prints and writes for a request. -/

structure Outcome where
  status : Nat
  output : String
  messages : String
  /-- A file to be written, with its path below the given one. -/
  written : Option (String × String)
  deriving DecidableEq, Inhabited, Repr

namespace Outcome

def ofOutput (output : String) : Outcome := ⟨0, output, "", none⟩

def ofError (message : String) : Outcome := ⟨1, "", "Error: " ++ message ++ "\n", none⟩

def misuse : Outcome := ⟨2, "", "", none⟩

end Outcome

def versionText : String := "nodelint 0.3.0\n"

def helpText : String :=
  "Usage: nodelint [--config PATH] check SCRIPT... [-o NAME[:TYPE]]... [-i NAME[:TYPE]]...\n"
    ++ "       nodelint [--config PATH] node DEFINITION.json...\n"
    ++ "       nodelint [--config PATH] patterns\n"
    ++ "       nodelint init [PATH] [--force]\n"

/-! ### Validation -/

structure Settings where
  validator : Validator
  format : Format
  failOn : Severity

/-- A name from the configuration, if no option was given in its place. -/
def choose {α : Type} (default : α) (ofName? : String → Option α) (option : Option α)
    (configured : Option String) : Option α :=
  match option, configured with
  | some a, _ => some a
  | none, some name => ofName? name
  | none, none => some default

def Settings.resolve (c : Config) (o : ReportOptions) : Except String Settings := do
  let c := { c with timeoutMs := o.timeoutMs.getD c.timeoutMs }
  let some format := choose .text Format.ofName? o.format c.format
    | throw "Invalid output format"
  let some failOn := choose .error Severity.ofName? o.failOn c.failOn
    | throw "Invalid fail-on severity"
  return ⟨c.validator, format, failOn⟩

def Summary.mark (s : Summary) : String :=
  if s.error > 0 then "✗" else if s.warning > 0 then "!" else "✓"

def total (rs : List (String × Result)) : Summary :=
  rs.foldl (fun s r => s + r.2.summary) .zero

def summaryLine (rs : List (String × Result)) : String :=
  let s := total rs
  let noun := if rs.length = 1 then "script" else "scripts"
  s!"{Summary.mark s} {rs.length} {noun} checked: {s.error} errors, {s.warning} warnings, "
    ++ s!"{s.info} notes\n"

/-- Whether some finding is as serious as `least`. -/
def fails (least : Severity) (r : Result) : Bool :=
  match r.maxSeverity? with
  | some s => least ≤ s
  | none => false

def endLine (s : String) : String := if s.toList.getLast? = some '\n' then s else s ++ "\n"

def finish (s : Settings) (rs : List (String × Result)) : Outcome :=
  let failed := rs.any fun r => fails s.failOn r.2
  { status := if failed then 1 else 0
    output := endLine (renderMany rs s.format)
    messages := summaryLine rs
      ++ (if failed then s!"Failing due to --fail-on={s.failOn.name} threshold\n" else "")
    written := none }

def readText (env : Surroundings) (path : String) : Except String (List Char) :=
  match env.read path with
  | some text => .ok text
  | none => .error ("Failed to read " ++ path)

def checkFile (env : Surroundings) (v : Validator) (outputs inputs : List Socket)
    (path : String) :
    Except String (String × Result) := do
  let text ← readText env path
  let inputs := if inputs.isEmpty then none else some inputs
  return (path, v.validateGuarded text outputs inputs)

def readDefinition (env : Surroundings) (path : String) :
    Except String NodeDefinition := do
  let text ← readText env path
  match (Json.ofText? text).bind NodeDefinition.ofValue? with
  | some d => return d
  | none => throw ("Invalid node definition in " ++ path)

def label (path : String) (d : NodeDefinition) : String :=
  match d.name with
  | some name => path ++ " (" ++ name ++ ")"
  | none => path

def nodeFile (env : Surroundings) (v : Validator) (path : String) :
    Except String (String × Result) := do
  let d ← readDefinition env path
  return (label path d, v.validateGuarded d.code.toList d.outputs d.inputs)

/-- The results of all files, or why there are none. -/
def report (schedule : Schedule) (c : Config) (options : ReportOptions)
    (paths : List String) (one : Validator → String → Except String (String × Result)) :
    Outcome :=
  match Settings.resolve c options with
  | .error message => .ofError message
  | .ok s =>
      match Pool.collect (one s.validator) paths (schedule paths.length) with
      | .error message => .ofError message
      | .ok rs => finish s rs

/-! ### Patterns -/

def padLeft (width : Nat) (s : String) : String :=
  String.ofList (List.replicate (width - s.length) ' ') ++ s

def ruleLines (number : Nat) (r : Rule) : String :=
  let origin := if number ≤ Rule.builtin.length then "" else " (config)"
  padLeft 3 (toString number) ++ ". " ++ r.text ++ origin ++ "\n     " ++ r.message ++ "\n"

def listPatterns (c : Config) : Outcome :=
  let rules := (c.rules.zipIdx 1).map fun (r, number) => ruleLines number r
  let note :=
    if c.isEnabled "security" then ""
    else "\nnote: the security detector is disabled by config\n"
  .ofOutput ("Disallowed API patterns\n" ++ String.join rules ++ note)

/-! ### An example of a configuration -/

def exampleConfig : String :=
  "# nodelint configuration

[validator]
# Function the runtime invokes
entry_function = \"processData\"

# Per-script timeout in milliseconds (0 disables)
timeout_ms = 5000

# Detectors: structure, output-coverage, security, heuristics
# [detectors.heuristics]
# enabled = false

# Extra disallowed APIs, checked after the built-in table
# [[security.extra_patterns]]
# pattern = '\\bfetch\\s*\\('
# message = \"fetch() is not available in the sandbox\"

[defaults]
# Output format (text, json)
format = \"text\"

# Exit with code 1 when a finding at this severity or higher exists (error, warning, info)
fail_on = \"error\"
"

/-- Writes the example into a folder, over a configuration that is there only if that is
wished. -/
def initialise (env : Surroundings) (path : String) (force : Bool) : Outcome :=
  match env.place path with
  | .missing => .ofError ("Path does not exist: " ++ path)
  | .file full => .ofError ("Path is not a directory: " ++ full)
  | .folder full occupied writable =>
      let target := full ++ "/nodelint.toml"
      if occupied && !force then
        .ofOutput ("✓ " ++ target ++ " already exists (use --force to overwrite)\n")
      else if !writable then .ofError ("Failed to write " ++ target)
      else
        { Outcome.ofOutput ("✓ Created " ++ target ++ "\n") with
          written := some (path ++ "/nodelint.toml", exampleConfig) }

/-! ### Requests -/

/-- The configuration of a run: the file that was asked for, or what is found in the
folder. -/
def loadConfig (env : Surroundings) (path : Option String) : Except String Config :=
  match path with
  | some path =>
      match Config.ofFile path (env.read path) with
      | .ok c => .ok c
      | .error _ => .error ("Could not load --config " ++ path)
  | none => .ok (Config.discover env.read)

def runCommand (schedule : Schedule) (env : Surroundings) (c : Config) : Command → Outcome
  | .check scripts outputs inputs options =>
      report schedule c options scripts fun v => checkFile env v outputs inputs
  | .node definitions options => report schedule c options definitions (nodeFile env)
  | .patterns => listPatterns c
  | .init path force => initialise env path force

/-- What the program does for a request when it finishes files in the orders of a
schedule. -/
def runRequest (schedule : Schedule) (env : Surroundings) : Request → Outcome
  | .version => .ofOutput versionText
  | .help => .ofOutput helpText
  | .run _ (.init path force) => initialise env path force
  | .run config command =>
      match loadConfig env config with
      | .ok c => runCommand schedule env c command
      | .error message => .ofError message

def Request.files : Request → List String
  | .version | .help => []
  | .run config command =>
      let configs := match config with
        | some path => [path]
        | none => Config.fileNames
      match command with
      | .check paths .. | .node paths _ => configs ++ paths
      | .patterns => configs
      | .init .. => []

def run (env : Surroundings) (arguments : List String) : Outcome :=
  match Request.ofArguments? arguments with
  | some request => runRequest Order.inTurn env request
  | none => .misuse

end ScriptLint.CommandLine
