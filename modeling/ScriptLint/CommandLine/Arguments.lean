import ScriptLint.Finding
import ScriptLint.Report.Format
import ScriptLint.Socket

namespace ScriptLint.CommandLine

/-! The arguments of the program. Options take their value from the same argument or from
the next, which must not look like an option; behind a double hyphen nothing is an
option. -/

/-- How results are reported; what is not given is taken from the configuration. -/
structure ReportOptions where
  format : Option Format
  failOn : Option Severity
  timeoutMs : Option Nat
  deriving DecidableEq, Inhabited, Repr

inductive Command where
  /-- Validates scripts with the given sockets. Without inputs their use is not checked. -/
  | check (scripts : List String) (outputs inputs : List Socket) (options : ReportOptions)
  | node (definitions : List String) (options : ReportOptions)
  | patterns
  | init (path : String) (force : Bool)
  deriving DecidableEq, Inhabited, Repr

inductive Request where
  | run (config : Option String) (command : Command)
  | version
  | help
  deriving DecidableEq, Inhabited, Repr

/-! ### Options -/

inductive Key where
  | config
  | logLevel
  | format
  | failOn
  | timeoutMs
  | output
  | input
  | force
  | version
  | help
  deriving DecidableEq, Repr

inductive Mode where
  | top
  | check
  | node
  | patterns
  | init
  deriving DecidableEq, Repr

namespace Mode

def ofName? : String → Option Mode
  | "check" => some check
  | "node" => some node
  | "patterns" => some patterns
  | "init" => some init
  | _ => none

def reports : Mode → Bool
  | check | node => true
  | _ => false

end Mode

namespace Key

def ofLong? (m : Mode) : String → Option Key
  | "config" => some config
  | "log-level" => some logLevel
  | "help" => some help
  | "version" => if m = .top then some version else none
  | "format" => if m.reports then some format else none
  | "fail-on" => if m.reports then some failOn else none
  | "timeout-ms" => if m.reports then some timeoutMs else none
  | "output" => if m = .check then some output else none
  | "input" => if m = .check then some input else none
  | "force" => if m = .init then some force else none
  | _ => none

def ofShort? (m : Mode) : Char → Option Key
  | 'h' => some help
  | 'V' => if m = .top then some version else none
  | 'f' => if m.reports then some format else none
  | 'o' => if m = .check then some output else none
  | 'i' => if m = .check then some input else none
  | _ => none

def takesValue : Key → Bool
  | force | version | help => false
  | _ => true

def isRepeatable : Key → Bool
  | output | input => true
  | _ => false

end Key

inductive Argument where
  | option (key : Key) (value : Option (List Char))
  /-- Options without a value that share a hyphen with what follows. -/
  | flag (key : Key) (rest : List Char)
  | separator
  | plain
  | unknown
  deriving Repr

def splitEquals (cs : List Char) : List Char × Option (List Char) :=
  let name := cs.takeWhile (· ≠ '=')
  match cs.drop name.length with
  | _ :: value => (name, some value)
  | [] => (name, none)

/-- The option whose letter stands at the front; the rest is its value if it takes one. -/
def shortArgument (m : Mode) : List Char → Argument
  | [] => .plain
  | c :: rest =>
      match Key.ofShort? m c with
      | none => .unknown
      | some key =>
          if key.takesValue then
            match rest with
            | [] => .option key none
            | '=' :: value => .option key (some value)
            | value => .option key (some value)
          else .flag key rest

def Argument.ofText (m : Mode) (cs : List Char) : Argument :=
  match cs with
  | ['-', '-'] => .separator
  | '-' :: '-' :: rest =>
      let (name, value) := splitEquals rest
      match Key.ofLong? m (String.ofList name) with
      | none => .unknown
      | some key =>
          if key.takesValue then .option key value
          else if value.isSome then .unknown
          else .flag key []
  | '-' :: c :: rest => shortArgument m (c :: rest)
  | _ => .plain

/-! ### Reading arguments -/

structure Given where
  mode : Mode
  config : Option String
  options : ReportOptions
  outputs : List Socket
  inputs : List Socket
  force : Bool
  positional : List String
  /-- The options so far; those before the name of the command count apart. -/
  seen : List Key
  deriving Repr

namespace Given

def start : Given := ⟨.top, none, ⟨none, none, none⟩, [], [], false, [], []⟩

end Given

inductive Stop where
  | usage
  | version
  | help
  deriving DecidableEq, Repr

def logLevels : List String := ["error", "warn", "info", "debug", "trace"]

/-- A number of 64 bits in decimal digits, a plus sign before them allowed. -/
def number? (cs : List Char) : Option Nat :=
  let digits := match cs with
    | '+' :: rest => rest
    | cs => cs
  if digits.isEmpty || !digits.all Char.isDigit then none
  else
    let n := digits.foldl (fun n c => 10 * n + (c.toNat - '0'.toNat)) 0
    if n < 1 <<< 64 then some n else none

def socket? (cs : List Char) : Option Socket :=
  match Socket.ofText cs with
  | .ok s => some s
  | .error _ => none

/-- Takes in the value of an option; none if the option does not admit it. -/
def Given.put? (g : Given) (key : Key) (value : List Char) : Option Given :=
  let text := String.ofList value
  match key with
  | .config => if value.isEmpty then none else some { g with config := some text }
  | .logLevel => if logLevels.contains text then some g else none
  | .format =>
      ([Format.text, .json].find? fun f => f.name == text).map fun f =>
        { g with options := { g.options with format := some f } }
  | .failOn =>
      (Severity.all.find? fun s => s.name == text).map fun s =>
        { g with options := { g.options with failOn := some s } }
  | .timeoutMs =>
      (number? value).map fun n =>
        { g with options := { g.options with timeoutMs := some n } }
  | .output => (socket? value).map fun s => { g with outputs := g.outputs ++ [s] }
  | .input => (socket? value).map fun s => { g with inputs := g.inputs ++ [s] }
  | .force | .version | .help => none

def Given.see (g : Given) (key : Key) : Except Stop Given :=
  if g.seen.contains key && !key.isRepeatable then .error .usage
  else .ok { g with seen := key :: g.seen }

def Given.accept (g : Given) (key : Key) (value : List Char) : Except Stop Given := do
  let g ← g.see key
  match g.put? key value with
  | some g => return g
  | none => throw .usage

def Mode.room : Mode → Option Nat
  | check | node => none
  | init => some 1
  | top | patterns => some 0

/-- Takes in an argument that is no option: the name of a command, or what the command is
about. -/
def Given.acceptPlain (g : Given) (afterSeparator : Bool) (text : List Char) :
    Except Stop Given :=
  let s := String.ofList text
  if g.mode = .top then
    if afterSeparator then .error .usage
    else
      match Mode.ofName? s with
      | some m => .ok { g with mode := m, seen := [] }
      | none => if s == "help" then .error .help else .error .usage
  else if text.isEmpty then .error .usage
  else
    match g.mode.room with
    | some n =>
        if g.positional.length < n then .ok { g with positional := g.positional ++ [s] }
        else .error .usage
    | none => .ok { g with positional := g.positional ++ [s] }

/-- Takes in options without values that share a hyphen. `fuel` is at least their
number. -/
def Given.acceptFlags (g : Given) (key : Key) (rest : List Char) : Nat → Except Stop Given
  | 0 => .ok g
  | fuel + 1 =>
      match key with
      | .help => .error .help
      | .version => .error .version
      | .force => do
          let g ← g.see .force
          let g := { g with force := true }
          match shortArgument g.mode rest with
          | .flag key rest => g.acceptFlags key rest fuel
          | .option key (some value) => g.accept key value
          | .plain => return g
          | _ => throw .usage
      | _ => .error .usage

def canBeValue (m : Mode) (cs : List Char) : Bool :=
  match Argument.ofText m cs with
  | .plain => true
  | _ => false

def readArguments (g : Given) (afterSeparator : Bool) :
    List (List Char) → Except Stop Given
  | [] => .ok g
  | cs :: rest =>
      if afterSeparator then do readArguments (← g.acceptPlain true cs) true rest
      else
        match Argument.ofText g.mode cs with
        | .plain => do readArguments (← g.acceptPlain false cs) false rest
        | .separator => readArguments g true rest
        | .unknown => .error .usage
        | .flag key more => do
            readArguments (← g.acceptFlags key more cs.length) false rest
        | .option key (some value) => do readArguments (← g.accept key value) false rest
        | .option key none =>
            match rest with
            | [] => .error .usage
            | value :: rest =>
                if canBeValue g.mode value then do
                  readArguments (← g.accept key value) false rest
                else .error .usage

def Given.command? (g : Given) : Option Command :=
  match g.mode with
  | .top => none
  | .check =>
      if g.positional.isEmpty then none
      else some (.check g.positional g.outputs g.inputs g.options)
  | .node => if g.positional.isEmpty then none else some (.node g.positional g.options)
  | .patterns => some .patterns
  | .init => some (.init (g.positional.headD ".") g.force)

def Request.ofArguments? (arguments : List String) : Option Request :=
  match readArguments .start false (arguments.map String.toList) with
  | .ok g => g.command?.map (.run g.config)
  | .error .version => some .version
  | .error .help => some .help
  | .error .usage => none

end ScriptLint.CommandLine
