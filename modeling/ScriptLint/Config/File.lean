import ScriptLint.Config.Basic
import ScriptLint.Data.Json.Reader
import ScriptLint.Data.Toml.Reader

namespace ScriptLint.Config

open ScriptLint.Data

/-! Configuration files, in JSON or TOML. -/

inductive FileError where
  | unreadable
  | toml
  | json
  deriving DecidableEq, Inhabited, Repr

/-! ### The values of a file -/

def sectionNames : List (List String) :=
  [["validator"], ["detectors"], ["security"], ["defaults"]]

def settings? (s : Value.Strictness) (v : Value) : Option (String × Nat) :=
  match v.fields? s [["entry_function"], ["timeout_ms"]] with
  | some [entry, timeout] => do
      let entry ← Value.orDefault? defaultEntryName Value.text? entry
      let timeout ←
        Value.orDefault? defaultTimeoutMs (Value.naturalBelow? (1 <<< 64)) timeout
      return (entry, timeout)
  | _ => none

def switch? (s : Value.Strictness) (v : Value) : Option (Option Bool) :=
  match v.fields? s [["enabled"]] with
  | some [enabled] => Value.orDefault? none (Value.nullable? Value.bool?) enabled
  | _ => none

/-- The switches of a record with one member for each check; of two with one name the last
counts. -/
def switches? (s : Value.Strictness) : Value → Option (List (String × Option Bool))
  | .record members => do
      let switches ← members.mapM fun (name, v) => (switch? s v).map (name, ·)
      return switches.foldl (fun all e => put e.1 e.2 all) []
  | _ => none

def pattern? (s : Value.Strictness) (v : Value) : Option PatternEntry :=
  match v.fields? s [["pattern"], ["message"]] with
  | some [some pattern, some message] => do return ⟨← pattern.text?, ← message.text?⟩
  | _ => none

def patterns? (s : Value.Strictness) (v : Value) : Option (List PatternEntry) :=
  match v.fields? s [["extra_patterns"]] with
  | some [patterns] => Value.orDefault? [] (Value.listOf? (pattern? s)) patterns
  | _ => none

def defaults? (s : Value.Strictness) (v : Value) :
    Option (Option String × Option String) :=
  match v.fields? s [["format"], ["fail_on"]] with
  | some [format, failOn] => do
      let name? := Value.orDefault? none (Value.nullable? Value.text?)
      return (← name? format, ← name? failOn)
  | _ => none

def ofValue? (s : Value.Strictness) (v : Value) : Option Config :=
  match v.fields? s sectionNames with
  | some [validator, detectors, security, defaults] => do
      let (entryName, timeoutMs) ←
        Value.orDefault? (defaultEntryName, defaultTimeoutMs) (settings? s) validator
      let switches ← Value.orDefault? [] (switches? s) detectors
      let patterns ← Value.orDefault? [] (patterns? s) security
      let (format, failOn) ← Value.orDefault? (none, none) (defaults? s) defaults
      return ⟨entryName, timeoutMs, switches, patterns, format, failOn⟩
  | _ => none

def ofJson? (text : List Char) : Option Config :=
  (Json.ofText? text).bind (ofValue? .exact)

def ofToml? (text : List Char) : Option Config :=
  (Toml.ofText? text).bind (ofValue? .lenient)

/-! ### Files -/

def fileName (path : List Char) : List Char :=
  ((path.reverse.dropWhile (· == '/')).takeWhile (· ≠ '/')).reverse

/-- What stands behind the last point of a file name, unless the name begins with that
point. -/
def extension? (path : List Char) : Option (List Char) :=
  let name := fileName path
  let ending := (name.reverse.takeWhile (· ≠ '.')).reverse
  if name.length ≤ ending.length + 1 then none else some ending

/-- Files whose name ends in `json`, in any case, are read as JSON, and all others as
TOML. -/
def isJsonFile (path : String) : Bool :=
  match extension? path.toList with
  | some e => e.map Char.toLower == ['j', 's', 'o', 'n']
  | none => false

def ofFile (path : String) (text : Option (List Char)) : Except FileError Config :=
  match text with
  | none => .error .unreadable
  | some text =>
      if isJsonFile path then
        match ofJson? text with
        | some c => .ok c
        | none => .error .json
      else
        match ofToml? text with
        | some c => .ok c
        | none => .error .toml

def fileNames : List String := ["nodelint.toml", ".nodelintrc.json"]

/-- The first configuration among the files that are looked for; the default one if none of
them can be used. -/
def discover (read : String → Option (List Char)) : Config :=
  (fileNames.findSome? fun name =>
    match ofFile name (read name) with
    | .ok c => some c
    | .error _ => none).getD default

end ScriptLint.Config
