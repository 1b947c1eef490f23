import ScriptLint.Data.Value
import ScriptLint.Finding
import ScriptLint.Socket

namespace ScriptLint

open ScriptLint.Data

/-! Sockets, findings and nodes as records of data files. -/

/-! ### Sockets -/

namespace Socket

def fieldNames : List (List String) := [["name"], ["dataType", "data_type", "type"]]

def ofValue? (v : Value) : Option Socket :=
  match v.fields? .exact fieldNames with
  | some [some name, dataType] => do
      let name ← name.text?
      let dataType ←
        Value.orDefault? .any (Value.choice? DataType.name DataType.all) dataType
      return ⟨name, dataType⟩
  | _ => none

def toValue (s : Socket) : Value :=
  .record [("name", .text s.name), ("dataType", .text s.dataType.name)]

end Socket

/-! ### Findings -/

/-- Lines and columns are below this number. -/
def positionLimit : Nat := 1 <<< 32

namespace Finding

def fieldNames : List (List String) :=
  [["kind"], ["severity"], ["message"], ["line"], ["column"]]

def position? : Option Value → Option (Option Nat) :=
  Value.orDefault? none (Value.nullable? (Value.naturalBelow? positionLimit))

def ofValue? (v : Value) : Option Finding :=
  match v.fields? .exact fieldNames with
  | some [some kind, some severity, some message, line, column] => do
      let kind ← Value.choice? FindingKind.name FindingKind.all kind
      let severity ← Value.choice? Severity.name Severity.all severity
      let message ← message.text?
      return ⟨kind, severity, message, ← position? line, ← position? column⟩
  | _ => none

/-- A line or column; one that is not known is left out. -/
def positionMember (key : String) : Option Nat → List (String × Value)
  | some n => [(key, .natural n)]
  | none => []

def toValue (f : Finding) : Value :=
  .record ([("kind", .text f.kind.name), ("severity", .text f.severity.name),
    ("message", .text f.message)] ++ positionMember "line" f.line
    ++ positionMember "column" f.column)

end Finding

namespace Result

def ofValue? (v : Value) : Option Result := (v.listOf? Finding.ofValue?).map (⟨·⟩)

def toValue (r : Result) : Value := .list (r.findings.map Finding.toValue)

end Result

def Summary.toValue (s : Summary) : Value :=
  .record [("error", .natural s.error), ("warning", .natural s.warning),
    ("info", .natural s.info), ("total", .natural s.total)]

/-! ### Nodes -/

structure NodeDefinition where
  name : Option String
  code : String
  outputs : List Socket
  inputs : Option (List Socket)
  deriving DecidableEq, Inhabited, Repr

namespace NodeDefinition

def fieldNames : List (List String) :=
  [["name"], ["code", "script"], ["outputs"], ["inputs"]]

def ofValue? (v : Value) : Option NodeDefinition :=
  match v.fields? .exact fieldNames with
  | some [name, some code, outputs, inputs] => do
      let name ← Value.orDefault? none (Value.nullable? Value.text?) name
      let code ← code.text?
      let outputs ← Value.orDefault? [] (Value.listOf? Socket.ofValue?) outputs
      let inputs ←
        Value.orDefault? none (Value.nullable? (Value.listOf? Socket.ofValue?)) inputs
      return ⟨name, code, outputs, inputs⟩
  | _ => none

end NodeDefinition

end ScriptLint
