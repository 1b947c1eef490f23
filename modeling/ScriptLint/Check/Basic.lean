import ScriptLint.Finding
import ScriptLint.Script.Basic
import ScriptLint.Socket

namespace ScriptLint

open ScriptLint.Script

/-! Checks, and what they may look at. -/

def defaultEntryName : String := "processData"

/-- What the top level of a script says about the name of its entry function. -/
structure Entry where
  declarations : List Node
  /-- The first variable with this name. -/
  binding? : Option Node
  deriving Inhabited

namespace Entry

/-- The function that the runtime calls: the last with the name. -/
def function? (e : Entry) : Option Node := e.declarations.getLast?

def declarator? (source : List Char) (name : String) (statement : Node) : Option Node :=
  if statement.kind == .lexicalDeclaration || statement.kind == .variableDeclaration then
    statement.namedChildren.find? fun n => n.construct source == .binding name
  else none

def isDeclaration (source : List Char) (name : String) (statement : Node) : Bool :=
  statement.construct source == .function && statement.functionName? source == some name

def locate (s : Script) (name : String) : Entry where
  declarations := s.topLevel.filter (isDeclaration s.source name)
  binding? := s.topLevel.findSome? (declarator? s.source name)

end Entry

/-- What a check may look at. Without declared inputs their use is not checked. -/
structure Context where
  script : Script
  entryName : String
  entry : Entry
  outputs : List Socket
  inputs : Option (List Socket)
  deriving Inhabited

namespace Context

def ofScript (s : Script) (entryName : String) (outputs : List Socket)
    (inputs : Option (List Socket)) : Context :=
  ⟨s, entryName, .locate s entryName, outputs, inputs⟩

def source (c : Context) : List Char := c.script.source

def function? (c : Context) : Option Node := c.entry.function?

def declaresOutput (c : Context) (name : String) : Bool :=
  c.outputs.any fun o => o.name == name

def location (c : Context) (n : Node) : Text.Location := n.location c.source

def line (c : Context) (n : Node) : Nat := (c.location n).line

end Context

inductive CheckFault where
  | failure (message : String)
  | crash
  deriving DecidableEq, Inhabited, Repr

structure Check where
  name : String
  description : String
  /-- How many milliseconds it takes at least. -/
  duration : Nat
  run : Context → Except CheckFault (List Finding)

namespace Check

def ofFindings (name description : String) (f : Context → List Finding) : Check :=
  ⟨name, description, 0, fun c => .ok (f c)⟩

/-- The findings of checks in order; none of them if one of the checks fails. -/
def runAll (c : Context) : List Check → Except CheckFault (List Finding)
  | [] => .ok []
  | k :: ks =>
      match k.run c with
      | .error e => .error e
      | .ok fs => (runAll c ks).map (fs ++ ·)

/-- The first entry of each name that is not among `seen`. -/
def firsts {α : Type} (seen : List String) : List (String × α) → List (String × α)
  | [] => []
  | (name, a) :: rest =>
      if seen.contains name then firsts seen rest
      else (name, a) :: firsts (name :: seen) rest

def totalDuration (c : Context) : List Check → Nat
  | [] => 0
  | k :: ks =>
      k.duration + match k.run c with
        | .error _ => 0
        | .ok _ => totalDuration c ks

end Check

end ScriptLint
