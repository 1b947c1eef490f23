import ScriptLint.Text.Blank
import ScriptLint.Text.Case

namespace ScriptLint

open ScriptLint.Text

/-! Sockets: the named inputs and outputs that a node declares. -/

inductive DataType where
  | text
  | number
  | boolean
  | json
  | array
  | any
  deriving DecidableEq, Inhabited, Repr

inductive SocketError where
  | emptyName
  /-- `string`, which is called `text` here. -/
  | stringType (given : String)
  | unknownType (given : String)
  deriving DecidableEq, Inhabited, Repr

def SocketError.message : SocketError → String
  | emptyName => "Socket name must not be empty"
  | stringType t => "Unknown data type '" ++ t ++ "'. Did you mean 'text'?"
  | unknownType t =>
      "Unknown data type '" ++ t
        ++ "'. Valid types: text, number, boolean, json, array, any"

namespace DataType

def all : List DataType := [text, number, boolean, json, array, any]

def name : DataType → String
  | text => "text"
  | number => "number"
  | boolean => "boolean"
  | json => "json"
  | array => "array"
  | any => "any"

/-- The type with a name, in any case and with blanks around it. -/
def ofText (s : List Char) : Except SocketError DataType :=
  match String.ofList ((trim s).flatMap lowercase) with
  | "text" => .ok text
  | "number" => .ok number
  | "boolean" => .ok boolean
  | "json" => .ok json
  | "array" => .ok array
  | "any" => .ok any
  | "string" => .error (.stringType (String.ofList s))
  | _ => .error (.unknownType (String.ofList s))

end DataType

structure Socket where
  name : String
  dataType : DataType
  deriving DecidableEq, Inhabited, Repr

namespace Socket

def splitColon : List Char → List Char × Option (List Char)
  | [] => ([], none)
  | c :: cs =>
      if c = ':' then ([], some cs)
      else
        let (name, rest) := splitColon cs
        (c :: name, rest)

/-- Reads `name` or `name:type`; without a type the socket takes any. -/
def ofText (s : List Char) : Except SocketError Socket := do
  let (name, type) := splitColon s
  let dataType ← match type with
    | some t => DataType.ofText t
    | none => .ok .any
  let name := trim name
  if name.isEmpty then throw .emptyName
  return ⟨String.ofList name, dataType⟩

end Socket

end ScriptLint
