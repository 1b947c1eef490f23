import ScriptLint.Script.Literal

namespace ScriptLint.Script

/-! The constructs of a script that checks look at. -/

inductive Construct where
  | function
  | return
  | object
  | member
  | identifier (name : String)
  /-- A declarator that binds one plain name. -/
  | binding (name : String)
  | module
  | jsx
  | other
  deriving DecidableEq, Inhabited, Repr

/-- A key of an object that is known without running anything. -/
inductive PropertyKey where
  | identifier (name : String)
  | stringLiteral (value : String)
  deriving DecidableEq, Inhabited, Repr

def PropertyKey.name : PropertyKey → String
  | identifier n => n
  | stringLiteral v => v

namespace Node

def construct (source : List Char) (n : Node) : Construct :=
  match n.kind with
  | .functionDeclaration => .function
  | .returnStatement => .return
  | .object => .object
  | .memberExpression | .subscriptExpression => .member
  | .identifier | .shorthandProperty => .identifier (n.name source)
  | .variableDeclarator =>
      match n.child? .name with
      | some b => if b.kind == .identifier then .binding (b.name source) else .other
      | none => .other
  | .importStatement | .exportStatement => .module
  | .jsx _ => .jsx
  | _ => .other

/-- The statements of a script or block: its named children that are neither comments nor
the first line of an executable script. -/
def statements (n : Node) : List Node := n.namedChildren.filter fun c => !c.kind.isTrivia

/-! ### Functions -/

def functionName? (source : List Char) (f : Node) : Option String :=
  (f.child? .name).map (·.name source)

def params (f : Node) : List Node :=
  match f.child? .parameters with
  | some ps => ps.namedChildren.filter fun p => p.kind != .comment
  | none => []

def paramName? (source : List Char) (f : Node) (i : Nat) : Option String :=
  (f.params[i]?.filter fun p => p.kind == .identifier).map (·.name source)

def body? (f : Node) : Option Node := f.child? .body

/-! ### Returns -/

/-- The first named child that is no comment. -/
def operand? (n : Node) : Option Node := n.namedChildren.find? fun c => c.kind != .comment

/-- What is inside any number of parentheses; `fuel` bounds how many. -/
def stripParentheses : Nat → Node → Option Node
  | 0, n => some n
  | fuel + 1, n =>
      if n.kind == .parenthesizedExpression then n.operand?.bind (stripParentheses fuel)
      else some n

def returnedObject? (r : Node) : Option Node :=
  (r.operand?.bind fun a => a.stripParentheses a.size).filter fun a => a.kind == .object

/-! ### Objects and members -/

def keyNode? (member : Node) : Option Node :=
  match member.kind with
  | .pair => member.child? .key
  | .methodDefinition => member.child? .name
  | .shorthandProperty => some member
  | _ => none

def key? (source : List Char) (member : Node) : Option PropertyKey :=
  member.keyNode?.bind fun key =>
    match key.kind with
    | .propertyIdentifier | .shorthandProperty => some (.identifier (key.name source))
    | .string => some (.stringLiteral (String.ofList (stringValue source key)))
    | _ => none

def keys (source : List Char) (object : Node) : List PropertyKey :=
  object.namedChildren.filterMap (·.key? source)

/-- The object of a member access, if it is a plain name. -/
def objectName? (source : List Char) (access : Node) : Option String :=
  ((access.child? .object).filter fun o => o.kind == .identifier).map (·.name source)

/-- The property of a member access, if it is a name or a string literal. -/
def propertyName? (source : List Char) (access : Node) : Option String :=
  match access.child? .property with
  | some p => if p.kind == .propertyIdentifier then some (p.name source) else none
  | none =>
      match access.child? .index with
      | some i =>
          if i.kind == .string then some (String.ofList (stringValue source i)) else none
      | none => none

end Node

end ScriptLint.Script
