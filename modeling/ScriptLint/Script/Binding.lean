import ScriptLint.Script.Node

namespace ScriptLint.Script

/-! The names that patterns and declarations bind. -/

namespace Node

mutual

/-- The nodes of the names that a pattern binds, in order. -/
def bound : Node → List Node
  | mk k r s e m cs =>
      match k with
      | .identifier | .shorthandPattern => [mk k r s e m cs]
      | .assignmentPattern | .objectAssignmentPattern => boundIn .left cs
      | .pairPattern => boundIn .value cs
      | .objectPattern | .arrayPattern | .restPattern => boundAll cs
      | _ => []

def boundIn (r : Role) : List Node → List Node
  | [] => []
  | c :: cs => if c.role == some r then c.bound else boundIn r cs

def boundAll : List Node → List Node
  | [] => []
  | c :: cs => (if c.isNamed then c.bound else []) ++ boundAll cs

end

def declarators (decl : Node) : List Node :=
  decl.namedChildren.filter fun c => c.kind == .variableDeclarator

def declared (decl : Node) : List Node :=
  decl.declarators.flatMap fun d => ((d.child? .name).map bound).getD []

def lexicallyDeclared (statement : Node) : List Node :=
  if statement.kind == .classDeclaration then (statement.child? .name).toList
  else statement.declared

def boundParams (function : Node) : List Node :=
  match function.child? .parameters with
  | some ps => ps.namedChildren.flatMap bound
  | none => ((function.child? .parameter).map bound).getD []

end Node

end ScriptLint.Script
