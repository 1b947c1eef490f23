import ScriptLint.Script.Binding

namespace ScriptLint.Script

/-! Errors in declarations that an engine finds before it runs a script. Every scope is a
script, a block or the body of a switch; it must not declare a lexical name twice, nor one
that a variable below it, a function of it or a parameter of its function has. -/

inductive EarlyFault where
  | missingInitializer
  | redeclared (name : String)
  deriving DecidableEq, Inhabited, Repr

structure EarlyError where
  node : Node
  fault : EarlyFault
  deriving Inhabited

namespace Node

/-! ### Constants -/

def uninitialized (source : List Char) (decl : Node) : List Node :=
  let isConst := match decl.child? .kind with
    | some k => k.text source == "const".toList
    | none => false
  if isConst then decl.declarators.filter fun d => (d.child? .value).isNone else []

/-! ### Scopes -/

mutual

/-- The variables declared in a node or below it, short of inner functions. -/
def hoisted (source : List Char) : Node → List String
  | mk k r s e m cs =>
      (if k == .variableDeclaration then
        (mk k r s e m cs).declared.map (·.name source) else [])
      ++ (if k.isFunctionBoundary then [] else hoistedBelow source cs)

def hoistedBelow (source : List Char) : List Node → List String
  | [] => []
  | c :: cs => (if c.isNamed then c.hoisted source else []) ++ hoistedBelow source cs

end

/-- The statements whose names share the scope. All cases of a switch share one. -/
def scopeStatements (scope : Node) : List Node :=
  if scope.kind == .switchBody then
    scope.namedChildren.flatMap fun case =>
      case.namedChildren.eraseP fun c => c.role == some .value
  else scope.namedChildren

end Node

structure ScopeNames where
  lexical : List String
  functions : List String

namespace ScopeNames

/-- Takes in one statement: the names it adds, and the nodes of those that were taken.
`outer` holds the variables below the scope and the parameters of its function. -/
def declare (source : List Char) (outer : List String) (names : ScopeNames)
    (statement : Node) : ScopeNames × List Node :=
  match statement.kind with
  | .lexicalDeclaration | .classDeclaration =>
      statement.lexicallyDeclared.foldl
        (fun (acc : ScopeNames × List Node) n =>
          let name := n.name source
          let taken := acc.1.lexical.contains name || acc.1.functions.contains name
            || outer.contains name
          ({ acc.1 with lexical := name :: acc.1.lexical },
            if taken then acc.2 ++ [n] else acc.2))
        (names, [])
  | .functionDeclaration | .generatorFunctionDeclaration =>
      match statement.child? .name with
      | some n =>
          let name := n.name source
          ({ names with functions := name :: names.functions },
            if names.lexical.contains name then [n] else [])
      | none => (names, [])
  | _ => (names, [])

/-- The nodes of the names that statements declare although they were taken, in order. -/
def conflicts (source : List Char) (outer : List String) (names : ScopeNames) :
    List Node → List Node
  | [] => []
  | s :: rest =>
      let (names, taken) := names.declare source outer s
      taken ++ conflicts source outer names rest

end ScopeNames

namespace Node

/-- The nodes of the names that a scope declares although they are taken. `parent` is the
node around the scope. -/
def conflicts (source : List Char) (parent : Option Node) (scope : Node) : List Node :=
  let params := match parent with
    | some f => if f.kind.isFunctionBoundary then f.boundParams.map (·.name source) else []
    | none => []
  let hoisted := hoistedBelow source scope.children
  ScopeNames.conflicts source (params ++ hoisted) ⟨[], []⟩ scope.scopeStatements

mutual

/-- All nodes that named children lead to, each with its parent, in the order of
`preorder`. -/
def withParents (parent : Option Node) : Node → List (Option Node × Node)
  | mk k r s e m cs =>
      (parent, mk k r s e m cs) :: withParentsList (mk k r s e m cs) cs

def withParentsList (parent : Node) : List Node → List (Option Node × Node)
  | [] => []
  | c :: cs =>
      (if c.isNamed then withParents (some parent) c else []) ++ withParentsList parent cs

end

/-- All early errors: constants without a value first, then taken names, each in order. -/
def earlyErrors (source : List Char) (root : Node) : List EarlyError :=
  let constants := (root.preorder.filter fun n => n.kind == .lexicalDeclaration).flatMap
    (·.uninitialized source)
  let scopes := (root.withParents none).filter fun v => v.2.kind.isScope
  constants.map (⟨·, .missingInitializer⟩)
    ++ scopes.flatMap fun (parent, scope) =>
      (scope.conflicts source parent).map fun n => ⟨n, .redeclared (n.name source)⟩

end Node

/-- The first of the errors that begin at the least byte. -/
def EarlyError.first? : List EarlyError → Option EarlyError
  | [] => none
  | e :: rest =>
      match first? rest with
      | some f => if f.node.start.byte < e.node.start.byte then some f else some e
      | none => some e

end ScriptLint.Script
