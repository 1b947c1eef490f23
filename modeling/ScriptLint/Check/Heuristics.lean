import ScriptLint.Check.Coverage
import ScriptLint.Check.Security
import ScriptLint.Check.Structure

namespace ScriptLint.Script.Node

mutual

/-- The nodes that named children lead to, in the order of `preorder`, each with whether it
is what a call calls. -/
def withCalled (called : Bool) : Node → List (Bool × Node)
  | mk k r s e m cs =>
      (called, mk k r s e m cs) :: withCalledList (k == .callExpression) cs

/-- The same for children; `call` says that the parent is a call whose function is still to
come. -/
def withCalledList (call : Bool) : List Node → List (Bool × Node)
  | [] => []
  | c :: cs =>
      let called := call && c.role == some .function
      (if c.isNamed then withCalled called c else []) ++
        withCalledList (call && !called) cs

end

end ScriptLint.Script.Node

namespace ScriptLint.Check

open ScriptLint.Script ScriptLint.Text

/-! The check for frequent mistakes. Its findings are guesses, so none is an error. -/

namespace Heuristics

/-- The pattern that a text describes; a text that describes none matches no character. -/
def pattern (text : String) : Pattern :=
  (Pattern.ofText text.toList).getD (.chars .empty)

/-- Use of a name `outputs` that is no property. -/
def outputsUse : Pattern := pattern "(?:^|[^.\\w$])outputs\\s*(?:\\.|\\[|=[^=>]|=$)"

def resultDeclaration : Pattern := pattern "\\b(?:const|let|var)\\s+result\\b"

def resultWord : Pattern := pattern "\\bresult\\b"

def stringType : Pattern := pattern "\\bdataType['\"]?\\s*[:=]\\s*['\"\x60]string['\"\x60]"

def isCommentLine (line : List Char) : Bool :=
  match trimLeft line with
  | '/' :: '/' :: _ | '/' :: '*' :: _ | '*' :: _ => true
  | _ => false

/-- The lines that do not begin as comments, with their numbers. -/
def codeLines (source : List Char) : List (List Char × Nat) :=
  ((lines source).zipIdx 1).filter fun l => !isCommentLine l.1

def codeMatches (source : List Char) (p : Pattern) : List Nat :=
  ((codeLines source).filter fun l => p.matchesIn isWord l.1).map (·.2)

/-! ### The name outputs -/

def binds (c : Context) (name : String) : Bool :=
  c.script.root.preorder.any fun n => n.construct c.source == .binding name

def hasParam (source : List Char) (name : String) (f : Node) : Bool :=
  (List.range f.params.length).any fun i => f.paramName? source i == some name

def ambientOutputs (c : Context) : List Finding :=
  match (codeMatches c.source outputsUse).head? with
  | none => []
  | some line =>
      if binds c "outputs"
          || (c.function?.map (hasParam c.source "outputs")).getD false then []
      else
        [{ kind := .bestPractice, severity := .warning
           message := "\x60outputs\x60 is not defined in the custom node runtime. "
            ++ s!"Return your values from \x60{c.entryName}\x60 instead: "
            ++ "\x60return \x7b OutputName: value \x7d\x60"
           line := some line }]

/-! ### The variable result -/

def returnsResult (source : List Char) (f : Node) : Bool :=
  (Coverage.returnedObjects source f).any fun o =>
    resultWord.matchesIn isWord (o.1.text source)

def unusedResult (c : Context) (f : Node) : List Finding :=
  match (codeMatches c.source resultDeclaration).head? with
  | none => []
  | some line =>
      if c.declaresOutput "result" || returnsResult c.source f then []
      else
        [{ kind := .bestPractice, severity := .info
           message :=
            "\x60result\x60 is computed but never returned; include it in the returned "
              ++ "object, e.g. \x60return \x7b Output: result \x7d\x60"
           line := some line }]

/-! ### Data types -/

def stringTypes (c : Context) : List Finding :=
  (codeMatches c.source stringType).map fun line =>
    { kind := .bestPractice, severity := .info
      message := "\x60\"string\"\x60 is not a valid dataType; "
        ++ "use \x60\"text\"\x60 for string values"
      line := some line }

/-! ### Inputs -/

/-- The accesses in a function to members of a name, calls of them left out, each with the
member's name. -/
def reads (source : List Char) (object : String) (body : Node) : List (String × Node) :=
  (body.withCalled false).filterMap fun (called, n) =>
    if n.construct source == .member && n.objectName? source == some object && !called then
      (n.propertyName? source).map (·, n)
    else none

def undeclaredFinding (c : Context) (param : String) (access : String × Node) : Finding :=
  { kind := .bestPractice, severity := .info
    message := s!"\x60{param}.{access.1}\x60 does not match any declared input; "
      ++ "it will be undefined at runtime" : Finding }.atLocation (c.location access.2)

/-- One finding for the first access to each name that is no input. -/
def undeclaredInputs (c : Context) (f : Node) : List Finding :=
  match c.inputs, f.paramName? c.source 0, f.body? with
  | some inputs, some param, some body =>
      (firsts (inputs.map (·.name)) (reads c.source param body)).map
        (undeclaredFinding c param)
  | _, _, _ => []

def findings (c : Context) : List Finding :=
  ambientOutputs c ++ (c.function?.map (unusedResult c)).getD [] ++ stringTypes c
    ++ (c.function?.map (undeclaredInputs c)).getD []

end Heuristics

def heuristics : Check :=
  .ofFindings "heuristics"
    "Flags common custom-node mistakes that are not contract violations"
      Heuristics.findings

def withRules (extra : List Rule) : List Check :=
  [entryFunction, coverage, security extra, heuristics]

def standard : List Check := withRules []

end ScriptLint.Check
