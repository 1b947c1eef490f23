import ScriptLint.Script.EarlyError
import ScriptLint.Script.Reading
import ScriptLint.Script.Syntax
import ScriptLint.Text.Blank
import ScriptLint.Text.Lines

namespace ScriptLint

open ScriptLint.Text

/-! Scripts and what makes a text one: it fits the grammar, its declarations are in order,
and it uses neither modules nor JSX. -/

namespace Script

inductive Fault where
  | missing (kind : Kind)
  | unexpectedToken (shown : String)
  | unexpectedEnd
  | early (fault : EarlyFault)
  | moduleSyntax
  | jsxSyntax
  deriving DecidableEq, Inhabited, Repr

def EarlyFault.message : EarlyFault → String
  | missingInitializer => "Missing initializer in const declaration"
  | redeclared name => "Identifier '" ++ name ++ "' has already been declared"

def Fault.message : Fault → String
  | missing (.token text) => "Expected \x60" ++ text ++ "\x60"
  | missing kind => "Expected " ++ kind.name.map fun c => if c = '_' then ' ' else c
  | unexpectedToken shown => "Unexpected token \x60" ++ shown ++ "\x60"
  | unexpectedEnd => "Unexpected end of input"
  | early fault => fault.message
  | moduleSyntax =>
      "'import' and 'export' may appear only in modules; custom node scripts run as plain scripts"
  | jsxSyntax => "JSX syntax is not supported"

structure Rejection where
  fault : Fault
  location : Location
  deriving DecidableEq, Inhabited, Repr

def Rejection.message (r : Rejection) : String := "Syntax error: " ++ r.fault.message

end Script

/-- A text with its tree. -/
structure Script where
  source : List Char
  root : Script.Node
  flawed : Bool
  deriving Inhabited

namespace Script

def topLevel (s : Script) : List Node := s.root.statements

def reject (s : Script) (n : Node) (fault : Fault) : Rejection :=
  ⟨fault, n.location s.source⟩

def shownLength : Nat := 24

/-- What a faulty node says: what it misses, or the first token with text in it. -/
def describe (s : Script) (n : Node) : Rejection :=
  if n.missing then s.reject n (.missing n.kind)
  else
    let token := (n.findAny? fun t => t.children.isEmpty && t.start.byte < t.stop).getD n
    let text := trim (token.text s.source)
    let shown := ((lines text).headD text).take shownLength
    s.reject token
      (if text.isEmpty then .unexpectedEnd else .unexpectedToken (String.ofList shown))

/-- The first reason why a text with this tree is no script. A flawed tree that shows no
fault gives none. -/
def rejection? (s : Script) : Option Rejection :=
  if s.flawed then (s.root.findAny? Node.isFault).map s.describe
  else
    match EarlyError.first? (s.root.earlyErrors s.source) with
    | some e => some (s.reject e.node (.early e.fault))
    | none =>
        match s.topLevel.find? fun n => n.construct s.source == .module with
        | some n => some (s.reject n .moduleSyntax)
        | none =>
            (s.root.find? fun n => n.construct s.source == .jsx).map
              (s.reject · .jsxSyntax)

def ofText (text : List Char) : Script :=
  let tree := Tree.ofSource text
  ⟨text, tree.root, tree.flawed⟩

def parse (text : List Char) : Except Rejection Script :=
  let s := ofText text
  match s.rejection? with
  | some r => .error r
  | none => .ok s

end Script

end ScriptLint
