import ScriptLint.Text.Case
import ScriptLint.Text.Mark

namespace ScriptLint

open ScriptLint.Text

/-! What a check finds in a script, and the result of all checks. -/

/-- From the least to the most serious. -/
inductive Severity where
  | info
  | warning
  | error
  deriving DecidableEq, Inhabited, Repr

namespace Severity

def name : Severity → String
  | info => "info"
  | warning => "warning"
  | error => "error"

def rank : Severity → Nat
  | info => 0
  | warning => 1
  | error => 2

instance : LE Severity := ⟨fun a b => a.rank ≤ b.rank⟩

instance (a b : Severity) : Decidable (a ≤ b) :=
  inferInstanceAs (Decidable (a.rank ≤ b.rank))

def max (a b : Severity) : Severity := if a ≤ b then b else a

def all : List Severity := [info, warning, error]

/-- The severity with a name, in any case; `note` and `warn` are names as well. -/
def ofName? (s : String) : Option Severity :=
  match String.ofList (s.toList.flatMap lowercase) with
  | "info" | "note" => some info
  | "warning" | "warn" => some warning
  | "error" => some error
  | _ => none

end Severity

inductive FindingKind where
  | missingFunction
  | outputMismatch
  | syntaxError
  | security
  | bestPractice
  deriving DecidableEq, Inhabited, Repr

namespace FindingKind

def name : FindingKind → String
  | missingFunction => "missing_function"
  | outputMismatch => "output_mismatch"
  | syntaxError => "syntax"
  | security => "security"
  | bestPractice => "best_practice"

def all : List FindingKind :=
  [missingFunction, outputMismatch, syntaxError, security, bestPractice]

end FindingKind

structure Finding where
  kind : FindingKind
  severity : Severity
  message : String
  line : Option Nat := none
  column : Option Nat := none
  deriving DecidableEq, Inhabited, Repr

namespace Finding

def atLocation (f : Finding) (l : Location) : Finding :=
  { f with line := some l.line, column := some l.column }

def location? (f : Finding) : Option String :=
  match f.line, f.column with
  | some l, some c => some ("line " ++ toString l ++ ":" ++ toString c)
  | some l, none => some ("line " ++ toString l)
  | none, _ => none

end Finding

/-- How many findings there are of each severity. -/
structure Summary where
  error : Nat
  warning : Nat
  info : Nat
  total : Nat
  deriving DecidableEq, Inhabited, Repr

namespace Summary

def zero : Summary := ⟨0, 0, 0, 0⟩

def add (a b : Summary) : Summary :=
  ⟨a.error + b.error, a.warning + b.warning, a.info + b.info, a.total + b.total⟩

instance : Add Summary := ⟨add⟩

def count (s : Summary) (f : Finding) : Summary :=
  match f.severity with
  | .error => { s with error := s.error + 1, total := s.total + 1 }
  | .warning => { s with warning := s.warning + 1, total := s.total + 1 }
  | .info => { s with info := s.info + 1, total := s.total + 1 }

def ofFindings (fs : List Finding) : Summary := fs.foldl count zero

end Summary

/-- The findings on one script, in the order in which they were made. -/
structure Result where
  findings : List Finding
  deriving DecidableEq, Inhabited, Repr

namespace Result

def withSeverity (r : Result) (s : Severity) : List Finding :=
  r.findings.filter fun f => f.severity == s

def errors (r : Result) : List Finding := r.withSeverity .error

def warnings (r : Result) : List Finding := r.withSeverity .warning

def notes (r : Result) : List Finding := r.withSeverity .info

def isClean (r : Result) : Bool := r.findings.isEmpty

def hasErrors (r : Result) : Bool := !r.errors.isEmpty

def maxSeverity? (r : Result) : Option Severity :=
  r.findings.foldl (fun acc f => some ((acc.map (·.max f.severity)).getD f.severity)) none

def summary (r : Result) : Summary := .ofFindings r.findings

end Result

end ScriptLint
