import ScriptLint.Check.Heuristics

namespace ScriptLint

open ScriptLint.Script

/-! Validators: checks that run in order over scripts, with a name for the entry
function. -/

structure Validator where
  checks : List Check
  entryName : String
  /-- The time limit in milliseconds. -/
  timeout : Option Nat

def Script.Rejection.finding (r : Rejection) : Finding :=
  let x : Finding := { kind := .syntaxError, severity := .error, message := r.message }
  x.atLocation r.location

def internalFault : Finding :=
  { kind := .syntaxError, severity := .error
    message := "Validation failed unexpectedly: "
      ++ "an internal error occurred while analyzing the script" }

namespace Validator

def empty : Validator := ⟨[], defaultEntryName, none⟩

def standard : Validator := ⟨Check.standard, defaultEntryName, none⟩

def context (v : Validator) (s : Script) (outputs : List Socket)
    (inputs : Option (List Socket)) : Context :=
  .ofScript s v.entryName outputs inputs

/-- The result on a text with its tree: why it is no script, or else what the checks find.
A check that fails leaves one finding and none of the others. -/
def judge (v : Validator) (s : Script) (outputs : List Socket)
    (inputs : Option (List Socket)) : Result :=
  match s.rejection? with
  | some r => ⟨[r.finding]⟩
  | none =>
      match Check.runAll (v.context s outputs inputs) v.checks with
      | .ok fs => ⟨fs⟩
      | .error _ => ⟨[internalFault]⟩

def validate (v : Validator) (text : List Char) (outputs : List Socket)
    (inputs : Option (List Socket)) : Result :=
  v.judge (.ofText text) outputs inputs

def duration (v : Validator) (s : Script) (outputs : List Socket)
    (inputs : Option (List Socket)) : Nat :=
  match s.rejection? with
  | some _ => 0
  | none => Check.totalDuration (v.context s outputs inputs) v.checks

end Validator

def validate (text : List Char) (outputs : List Socket)
    (inputs : Option (List Socket)) : Result :=
  Validator.standard.validate text outputs inputs

end ScriptLint
