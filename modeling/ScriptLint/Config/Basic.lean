import ScriptLint.Config.Name
import ScriptLint.Validator.Watch

namespace ScriptLint

open ScriptLint.Text

/-! Configurations of validators. -/

structure PatternEntry where
  pattern : String
  message : String
  deriving DecidableEq, Inhabited, Repr

structure Config where
  entryName : String
  /-- The time limit in milliseconds; none if it is zero. -/
  timeoutMs : Nat
  /-- Which checks are switched on or off, by name. No name occurs twice. -/
  switches : List (String × Option Bool)
  patterns : List PatternEntry
  format : Option String
  /-- The name of the severity from which on findings count as a failure. -/
  failOn : Option String
  deriving DecidableEq, Inhabited, Repr

namespace Config

def defaultTimeoutMs : Nat := 5000

def default : Config := ⟨defaultEntryName, defaultTimeoutMs, [], [], none, none⟩

/-- Puts an entry in place of the one with its key, or where the order of keys has it. -/
def put {α : Type} (key : String) (a : α) : List (String × α) → List (String × α)
  | [] => [(key, a)]
  | (k, b) :: rest =>
      if k = key then (key, a) :: rest
      else if key < k then (key, a) :: (k, b) :: rest
      else (k, b) :: put key a rest

def setSwitch (c : Config) (name : String) (on : Option Bool) : Config :=
  { c with switches := put name on c.switches }

/-- Whether a check runs: unless it is switched off under its normalized name, or under the
given name if there is no switch with the normalized one. -/
def isEnabled (c : Config) (name : String) : Bool :=
  ((c.switches.lookup (normalize name) <|> c.switches.lookup name).bind id).getD true

def disabled (c : Config) : List String :=
  ((c.switches.filter fun s => s.2 == some false).map fun s => normalize s.1).mergeSort
    fun a b => a ≤ b

def timeout (c : Config) : Option Nat := if c.timeoutMs = 0 then none else some c.timeoutMs

/-- The rules of the configured patterns. Texts that are no patterns are left out. -/
def extraRules (c : Config) : List Rule :=
  c.patterns.filterMap fun p => Rule.ofText? p.pattern p.message

def rules (c : Config) : List Rule := Rule.withBuiltin c.extraRules

def checks (c : Config) : List Check :=
  if c.patterns.isEmpty then Check.standard else Check.withRules c.extraRules

theorem checks_eq (c : Config) : c.checks = Check.withRules c.extraRules := by
  unfold checks
  split
  · next hempty =>
      rw [extraRules, List.isEmpty_iff.mp hempty, List.filterMap_nil, Check.standard]
  · rfl

def validator (c : Config) : Validator where
  checks := c.checks.filter fun k => c.isEnabled k.name
  entryName := c.entryName
  timeout := c.timeout

end Config

end ScriptLint
