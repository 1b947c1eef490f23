import ScriptLint.Check.Basic

namespace ScriptLint.Check

open ScriptLint.Script

/-! The check of the outputs: the entry function returns what is declared, and nothing
else. -/

namespace Coverage

/-- The object literals that a function returns anywhere in its body, with the return
statements. -/
def returnedObjects (source : List Char) (f : Node) : List (Node × Node) :=
  match f.body? with
  | some body =>
      body.preorder.filterMap fun n =>
        if n.construct source == .return then n.returnedObject?.map (·, n) else none
  | none => []

def returnedNames (source : List Char) (f : Node) : List (String × Nat) :=
  (returnedObjects source f).flatMap fun (object, statement) =>
    (object.keys source).map fun k => (k.name, (statement.location source).line)

/-- The names of all returned keys, each once, with the line of the first return. -/
def returnedKeys (source : List Char) (f : Node) : List (String × Nat) :=
  firsts [] (returnedNames source f)

def missingFinding (entryName : String) (line : Nat) (o : Socket) : Finding :=
  { kind := .outputMismatch, severity := .warning
    message :=
      s!"Output \x60{o.name}\x60 is declared but \x60{entryName}\x60 never returns it; "
        ++ "it will be undefined at runtime"
    line := some line }

def extraFinding (entryName : String) (key : String × Nat) : Finding :=
  { kind := .outputMismatch, severity := .info
    message :=
      s!"\x60{entryName}\x60 returns \x60{key.1}\x60, which is not a declared output; "
        ++ "the runtime ignores it"
    line := some key.2 }

def findings (c : Context) : List Finding :=
  match c.function? with
  | none => []
  | some f =>
      if c.outputs.isEmpty then []
      else
        let returned := returnedKeys c.source f
        let missing := c.outputs.filter fun o => !returned.any fun k => k.1 == o.name
        let extra := returned.filter fun k => !c.declaresOutput k.1
        missing.map (missingFinding c.entryName (c.line f)) ++
          extra.map (extraFinding c.entryName)

end Coverage

def coverage : Check :=
  .ofFindings "output-coverage"
    "Compares keys returned by the entry function with the declared outputs"
    Coverage.findings

end ScriptLint.Check
