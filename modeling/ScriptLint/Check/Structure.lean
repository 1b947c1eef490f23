import ScriptLint.Check.Basic

namespace ScriptLint.Check

open ScriptLint.Script

/-! The check of the entry function: it is there, once, with the parameters it needs, and
no statement returns outside of it. -/

namespace Structure

def missingEntry (c : Context) : Finding :=
  let name := c.entryName
  let signature := s!"function {name}(inputs, properties, llm) \x7b ... \x7d"
  let message := match c.entry.binding? with
    | some binding =>
        let line := c.line binding
        s!"\x60{name}\x60 is assigned to a variable on line {line}, but the runtime only "
          ++ s!"calls a top-level function declaration. Declare it as \x60{signature}\x60"
    | none =>
        s!"Missing required function \x60{name}\x60. Declare it at the top level as "
          ++ s!"\x60{signature}\x60 and return an object with your output values"
  { kind := .missingFunction, severity := .error, message, line := some 1 }

def repeated (c : Context) (line : Nat) : List Finding :=
  let count := c.entry.declarations.length
  if count > 1 then
    [{ kind := .bestPractice, severity := .warning
       message := s!"\x60{c.entryName}\x60 is declared {count} times; "
        ++ "only the last declaration is used"
       line := some line }]
  else []

def usesProperties (source : List Char) (f : Node) : Bool :=
  match f.body? with
  | some body => body.preorder.any fun n => n.construct source == .identifier "properties"
  | none => false

def fewParams (c : Context) (f : Node) (line : Nat) : List Finding :=
  let name := c.entryName
  match f.params.length with
  | 0 =>
      [{ kind := .bestPractice, severity := .warning
         message := s!"\x60{name}\x60 takes no parameters, so it cannot receive inputs. "
          ++ s!"Use \x60function {name}(inputs, properties, llm)\x60"
         line := some line }]
  | 1 =>
      if usesProperties c.source f then
        [{ kind := .bestPractice, severity := .info
           message :=
            s!"\x60{name}\x60 uses \x60properties\x60 but declares only one parameter; "
              ++ s!"add it as the second parameter: \x60{name}(inputs, properties)\x60"
           line := some line }]
      else []
  | _ => []

def entryFindings (c : Context) : List Finding :=
  match c.function? with
  | none => [missingEntry c]
  | some f => repeated c (c.line f) ++ fewParams c f (c.line f)

def topLevelReturns (c : Context) : List Node :=
  c.script.topLevel.filter fun n => n.construct c.source == .return

def returnFinding (c : Context) (n : Node) : Finding :=
  let x : Finding :=
    { kind := .syntaxError, severity := .error
      message := s!"\x60return\x60 must be inside \x60{c.entryName}\x60; "
        ++ "top-level return statements are not allowed" }
  x.atLocation (c.location n)

def findings (c : Context) : List Finding :=
  entryFindings c ++ (topLevelReturns c).map (returnFinding c)

end Structure

def entryFunction : Check :=
  .ofFindings "structure"
    ("Checks that the entry function exists with the expected parameters "
      ++ "and that nothing returns at the top level")
    Structure.findings

end ScriptLint.Check
