import ScriptLint.Finding

namespace ScriptLint

/-! Reports as plain text: the findings in groups, the most serious first. -/

def cleanMessage : String := "No issues found."

/-- A finding on its own line, with its place if that is known. -/
def Finding.toLine (f : Finding) : String :=
  match f.location? with
  | some l => "- " ++ f.message ++ " (" ++ l ++ ")"
  | none => "- " ++ f.message

namespace Result

def groups (r : Result) : List (String × List Finding) :=
  [("Errors", r.errors), ("Warnings", r.warnings), ("Notes", r.notes)]

def renderGroup (heading : String) (fs : List Finding) : String :=
  heading ++ ":\n" ++ String.join (fs.map fun f => f.toLine ++ "\n")

/-- Groups that are empty are left out, and blank lines stand between the others. -/
def toText (r : Result) : String :=
  if r.isClean then cleanMessage ++ "\n"
  else
    "\n".intercalate
      ((r.groups.filter fun g => !g.2.isEmpty).map fun g => renderGroup g.1 g.2)

def manyToText (rs : List (String × Result)) : String :=
  "\n".intercalate (rs.map fun r => r.1 ++ "\n" ++ r.2.toText)

end Result

end ScriptLint
