import ScriptLint.Finding
import ScriptLint.Text.Case

namespace ScriptLint

open ScriptLint.Text

/-! The forms of reports. -/

inductive Format where
  | text
  | json
  deriving DecidableEq, Inhabited, Repr

namespace Format

def name : Format → String
  | text => "text"
  | json => "json"

/-- The form with a name, in any case; `txt` and `terminal` are names of the text form as
well. -/
def ofName? (s : String) : Option Format :=
  match String.ofList (s.toList.flatMap lowercase) with
  | "text" | "txt" | "terminal" => some text
  | "json" => some json
  | _ => none

def unknownMessage (s : String) : String :=
  "Unknown format '" ++ s ++ "'. Valid formats: text, json"

end Format

def Severity.unknownMessage (s : String) : String :=
  "Unknown severity '" ++ s ++ "'. Valid severities: error, warning, info"

end ScriptLint
