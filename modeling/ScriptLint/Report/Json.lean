import ScriptLint.Data.Json.Printer
import ScriptLint.Data.Record

namespace ScriptLint.Result

open ScriptLint.Data

/-! Reports as JSON. -/

/-- The members of a report: whether there is no error, how many findings there are, and
these. -/
def reportMembers (r : Result) : List (String × Value) :=
  [("valid", .bool !r.hasErrors), ("summary", r.summary.toValue), ("findings", r.toValue)]

def reportValue (r : Result) : Value := .record r.reportMembers

def toJson (r : Result) : String := Json.toPretty r.reportValue

def toCompactJson (r : Result) : String := Json.toCompact r.reportValue

def manyValue (rs : List (String × Result)) : Value :=
  .list (rs.map fun r => .record (("file", .text r.1) :: r.2.reportMembers))

def manyToJson (rs : List (String × Result)) : String := Json.toPretty (manyValue rs)

end ScriptLint.Result
