import ScriptLint.Report.Format
import ScriptLint.Report.Json
import ScriptLint.Report.Text

namespace ScriptLint

/-! Reports of one or several results in a form of choice. -/

def Result.render (r : Result) : Format → String
  | .text => r.toText
  | .json => r.toJson

/-- The report of results with labels. A single result goes without its label. -/
def renderMany (rs : List (String × Result)) (f : Format) : String :=
  match rs with
  | [(_, r)] => r.render f
  | rs =>
      match f with
      | .text => Result.manyToText rs
      | .json => Result.manyToJson rs

end ScriptLint
