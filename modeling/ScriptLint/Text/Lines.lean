namespace ScriptLint.Text

/-! The lines of a text. A line ends at a line feed, with the carriage return before it, or
at the end of the text; an empty last line is none. -/

/-- The text up to the first line feed, and what lies behind it. -/
def splitLine : List Char → List Char × Option (List Char)
  | [] => ([], none)
  | c :: cs =>
      if c = '\n' then ([], some cs)
      else
        let (line, rest) := splitLine cs
        (c :: line, rest)

theorem length_lt_of_splitLine {cs line rest : List Char}
    (h : splitLine cs = (line, some rest)) : rest.length < cs.length := by
  induction cs generalizing line with
  | nil => simp [splitLine] at h
  | cons c cs ih =>
      by_cases hc : c = '\n'
      · simp only [splitLine, hc, if_true, Prod.mk.injEq, Option.some.injEq] at h
        simp [h.2]
      · simp only [splitLine, hc, if_false, Prod.mk.injEq] at h
        have := ih (Prod.ext rfl h.2 : splitLine cs = ((splitLine cs).1, some rest))
        simp only [List.length_cons]
        omega

/-- The line without a carriage return at its end. -/
def dropReturn (line : List Char) : List Char :=
  if line.getLast? = some '\r' then line.dropLast else line

def lines (cs : List Char) : List (List Char) :=
  match cs with
  | [] => []
  | c :: cs =>
      match _h : splitLine (c :: cs) with
      | (line, none) => [line]
      | (line, some rest) => dropReturn line :: lines rest
termination_by cs.length
decreasing_by exact length_lt_of_splitLine (by assumption)

end ScriptLint.Text
