import ScriptLint.Text.Property.Age
import ScriptLint.Text.Property.Break

namespace ScriptLint.Text.Property

/-! Sets of characters by the names that Unicode gives to properties: those that a
character has or has not, its general category, its script and the scripts it is used in,
its age, and the parts it plays in the division of text. -/

inductive Query where
  | name (n : String)
  | value (property v : String)
  deriving DecidableEq, Repr

/-- Names of categories that other properties have as well. -/
def isAmbiguous (n : String) : Bool := n == "cf" || n == "sc" || n == "lc"

/-- The characters with a property; none if it is not among those known here. -/
def Query.chars? : Query → Option CharSet
  | name n =>
      let n := normalize n
      (if isAmbiguous n then none else binary? n) <|> category? n <|> script? n
  | value p v =>
      match normalize p with
      | "generalcategory" | "gc" => category? (normalize v)
      | "script" | "sc" => script? (normalize v)
      | "scriptextensions" | "scx" => extendedScript? (normalize v)
      | "age" => age? (normalize v)
      | "graphemeclusterbreak" | "gcb" => Break.grapheme? (normalize v)
      | "wordbreak" | "wb" => Break.word? (normalize v)
      | "sentencebreak" | "sb" => Break.sentence? (normalize v)
      | _ => none

end ScriptLint.Text.Property
