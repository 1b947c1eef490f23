import ScriptLint.Text.Case

namespace ScriptLint.Config

open ScriptLint.Text

/-! Names of checks, which a configuration may spell in several ways. -/

/-- Whether a capital begins a new word, from the characters on both sides of it. -/
def beginsWord (before after : Option Char) : Bool :=
  before.any isLowercase || (before.any isUppercase && after.any isLowercase)

/-- The words of a name in lower case with hyphens between them. -/
def hyphenate (before : Option Char) : List Char → List Char
  | [] => []
  | c :: cs =>
      let here :=
        if isUppercase c then
          (if beginsWord before cs.head? then ['-'] else []) ++ lowercase c
        else if c = '_' then ['-']
        else [c]
      here ++ hyphenate (some c) cs

/-- The text without a text at its front, however often it stands there. -/
def dropRepeated (front : List Char) : Nat → List Char → List Char
  | 0, cs => cs
  | fuel + 1, cs =>
      match front.isPrefixOf? cs with
      | some rest => dropRepeated front fuel rest
      | none => cs

def dropEnd (ending cs : List Char) : List Char :=
  (dropRepeated ending.reverse cs.length cs.reverse).reverse

def nameEnding : List Char := ['-', 'd', 'e', 't', 'e', 'c', 't', 'o', 'r']

def normalize (name : String) : String :=
  String.ofList (dropEnd nameEnding (hyphenate none name.toList))

end ScriptLint.Config
