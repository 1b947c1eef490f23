import ScriptLint.Text.CharSet

namespace ScriptLint.Grammar

open ScriptLint.Text

/-! Tokens of a grammar: each has a shape, a regular expression over characters, and a rank
that decides between two tokens that fit the same text. -/

inductive Shape where
  | empty
  | set (chars : CharSet)
  | seq (first second : Shape)
  | alt (left right : Shape)
  | plus (body : Shape)
  deriving BEq, Hashable, Inhabited, Repr

namespace Shape

instance : Append Shape := ⟨seq⟩
instance : HOr Shape Shape Shape := ⟨alt⟩

def opt (s : Shape) : Shape := s ||| empty

def star (s : Shape) : Shape := opt (plus s)

def char (c : Char) : Shape := set (.single c)

def chars : List Char → Shape
  | [] => empty
  | [c] => char c
  | c :: rest => char c ++ chars rest

def text (s : String) : Shape := chars s.toList

def anyOf (s : String) : Shape := set (.ofString s)

def noneOf (s : String) : Shape := set (CharSet.ofString s).complement

def times (s : Shape) : Nat → Shape
  | 0 => empty
  | 1 => s
  | n + 2 => s ++ times s (n + 1)

def upTo (s : Shape) : Nat → Shape
  | 0 => empty
  | n + 1 => opt (s ++ upTo s n)

end Shape

/-- A token: `spelling` is present for a token with one fixed text. An `attached` token
must begin exactly where the one before it ends, with no blank between. Of two tokens that
fit, the one of higher `rank` wins, and a token of higher rank that is complete is not
given up for a longer one of lower rank. -/
structure Token where
  shape : Shape
  spelling : Option String := none
  rank : Int := 0
  attached : Bool := false
  deriving BEq, Hashable, Inhabited, Repr

namespace Token

def ofText (s : String) : Token := { shape := .text s, spelling := some s }

def ofShape (s : Shape) : Token := { shape := s }

def isKeyword (t : Token) : Bool :=
  match t.spelling with
  | some s => !t.attached && s.toList.all fun c => c.isAlpha || c == '_'
  | none => false

/-- Between tokens of one rank, fixed texts come first and then attached ones. -/
def tieBreak (t : Token) : Nat :=
  (if t.spelling.isSome then 2 else 0) + (if t.attached then 1 else 0)

end Token

/-- Tokens that no regular expression describes; the scanner finds them by rules of its
own. -/
inductive Scanned where
  | automaticSemicolon
  | templateChars
  | ternaryMark
  | htmlComment
  | jsxText
  deriving DecidableEq, Hashable, Inhabited, Repr

namespace Scanned

def name : Scanned → String
  | .automaticSemicolon => "_automatic_semicolon"
  | .templateChars => "_template_chars"
  | .ternaryMark => "_ternary_qmark"
  | .htmlComment => "html_comment"
  | .jsxText => "jsx_text"

def all : List Scanned :=
  [.automaticSemicolon, .templateChars, .ternaryMark, .htmlComment, .jsxText]

end Scanned

end ScriptLint.Grammar
