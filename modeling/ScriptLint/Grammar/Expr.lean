import ScriptLint.Grammar.Token

namespace ScriptLint

/-! Grammars: named rules over tokens, with the annotations that shape a tree (fields,
other names) and those that settle which of two readings is meant. -/

namespace Grammar

inductive Assoc where
  | left
  | right
  deriving DecidableEq, Hashable, Inhabited, Repr

/-- The name under which a child appears instead of its own; a name without `named` is
written like a token. -/
structure Alias where
  name : String
  named : Bool
  deriving DecidableEq, Hashable, Inhabited, Repr

inductive Expr where
  | empty
  | token (t : Token)
  | scanned (s : Scanned)
  | ref (name : String)
  | seq (first second : Expr)
  | alt (left right : Expr)
  | many1 (body : Expr)
  | prec (level : String) (body : Expr)
  | assoc (side : Assoc) (body : Expr)
  | dynamic (weight : Int) (body : Expr)
  | field (name : String) (body : Expr)
  | rename (name : Alias) (body : Expr)
  | words (set : Nat) (body : Expr)
  deriving BEq, Hashable, Inhabited, Repr

namespace Expr

instance : Coe String Expr := ⟨fun s => token (.ofText s)⟩

def opt (e : Expr) : Expr := alt e empty

def many (e : Expr) : Expr := opt (many1 e)

def sequence : List Expr → Expr
  | [] => empty
  | [e] => e
  | e :: rest => seq e (sequence rest)

def oneOf : List Expr → Expr
  | [] => empty
  | [e] => e
  | e :: rest => alt e (oneOf rest)

def sepBy1 (separator e : Expr) : Expr := seq e (many (seq separator e))

def sepBy (separator e : Expr) : Expr := opt (sepBy1 separator e)

end Expr

inductive Level where
  | label (name : String)
  | rule (name : String)
  deriving DecidableEq, Inhabited, Repr

end Grammar

/-- The first rule is the start. Rules named with a leading underscore, and those in
`unseen`, leave no node of their own. The rules in `inlined` are replaced by their
bodies. -/
structure Grammar where
  rules : List (String × Grammar.Expr)
  blanks : Grammar.Shape
  extras : List Grammar.Expr
  unseen : List String
  inlined : List String
  levels : List (List Grammar.Level)
  word : String
  wordSets : List (List String)
  /-- Further tokens that the scanner's own rules look at. -/
  watched : List Grammar.Expr

end ScriptLint
