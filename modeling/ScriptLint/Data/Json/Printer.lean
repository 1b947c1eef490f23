import ScriptLint.Data.Value

namespace ScriptLint.Data.Json

/-! Writing JSON, on one line or with one item or member on each line. -/

def hexDigit (n : Nat) : Char :=
  if n < 10 then Char.ofNat ('0'.toNat + n) else Char.ofNat ('a'.toNat + (n - 10))

def escape (c : Char) : List Char :=
  match c with
  | '"' => ['\\', '"']
  | '\\' => ['\\', '\\']
  | '\x08' => ['\\', 'b']
  | '\x0C' => ['\\', 'f']
  | '\n' => ['\\', 'n']
  | '\r' => ['\\', 'r']
  | '\t' => ['\\', 't']
  | c =>
      if c.toNat < 0x20 then
        ['\\', 'u', '0', '0', hexDigit (c.toNat / 16), hexDigit (c.toNat % 16)]
      else [c]

def quoted (s : String) : List Char := '"' :: s.toList.flatMap escape ++ ['"']

/-- Where lines are broken. -/
inductive Layout where
  | compact
  /-- With two blanks before what lies inside, for each level. -/
  | indented (level : Nat)
  deriving DecidableEq, Repr

namespace Layout

def inner : Layout → Layout
  | compact => compact
  | indented n => indented (n + 1)

def newline : Layout → List Char
  | compact => []
  | indented n => '\n' :: List.replicate (2 * n) ' '

def colon : Layout → List Char
  | compact => [':']
  | indented _ => [':', ' ']

end Layout

mutual

def print (layout : Layout) : Value → List Char
  | .null => ['n', 'u', 'l', 'l']
  | .bool true => ['t', 'r', 'u', 'e']
  | .bool false => ['f', 'a', 'l', 's', 'e']
  | .natural n => Nat.toDigits 10 n
  | .text s => quoted s
  | .list [] => ['[', ']']
  | .list (v :: vs) =>
      '[' :: (layout.inner.newline ++ print layout.inner v ++ printItems layout.inner vs)
        ++ layout.newline ++ [']']
  | .record [] => ['\x7b', '\x7d']
  | .record ((k, v) :: ms) =>
      '\x7b' :: (layout.inner.newline ++ quoted k ++ layout.colon ++ print layout.inner v
        ++ printMembers layout.inner ms) ++ layout.newline ++ ['\x7d']
  | .alien _ => ['n', 'u', 'l', 'l']

def printItems (layout : Layout) : List Value → List Char
  | [] => []
  | v :: vs => ',' :: (layout.newline ++ print layout v ++ printItems layout vs)

def printMembers (layout : Layout) : List (String × Value) → List Char
  | [] => []
  | (k, v) :: ms =>
      ',' :: (layout.newline ++ quoted k ++ layout.colon ++ print layout v
        ++ printMembers layout ms)

end

def toCompact (v : Value) : String := String.ofList (print .compact v)

def toPretty (v : Value) : String := String.ofList (print (.indented 0) v)

end ScriptLint.Data.Json
