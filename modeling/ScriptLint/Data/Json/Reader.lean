import ScriptLint.Data.Value
import ScriptLint.Text.Scalar

namespace ScriptLint.Data.Json

open ScriptLint.Text

/-! Reading JSON. -/

def isSpace (c : Char) : Bool := c == ' ' || c == '\t' || c == '\n' || c == '\r'

def skipSpace (cs : List Char) : List Char := cs.dropWhile isSpace

/-! ### Texts -/

def fourDigits? (a b c d : Char) : Option Nat := hexDigits? [a, b, c, d]

/-- What a letter behind a backslash stands for. -/
def escaped? : Char → Option Char
  | '"' => some '"'
  | '\\' => some '\\'
  | '/' => some '/'
  | 'b' => some '\x08'
  | 'f' => some '\x0C'
  | 'n' => some '\n'
  | 'r' => some '\r'
  | 't' => some '\t'
  | _ => none

/-- The numbers that a text gives up to its closing quote, and what lies behind the quote.
A number is that of a character or of half a character. -/
def readUnits : List Char → Option (List Nat × List Char)
  | [] => none
  | '"' :: rest => some ([], rest)
  | '\\' :: 'u' :: a :: b :: c :: d :: rest =>
      match fourDigits? a b c d, readUnits rest with
      | some n, some (units, rest) => some (n :: units, rest)
      | _, _ => none
  | '\\' :: e :: rest =>
      match escaped? e, readUnits rest with
      | some c, some (units, rest) => some (c.toNat :: units, rest)
      | _, _ => none
  | c :: rest =>
      if c == '\\' || c.toNat < 0x20 then none
      else (readUnits rest).map fun (units, rest) => (c.toNat :: units, rest)

def isFirstHalf (n : Nat) : Bool := 0xD800 ≤ n && n < 0xDC00

def isSecondHalf (n : Nat) : Bool := 0xDC00 ≤ n && n < 0xE000

def join (first second : Nat) : Nat :=
  0x10000 + (first - 0xD800) * 0x400 + (second - 0xDC00)

/-- The characters of a text; none if half a character stands alone. -/
def pairUp : List Nat → Option (List Char)
  | [] => some []
  | [n] => (charOf? n).map ([·])
  | m :: n :: rest =>
      if isFirstHalf m && isSecondHalf n then
        return (← charOf? (join m n)) :: (← pairUp rest)
      else
        return (← charOf? m) :: (← pairUp (n :: rest))

/-- A text behind its opening quote: none inside if it holds half a character. -/
def readText (cs : List Char) : Option (Option String × List Char) :=
  (readUnits cs).map fun (units, rest) => ((pairUp units).map String.ofList, rest)

/-! ### Numbers -/

def readDigits (cs : List Char) : Option (List Char × List Char) :=
  let digits := cs.takeWhile Char.isDigit
  if digits.isEmpty then none else some (digits, cs.drop digits.length)

def readFraction : List Char → Option (Bool × List Char)
  | '.' :: rest => (readDigits rest).map fun (_, rest) => (true, rest)
  | cs => some (false, cs)

def skipSign : List Char → List Char
  | '+' :: rest => rest
  | '-' :: rest => rest
  | cs => cs

def readExponent : List Char → Option (Bool × List Char)
  | 'e' :: rest => (readDigits (skipSign rest)).map fun (_, rest) => (true, rest)
  | 'E' :: rest => (readDigits (skipSign rest)).map fun (_, rest) => (true, rest)
  | cs => some (false, cs)

def naturalOf (digits : List Char) : Nat :=
  digits.foldl (fun n c => 10 * n + (c.toNat - '0'.toNat)) 0

/-- A number without its sign. No other digit may follow a first zero. -/
def readUnsigned (cs : List Char) : Option (Value × List Char) :=
  match readDigits cs with
  | none => none
  | some (digits, rest) =>
      if digits.head? = some '0' && digits.length ≠ 1 then none
      else
        match readFraction rest with
        | none => none
        | some (hasFraction, rest) =>
            match readExponent rest with
            | none => none
            | some (hasExponent, rest) =>
                if hasFraction || hasExponent then some (.alien .number, rest)
                else some (.natural (naturalOf digits), rest)

def readNumber : List Char → Option (Value × List Char)
  | '-' :: rest => (readUnsigned rest).map fun (_, rest) => (.alien .number, rest)
  | cs => readUnsigned cs

/-! ### Values -/

/-- A record; an alien if one of its keys holds half a character. -/
def recordOf (members : List (Option String × Value)) : Value :=
  match members.mapM fun (key, v) => key.map (·, v) with
  | some ms => .record ms
  | none => .alien .text

mutual

/-- A value and what lies behind it. `fuel` bounds how much is read, and the length of the
text is always enough. -/
def readValue : Nat → List Char → Option (Value × List Char)
  | 0, _ => none
  | fuel + 1, cs =>
      match skipSpace cs with
      | 'n' :: 'u' :: 'l' :: 'l' :: rest => some (.null, rest)
      | 't' :: 'r' :: 'u' :: 'e' :: rest => some (.bool true, rest)
      | 'f' :: 'a' :: 'l' :: 's' :: 'e' :: rest => some (.bool false, rest)
      | '"' :: rest =>
          (readText rest).map fun (s, rest) => ((s.map .text).getD (.alien .text), rest)
      | '[' :: rest =>
          match skipSpace rest with
          | ']' :: rest => some (.list [], rest)
          | rest => (readItems fuel rest).map fun (vs, rest) => (.list vs, rest)
      | '\x7b' :: rest =>
          match skipSpace rest with
          | '\x7d' :: rest => some (.record [], rest)
          | rest => (readMembers fuel rest).map fun (ms, rest) => (recordOf ms, rest)
      | cs => readNumber cs

def readItems : Nat → List Char → Option (List Value × List Char)
  | 0, _ => none
  | fuel + 1, cs =>
      match readValue fuel cs with
      | none => none
      | some (v, rest) =>
          match skipSpace rest with
          | ',' :: rest => (readItems fuel rest).map fun (vs, rest) => (v :: vs, rest)
          | ']' :: rest => some ([v], rest)
          | _ => none

def readMembers : Nat → List Char → Option (List (Option String × Value) × List Char)
  | 0, _ => none
  | fuel + 1, cs =>
      match skipSpace cs with
      | '"' :: rest =>
          match readText rest with
          | none => none
          | some (key, rest) =>
              match skipSpace rest with
              | ':' :: rest =>
                  match readValue fuel rest with
                  | none => none
                  | some (v, rest) =>
                      match skipSpace rest with
                      | ',' :: rest =>
                          (readMembers fuel rest).map fun (ms, rest) =>
                            ((key, v) :: ms, rest)
                      | '\x7d' :: rest => some ([(key, v)], rest)
                      | _ => none
              | _ => none
      | _ => none

end

def ofText? (cs : List Char) : Option Value :=
  match readValue (2 * cs.length + 2) cs with
  | some (v, rest) => if (skipSpace rest).isEmpty then some v else none
  | none => none

end ScriptLint.Data.Json
