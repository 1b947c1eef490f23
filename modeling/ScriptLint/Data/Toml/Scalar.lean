import ScriptLint.Data.Value
import ScriptLint.Text.Scalar

namespace ScriptLint.Data.Toml

open ScriptLint.Text

/-! Reading the simple values of TOML: texts, numbers and points in time. Each reader
returns what lies behind the value, or none if the front of the text is not of its form. -/

def isSpace (c : Char) : Bool := c == ' ' || c == '\t'

def skipSpace (cs : List Char) : List Char := cs.dropWhile isSpace

def newline? : List Char → Option (List Char)
  | '\n' :: rest => some rest
  | '\r' :: '\n' :: rest => some rest
  | _ => none

/-- Characters that may stand in comments, and in texts on one line. -/
def isPlain (c : Char) : Bool := c == '\t' || (0x20 ≤ c.toNat && c.toNat != 0x7F)

/-! ### Texts -/

def readEscape : List Char → Option (Char × List Char)
  | 'b' :: rest => some ('\x08', rest)
  | 't' :: rest => some ('\t', rest)
  | 'n' :: rest => some ('\n', rest)
  | 'f' :: rest => some ('\x0C', rest)
  | 'r' :: rest => some ('\r', rest)
  | '"' :: rest => some ('"', rest)
  | '\\' :: rest => some ('\\', rest)
  | 'u' :: rest => digits 4 rest
  | 'U' :: rest => digits 8 rest
  | _ => none
where
  digits (n : Nat) (cs : List Char) : Option (Char × List Char) :=
    if cs.length < n then none
    else ((hexDigits? (cs.take n)).bind charOf?).map (·, cs.drop n)

/-- The text up to the closing quote on the same line. -/
def readBasic : Nat → List Char → Option (List Char × List Char)
  | 0, _ => none
  | fuel + 1, cs =>
      match cs with
      | '"' :: rest => some ([], rest)
      | '\\' :: rest =>
          match readEscape rest with
          | some (c, rest) => (readBasic fuel rest).map fun (s, rest) => (c :: s, rest)
          | none => none
      | c :: rest =>
          if isPlain c then (readBasic fuel rest).map fun (s, rest) => (c :: s, rest)
          else none
      | [] => none

/-- The text up to the closing quote on the same line, without escapes. -/
def readLiteral : List Char → Option (List Char × List Char)
  | [] => none
  | '\'' :: rest => some ([], rest)
  | c :: rest =>
      if isPlain c then (readLiteral rest).map fun (s, rest) => (c :: s, rest) else none

/-- What a run of quotes means inside a text on several lines: three of them close it, and
up to two before these belong to it. Gives how many belong to the text, and the rest if it
is closed. -/
def closing (quote : Char) (cs : List Char) : Nat × Option (List Char) :=
  let count := (cs.takeWhile (· == quote)).length
  if count < 3 then (count, none)
  else
    let inside := min (count - 3) 2
    (inside, some (cs.drop (inside + 3)))

def skipBlankLines : Nat → List Char → List Char
  | 0, cs => cs
  | fuel + 1, cs =>
      match newline? (skipSpace cs) with
      | some rest => skipBlankLines fuel rest
      | none => skipSpace cs

/-- The text up to three closing quotes. A backslash at the end of a line joins it with the
next line that is not blank. -/
def readLongBasic : Nat → List Char → Option (List Char × List Char)
  | 0, _ => none
  | fuel + 1, cs =>
      match cs with
      | '"' :: _ =>
          match closing '"' cs with
          | (inside, some rest) => some (List.replicate inside '"', rest)
          | (inside, none) =>
              (readLongBasic fuel (cs.drop inside)).map fun (s, rest) =>
                (List.replicate inside '"' ++ s, rest)
      | '\\' :: rest =>
          match newline? (skipSpace rest) with
          | some rest => readLongBasic fuel (skipBlankLines rest.length rest)
          | none =>
              match readEscape rest with
              | some (c, rest) =>
                  (readLongBasic fuel rest).map fun (s, rest) => (c :: s, rest)
              | none => none
      | c :: rest =>
          match newline? cs with
          | some rest => (readLongBasic fuel rest).map fun (s, rest) => ('\n' :: s, rest)
          | none =>
              if isPlain c then
                (readLongBasic fuel rest).map fun (s, rest) => (c :: s, rest)
              else none
      | [] => none

def readLongLiteral : Nat → List Char → Option (List Char × List Char)
  | 0, _ => none
  | fuel + 1, cs =>
      match cs with
      | '\'' :: _ =>
          match closing '\'' cs with
          | (inside, some rest) => some (List.replicate inside '\'', rest)
          | (inside, none) =>
              (readLongLiteral fuel (cs.drop inside)).map fun (s, rest) =>
                (List.replicate inside '\'' ++ s, rest)
      | c :: rest =>
          match newline? cs with
          | some rest => (readLongLiteral fuel rest).map fun (s, rest) => ('\n' :: s, rest)
          | none =>
              if isPlain c then
                (readLongLiteral fuel rest).map fun (s, rest) => (c :: s, rest)
              else none
      | [] => none

def dropNewline (cs : List Char) : List Char := (newline? cs).getD cs

def readText (cs : List Char) : Option (List Char × List Char) :=
  match cs with
  | '"' :: '"' :: '"' :: rest => readLongBasic (rest.length + 1) (dropNewline rest)
  | '"' :: rest => readBasic (rest.length + 1) rest
  | '\'' :: '\'' :: '\'' :: rest => readLongLiteral (rest.length + 1) (dropNewline rest)
  | '\'' :: rest => readLiteral rest
  | _ => none

/-! ### Numbers -/

/-- Digits, with low lines between them. -/
def readDigits (isDigit : Char → Bool) : List Char → Option (List Char × List Char)
  | [] => none
  | c :: cs => if isDigit c then go [c] cs else none
where
  go (digits : List Char) : List Char → Option (List Char × List Char)
    | [] => some (digits.reverse, [])
    | '_' :: c :: cs => if isDigit c then go (c :: digits) cs else none
    | c :: cs =>
        if isDigit c then go (c :: digits) cs
        else if c == '_' then none
        else some (digits.reverse, c :: cs)

def numberOf (base : Nat) (digits : List Char) : Nat :=
  digits.foldl (fun n c => base * n + (hexValue? c).getD 0) 0

/-- Decimal digits of which the first is zero only if it is the only one. -/
def readDecimal : List Char → Option (List Char × List Char)
  | '0' :: rest => some (['0'], rest)
  | cs => readDigits Char.isDigit cs

def maxInteger : Nat := (1 <<< 63) - 1

def integer (negative : Bool) (n : Nat) : Option Value :=
  if negative then
    if n = 0 then some (.natural 0)
    else if n ≤ maxInteger + 1 then some (.alien .number)
    else none
  else if n ≤ maxInteger then some (.natural n) else none

/-- Whether a number is too large for a float of 64 bits: half a step above the greatest of
them, or more. The digits stand for an integer that is multiplied by a power of ten. -/
def overflows (digits : List Char) (exponent : Int) : Bool :=
  let m := numberOf 10 digits
  let limit := (1 <<< 1024) - (1 <<< 970)
  if m = 0 then false
  else if exponent < 0 then
    let places := (-exponent).toNat
    if digits.length ≤ places then false else limit * Nat.pow 10 places ≤ m
  else if 400 < exponent then true
  else limit ≤ m * Nat.pow 10 exponent.toNat

def readExponent (cs : List Char) : Option (Option Int × List Char) :=
  match cs with
  | 'e' :: rest => signed rest
  | 'E' :: rest => signed rest
  | cs => some (none, cs)
where
  unsigned (negative : Bool) (cs : List Char) : Option (Option Int × List Char) :=
    (readDigits Char.isDigit cs).map fun (digits, rest) =>
      let n : Int := numberOf 10 digits
      (some (if negative then -n else n), rest)
  signed : List Char → Option (Option Int × List Char)
    | '+' :: rest => unsigned false rest
    | '-' :: rest => unsigned true rest
    | cs => unsigned false cs

def readFraction : List Char → Option (Option (List Char) × List Char)
  | '.' :: rest =>
      (readDigits Char.isDigit rest).map fun (digits, rest) => (some digits, rest)
  | cs => some (none, cs)

def readUnsigned (negative : Bool) (cs : List Char) : Option (Value × List Char) :=
  match cs with
  | 'i' :: 'n' :: 'f' :: rest => some (.alien .number, rest)
  | 'n' :: 'a' :: 'n' :: rest => some (.alien .number, rest)
  | cs =>
      match readDecimal cs with
      | none => none
      | some (whole, rest) =>
          match readFraction rest with
          | none => none
          | some (fraction, rest) =>
              match readExponent rest with
              | none => none
              | some (exponent, rest) =>
                  if fraction.isNone && exponent.isNone then
                    (integer negative (numberOf 10 whole)).map (·, rest)
                  else
                    let places := fraction.getD []
                    let scale := exponent.getD 0 - places.length
                    if !negative && overflows (whole ++ places) scale then none
                    else some (.alien .number, rest)

def readBase (base : Nat) (cs : List Char) : Option (Value × List Char) :=
  let isDigit (c : Char) : Bool := (hexValue? c).any (· < base)
  match readDigits isDigit cs with
  | some (digits, rest) => (integer false (numberOf base digits)).map (·, rest)
  | none => none

def readNumber : List Char → Option (Value × List Char)
  | '0' :: 'x' :: rest => readBase 16 rest
  | '0' :: 'o' :: rest => readBase 8 rest
  | '0' :: 'b' :: rest => readBase 2 rest
  | '+' :: rest => readUnsigned false rest
  | '-' :: rest => readUnsigned true rest
  | cs => readUnsigned false cs

/-! ### Points in time -/

/-- A number of `count` digits between two bounds. -/
def readPart (count least most : Nat) (cs : List Char) : Option (Nat × List Char) :=
  let digits := cs.take count
  let n := numberOf 10 digits
  if digits.length = count && digits.all Char.isDigit && least ≤ n && n ≤ most then
    some (n, cs.drop count)
  else none

def expect (c : Char) : List Char → Option (List Char)
  | d :: rest => if c = d then some rest else none
  | [] => none

def daysIn (year month : Nat) : Nat :=
  if month = 2 then
    if year % 4 = 0 && (year % 100 ≠ 0 || year % 400 = 0) then 29 else 28
  else if month = 4 || month = 6 || month = 9 || month = 11 then 30
  else 31

def readHour (cs : List Char) : Option (List Char) :=
  (readPart 2 0 23 cs).bind fun (_, rest) => expect ':' rest

def readMinutes (cs : List Char) : Option (List Char) := do
  let (_, rest) ← readPart 2 0 59 cs
  let rest ← expect ':' rest
  let (_, rest) ← readPart 2 0 60 rest
  match rest with
  | '.' :: c :: more =>
      if c.isDigit then return more.dropWhile Char.isDigit else return rest
  | _ => return rest

def readOffset (cs : List Char) : Option (List Char) :=
  match cs with
  | 'Z' :: rest => some rest
  | 'z' :: rest => some rest
  | c :: rest =>
      if c == '+' || c == '-' then do
        let rest ← readHour rest
        let (_, rest) ← readPart 2 0 59 rest
        return rest
      else some cs
  | [] => some []

def isDate (cs : List Char) : Bool :=
  (cs.take 4).length == 4 && (cs.take 4).all Char.isDigit && cs[4]? == some '-'

def readDate (cs : List Char) : Option (List Char) := do
  let (year, rest) ← readPart 4 0 9999 cs
  let rest ← expect '-' rest
  let (month, rest) ← readPart 2 1 12 rest
  let rest ← expect '-' rest
  let (day, rest) ← readPart 2 1 31 rest
  if daysIn year month < day then none
  match rest with
  | c :: more =>
      if c == 'T' || c == 't' || c == ' ' then
        match readHour more with
        | some more => readMinutes more >>= readOffset
        | none => return rest
      else return rest
  | [] => return rest

def readNumberOrMoment (cs : List Char) : Option (Value × List Char) :=
  if isDate cs then (readDate cs).map (.alien .moment, ·)
  else
    match readHour cs with
    | some rest => (readMinutes rest).map (.alien .moment, ·)
    | none => readNumber cs

end ScriptLint.Data.Toml
