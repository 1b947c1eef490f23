import ScriptLint.Parse.Subtree

namespace ScriptLint.Parse

open ScriptLint.Grammar

/-! Tokens that are found by rules of their own: the semicolon that a line end stands for,
the parts of template strings, the question mark of a conditional, HTML-like comments, and
the text between JSX tags. A null character ends the text for all of them. -/

structure Allowed where
  semicolon : Bool
  template : Bool
  ternary : Bool
  htmlComment : Bool
  jsxText : Bool
  logicalOr : Bool
  escape : Bool
  pattern : Bool

structure Found where
  token : Scanned
  start : Nat
  stop : Nat

namespace Allowed

def any (a : Allowed) : Bool :=
  a.semicolon || a.template || a.ternary || a.htmlComment || a.jsxText || a.logicalOr
    || a.escape || a.pattern

def ofState (table : Table) (state : Nat) : Allowed :=
  let valid := (table.states.getD state default).valid
  let g := table.grammar
  let has (s : Scanned) : Bool := valid.contains (g.scannedSymbol s)
  let sees (i : Nat) : Bool := (g.watched[i]?.map valid.contains).getD false
  { semicolon := has .automaticSemicolon, template := has .templateChars,
    ternary := has .ternaryMark, htmlComment := has .htmlComment, jsxText := has .jsxText,
    logicalOr := sees 0, escape := sees 1, pattern := sees 2 }

end Allowed

namespace Input

/-- The character at a place; null at the end. -/
def peek (t : Input) (p : Nat) : Char := t.chars.getD p '\x00'

/-- The first place from `p` on, or the end, where `f` holds of the character. -/
def seek (t : Input) (f : Char → Bool) (p : Nat) : Nat :=
  if h : p < t.chars.size then
    if f t.chars[p] then p else t.seek f (p + 1)
  else p
termination_by t.chars.size - p

def continuesWith (t : Input) (p : Nat) : List Char → Bool
  | [] => true
  | c :: cs => t.peek p == c && t.continuesWith (p + 1) cs

end Input

def isBlank (c : Char) : Bool := c == ' ' || (9 ≤ c.toNat && c.toNat ≤ 13)

def isLineEnd (c : Char) : Bool := c == '\n' || c == '\u2028' || c == '\u2029'

def isNul (c : Char) : Bool := c == '\x00'

namespace Scanner

inductive Gap where
  /-- Before something that is no comment, or behind a comment that holds a line end. -/
  | passed
  | inLine
  | slash
  deriving DecidableEq

/-- The place behind the next end of a comment, whether there is one, and whether a line
has ended before it. -/
def closeComment (t : Input) (p : Nat) (lineEnded : Bool) : Nat × Bool × Bool :=
  if h : p < t.chars.size then
    let c := t.chars[p]
    if isNul c then (p, false, lineEnded)
    else if c == '*' then
      if t.peek (p + 1) == '/' then (p + 2, true, lineEnded)
      else closeComment t (p + 1) lineEnded
    else closeComment t (p + 1) (lineEnded || isLineEnd c)
  else (p, false, lineEnded)
termination_by t.chars.size - p

/-- Passes blanks and comments, all of them if `whole`; tells whether there was a
comment. -/
def passGap (t : Input) (whole : Bool) : Nat → Nat → Bool → Bool → Gap × Nat × Bool
  | 0, p, _, saw => (.passed, p, saw)
  | fuel + 1, p, lineEnded, saw =>
      let p := t.seek (!isBlank ·) p
      if t.peek p != '/' then (.passed, p, saw)
      else if t.peek (p + 1) == '/' then
        let p := t.seek (fun c => isNul c || isLineEnd c) (p + 2)
        passGap t whole fuel p lineEnded true
      else if t.peek (p + 1) == '*' then
        let (q, closed, lineEnded) := closeComment t (p + 2) lineEnded
        if closed && !whole && t.peek q != '/' then
          (if lineEnded then .passed else .inLine, q, true)
        else passGap t whole fuel q lineEnded (saw || closed)
      else (.slash, p + 1, saw)

def isLetter (c : Char) : Bool := c.isAlpha

/-- Whether a line end before `p` stands for a semicolon, judged by what is at `p`; with
the place up to which the text was looked at. -/
def endsStatement (t : Input) (p : Nat) : Bool × Nat :=
  let c := t.peek p
  if "\x60,:;*%><=[(?^|&/".toList.contains c then (false, p)
  else if c == '.' then ((t.peek (p + 1)).isDigit, p + 1)
  else if c == '+' then (t.peek (p + 1) == '+', p + 1)
  else if c == '-' then (t.peek (p + 1) == '-', p + 1)
  else if c == '!' then (t.peek (p + 1) != '=', p + 1)
  else if c == 'i' then
    if t.peek (p + 1) != 'n' then (true, p + 1)
    else if !isLetter (t.peek (p + 2)) then (false, p + 2)
    else if t.continuesWith (p + 2) "stanceof".toList && !isLetter (t.peek (p + 10)) then
      (false, p + 10)
    else (true, p + 2)
  else (true, p)

/-- Whether a semicolon is meant at `p`: before the end, a closing brace, or a line end
that no operator follows. Tells the place looked at and whether there was a comment. -/
def impliesSemicolon (t : Input) (afterComment : Bool) :
    Nat → Nat → Bool → Bool × Nat × Bool
  | 0, p, saw => (false, p, saw)
  | fuel + 1, p, saw =>
      if isNul (t.peek p) then (true, p, saw)
      else
        let (gap, q, saw) :=
          if t.peek p == '/' then passGap t false (t.size + 1) p false saw
          else (.inLine, p, saw)
        if gap == .slash then (false, q, saw)
        else if gap == .passed && afterComment && t.peek q != ',' && t.peek q != '=' then
          (true, q, saw)
        else
          let c := t.peek q
          if c == '}' then (true, q, saw)
          else if isLineEnd c then
            let (gap, r, saw) := passGap t true (t.size + 1) (q + 1) false saw
            if gap == .slash then (false, r, saw)
            else
              let (answer, s) := endsStatement t r
              (answer, s, saw)
          else if !isBlank c then (false, q, saw)
          else impliesSemicolon t afterComment fuel (q + 1) saw

/-- A question mark that is neither doubled nor part of an optional chain. -/
def ternaryMark? (t : Input) (p : Nat) : Option Found :=
  let q := t.seek (!isBlank ·) p
  if t.peek q != '?' || t.peek (q + 1) == '?' then none
  else if t.peek (q + 1) == '.' && !(t.peek (q + 2)).isDigit then none
  else some ⟨.ternaryMark, q, q + 1⟩

def templateEnd? (t : Input) : Nat → Nat → Option Nat
  | 0, _ => none
  | fuel + 1, p =>
      let q := t.seek (fun c => c == '\x60' || c == '$' || c == '\\' || isNul c) p
      if isNul (t.peek q) then none
      else if t.peek q == '$' && t.peek (q + 1) != '\x7b' then templateEnd? t fuel (q + 1)
      else some q

/-- The end of the text between tags, and whether it is more than blanks with a line
end. -/
def jsxTextEnd (t : Input) (p : Nat) (saw lineEnded : Bool) : Nat × Bool :=
  if h : p < t.chars.size then
    let c := t.chars[p]
    if isNul c || "<>\x7b\x7d&".toList.contains c then (p, saw)
    else if c == '\n' then jsxTextEnd t (p + 1) saw true
    else
      let lineEnded := lineEnded && isBlank c
      jsxTextEnd t (p + 1) (saw || !lineEnded) lineEnded
  else (p, saw)
termination_by t.chars.size - p

def htmlComment? (t : Input) (origin p : Nat) : Option Found :=
  let q := t.seek (fun c => !isBlank c && c != '\u2028' && c != '\u2029') p
  let opening := if t.peek q == '<' then "<!--" else "-->"
  if t.continuesWith q opening.toList then
    some ⟨.htmlComment, if p < q then q else origin,
      t.seek (fun c => isNul c || isLineEnd c) (q + opening.length)⟩
  else none

def scan? (t : Input) (allowed : Allowed) (p : Nat) : Option Found :=
  if allowed.template then
    if allowed.semicolon then none
    else (templateEnd? t (t.size + 1) p).bind fun q =>
      if p < q then some ⟨.templateChars, p, q⟩ else none
  else
    let (q, saw) := if allowed.jsxText then jsxTextEnd t p false false else (p, false)
    if saw then some ⟨.jsxText, p, q⟩
    else if allowed.semicolon then
      let (implied, r, sawComment) :=
        impliesSemicolon t (!allowed.logicalOr) (t.size + 1) q false
      if implied then some ⟨.automaticSemicolon, q, q⟩
      else if !sawComment && allowed.ternary && t.peek r == '?' then ternaryMark? t r
      else none
    else if allowed.ternary then ternaryMark? t q
    else if allowed.htmlComment && !allowed.logicalOr && !allowed.escape
        && !allowed.pattern then
      htmlComment? t p q
    else none

end Scanner

end ScriptLint.Parse
