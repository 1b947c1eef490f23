import ScriptLint.Pattern.Basic
import ScriptLint.Text.Blank
import ScriptLint.Text.Fold
import ScriptLint.Text.Property
import ScriptLint.Text.Scalar
import ScriptLint.Text.Word

namespace ScriptLint.Pattern

open ScriptLint.Text

/-! Reading patterns from text. A text that breaks a rule of the notation is no pattern,
nor is one that is nested too deeply or would grow too large when its repetitions are
written out. -/

structure Flags where
  ignoreCase : Bool
  multiLine : Bool
  dotAll : Bool
  unicode : Bool
  carriageReturn : Bool
  /-- Blanks in the pattern, and comments behind a number sign, stand for nothing. -/
  spaced : Bool
  deriving DecidableEq, Repr

namespace Flags

def initial : Flags := ⟨false, false, false, true, false, false⟩

/-- The letter `U` exchanges eager and lazy repetition, which no match depends on. -/
def put? (f : Flags) (letter : Char) (on : Bool) : Option Flags :=
  match letter with
  | 'i' => some { f with ignoreCase := on }
  | 'm' => some { f with multiLine := on }
  | 's' => some { f with dotAll := on }
  | 'u' => some { f with unicode := on }
  | 'R' => some { f with carriageReturn := on }
  | 'x' => some { f with spaced := on }
  | 'U' => some f
  | _ => none

def fold (f : Flags) (s : CharSet) : CharSet :=
  if f.ignoreCase then (if f.unicode then s.foldCase else s.foldASCII) else s

/-- The set or its complement, other forms of its letters included first. Only Unicode
patterns have complements: others would match parts of characters. -/
def close? (f : Flags) (negated : Bool) (s : CharSet) : Option CharSet :=
  if negated then (if f.unicode then some (f.fold s).complement else none)
  else some (f.fold s)

def lineStart (f : Flags) : Look :=
  if f.multiLine then (if f.carriageReturn then .lineStartCR else .lineStart)
  else .textStart

def lineEnd (f : Flags) : Look :=
  if f.multiLine then (if f.carriageReturn then .lineEndCR else .lineEnd) else .textEnd

def dot? (f : Flags) : Option CharSet :=
  if !f.unicode then none
  else if f.dotAll then some .all
  else if f.carriageReturn then
    some ((CharSet.single '\n').union (.single '\r')).complement
  else some (CharSet.single '\n').complement

end Flags

/-! ### Sets with names -/

def asciiSets : List (String × CharSet) := [
  ("alnum", ⟨[(0x30, 0x39), (0x41, 0x5A), (0x61, 0x7A)]⟩),
  ("alpha", ⟨[(0x41, 0x5A), (0x61, 0x7A)]⟩),
  ("ascii", ⟨[(0x00, 0x7F)]⟩),
  ("blank", ⟨[(0x09, 0x09), (0x20, 0x20)]⟩),
  ("cntrl", ⟨[(0x00, 0x1F), (0x7F, 0x7F)]⟩),
  ("digit", ⟨[(0x30, 0x39)]⟩),
  ("graph", ⟨[(0x21, 0x7E)]⟩),
  ("lower", ⟨[(0x61, 0x7A)]⟩),
  ("print", ⟨[(0x20, 0x7E)]⟩),
  ("punct", ⟨[(0x21, 0x2F), (0x3A, 0x40), (0x5B, 0x60), (0x7B, 0x7E)]⟩),
  ("space", ⟨[(0x09, 0x0D), (0x20, 0x20)]⟩),
  ("upper", ⟨[(0x41, 0x5A)]⟩),
  ("word", asciiWordSet),
  ("xdigit", ⟨[(0x30, 0x39), (0x41, 0x46), (0x61, 0x66)]⟩)]

def blankSet : CharSet :=
  ⟨[(0x09, 0x0D), (0x20, 0x20), (0x85, 0x85), (0xA0, 0xA0), (0x1680, 0x1680),
    (0x2000, 0x200A), (0x2028, 0x2029), (0x202F, 0x202F), (0x205F, 0x205F),
    (0x3000, 0x3000)]⟩

def letterSet (f : Flags) (letter : Char) : CharSet :=
  match letter with
  | 'd' => if f.unicode then digitSet else ⟨[(0x30, 0x39)]⟩
  | 's' => if f.unicode then blankSet else ⟨[(0x09, 0x0D), (0x20, 0x20)]⟩
  | _ => if f.unicode then wordSet else asciiWordSet

/-! ### Reading from the front of a text -/

structure Rest where
  text : List Char
  flags : Flags
  names : List String

abbrev Read := StateT Rest Option

namespace Read

def dropBlanks (comment : Bool) : List Char → List Char
  | [] => []
  | c :: cs =>
      if comment then dropBlanks (c != '\n') cs
      else if isBlank c then dropBlanks false cs
      else if c = '#' then dropBlanks true cs
      else c :: cs

def flags : Read Flags := return (← get).flags

def peek? : Read (Option Char) := return (← get).text.head?

def peekSecond? : Read (Option Char) := return (← get).text[1]?

def skip : Read Unit := modify fun r => { r with text := r.text.drop 1 }

def skipBlanks : Read Unit :=
  modify fun r => if r.flags.spaced then { r with text := dropBlanks false r.text } else r

def next : Read Unit := do skip; skipBlanks

def peek : Read Char := do
  match ← peek? with
  | some c => return c
  | none => failure

def expect (c : Char) : Read Unit := do
  if (← peek) = c then next else failure

def accept (expected : List Char) : Read Bool := do
  let r ← get
  match expected.isPrefixOf? r.text with
  | some rest =>
      set { r with text := rest }
      return true
  | none => return false

def takeWhile (p : Char → Bool) : Read (List Char) := do
  go (← get).text.length
where
  go : Nat → Read (List Char)
    | 0 => return []
    | fuel + 1 => do
        match ← peek? with
        | some c =>
            if p c then
              next
              return c :: (← go fuel)
            else return []
        | none => return []

def ofOption {α : Type} : Option α → Read α
  | some a => return a
  | none => failure

end Read

open Read

/-! ### Parts of a pattern -/

/-- A part of a pattern with what bounds are set to: how deep it is nested, and how much
room it takes with its repetitions written out. -/
structure Piece where
  pattern : Pattern
  depth : Nat
  weight : Nat
  silent : Bool
  /-- It is something that can be repeated. -/
  solid : Bool

namespace Piece

def unit : Nat := 32

def ofEmpty : Piece := ⟨.empty, 0, unit, true, true⟩

def ofFlags : Piece := { ofEmpty with solid := false }

def ofLook (l : Look) : Piece := ⟨.look l, 0, unit, true, true⟩

/-- The room of a set; beyond ASCII it takes steps for the bytes of its characters. -/
def setWeight (s : CharSet) : Nat :=
  match s.ranges with
  | [(lo, hi)] =>
      if lo = hi then unit * (Char.ofNat lo).utf8Size
      else if hi < 128 then unit else 12 * unit
  | rs => if s.isBelow 127 then unit + 8 * rs.length else 12 * unit + 56 * rs.length

def ofSet (depth : Nat) (s : CharSet) : Piece :=
  ⟨.chars s, depth, setWeight s, false, true⟩

def maxDepth (ps : List Piece) : Nat := ps.foldl (fun d p => max d p.depth) 0

def weights : List Piece → Nat
  | [] => 0
  | p :: ps => p.weight + weights ps

def concat : List Piece → Piece
  | [] => ofEmpty
  | [p] => p
  | p :: ps =>
      ⟨ps.foldl (fun a b => .seq a b.pattern) p.pattern, maxDepth (p :: ps) + 1,
        weights (p :: ps), (p :: ps).all silent, true⟩

def alternate : List Piece → Piece
  | [] => ofEmpty
  | [p] => p
  | p :: ps =>
      ⟨ps.foldl (fun a b => .alt a b.pattern) p.pattern, maxDepth (p :: ps) + 1,
        weights (p :: ps) + unit, (p :: ps).all silent, true⟩

def group (capture : Bool) (p : Piece) : Piece :=
  { p with
    depth := p.depth + 1
    weight := p.weight + (if capture then 2 * unit else 0)
    solid := true }

/-- Repeating what reads nothing changes nothing after the first time. -/
def times (least : Nat) (most : Option Nat) (p : Piece) : Piece :=
  let low := if p.silent then min least 1 else least
  let high := if p.silent then some (min (most.getD 1) 1) else most
  { pattern := .times least most p.pattern
    depth := p.depth + 1
    weight := match high with
      | some h => low * p.weight + (h - low) * (p.weight + unit + 8) + unit
      | none => max low 1 * p.weight + unit + 8
    silent := p.silent || most == some 0
    solid := true }

end Piece

/-! ### Escapes -/

def isMark (c : Char) : Bool :=
  ['\\', '.', '+', '*', '?', '(', ')', '|', '[', ']', '\x7b', '\x7d', '^', '$', '#', '&',
    '-', '~']
    |>.contains c

/-- Characters that stand for themselves behind a backslash: those of ASCII but letters,
digits and the angle brackets. -/
def standsForItself (c : Char) : Bool :=
  isMark c || (c.toNat < 128 && !c.isAlphanum && c != '<' && c != '>')

inductive Escape where
  | char (c : Char)
  | set (s : CharSet)
  | look (l : Look)

/-- The character whose number the digits give, between braces or `count` of them. -/
def readHex (count : Nat) : Read Char := do
  let digits ←
    if (← peek) = '\x7b' then
      next
      let digits ← takeWhile (· ≠ '\x7d')
      expect '\x7d'
      if digits.isEmpty then failure else pure digits
    else fixed count
  ofOption ((hexDigits? digits).bind charOf?)
where
  fixed : Nat → Read (List Char)
    | 0 => return []
    | n + 1 => do
        let c ← peek
        next
        return c :: (← fixed n)

def splitAt? (part : List Char) : List Char → Option (List Char × List Char)
  | [] => none
  | c :: cs =>
      match part.isPrefixOf? (c :: cs) with
      | some rest => some ([], rest)
      | none => (splitAt? part cs).map fun (before, after) => (c :: before, after)

def propertyQuery (text : List Char) : Property.Query :=
  match splitAt? ['!', '='] text <|> splitAt? [':'] text <|> splitAt? ['='] text with
  | some (p, v) => .value (String.ofList p) (String.ofList v)
  | none => .name (String.ofList text)

def readProperty (negated : Bool) : Read CharSet := do
  let query ←
    if (← peek) = '\x7b' then
      next
      let text ← takeWhile (· ≠ '\x7d')
      if (← peek) = '\x7d' then skip else failure
      pure (propertyQuery text)
    else
      let c ← peek
      if c = '\\' then failure
      next
      pure (.name (String.singleton c))
  let f ← flags
  if !f.unicode then failure
  ofOption ((query.chars?).bind (f.close? negated))

/-- The kind of word boundary named between braces; none if a repetition may follow
instead. -/
def readBoundary (f : Flags) : Read (Option Look) := do
  if (← peek?) ≠ some '\x7b' then return none
  let start ← get
  next
  if !isNameChar (← peek) then
    set start
    return none
  let name ← takeWhile isNameChar
  if (← peek) = '\x7d' then skip else failure
  match String.ofList name with
  | "start" => return some (.wordStart f.unicode)
  | "end" => return some (.wordEnd f.unicode)
  | "start-half" => return some (.wordStartHalf f.unicode)
  | "end-half" => return some (.wordEndHalf f.unicode)
  | _ => failure
where
  isNameChar (c : Char) : Bool := c.isAlpha || c == '-'

def readEscape : Read Escape := do
  skip
  let c ← peek
  let f ← flags
  match c with
  | 'x' | 'u' | 'U' =>
      next
      let fixed := c == 'x' && (← peek) != '\x7b'
      let char ← readHex (if c = 'x' then 2 else if c = 'u' then 4 else 8)
      if fixed && !f.unicode && char.toNat > 127 then failure
      return .char char
  | 'p' | 'P' =>
      next
      return .set (← readProperty (c == 'P'))
  | 'd' | 's' | 'w' =>
      skip
      return .set (letterSet f c)
  | 'D' | 'S' | 'W' =>
      skip
      if f.unicode then return .set (letterSet f c.toLower).complement else failure
  | _ =>
      skip
      if standsForItself c then return .char c
      match c with
      | 'a' => return .char '\x07'
      | 'f' => return .char '\x0C'
      | 't' => return .char '\t'
      | 'n' => return .char '\n'
      | 'r' => return .char '\r'
      | 'v' => return .char '\x0B'
      | 'A' => return .look .textStart
      | 'z' => return .look .textEnd
      | 'b' => return .look ((← readBoundary f).getD (.wordBoundary f.unicode))
      | 'B' => return .look (.notWordBoundary f.unicode)
      | '<' => return .look (.wordStart f.unicode)
      | '>' => return .look (.wordEnd f.unicode)
      | _ => failure

/-! ### Sets between brackets -/

structure Members where
  set : CharSet
  count : Nat
  depth : Nat

namespace Members

def none : Members := ⟨.empty, 0, 0⟩

def add (m : Members) (depth : Nat) (s : CharSet) : Members :=
  ⟨m.set.union s, m.count + 1, max m.depth depth⟩

def level (m : Members) : Nat := if m.count ≤ 1 then m.depth else m.depth + 1

end Members

inductive SetOperation where
  | inter
  | diff
  | symmDiff

def SetOperation.apply : SetOperation → CharSet → CharSet → CharSet
  | inter, s, t => s.inter t
  | diff, s, t => s.diff t
  | symmDiff, s, t => s.symmDiff t

def joinSets (f : Flags) (before : Option (SetOperation × CharSet × Nat)) (m : Members) :
    CharSet × Nat :=
  match before with
  | some (op, s, depth) => (op.apply (f.fold s) (f.fold m.set), max depth m.level + 1)
  | none => (m.set, m.level)

/-- A set of ASCII characters by name, such as `[:alpha:]`; none if the text is not of this
form. -/
def readNamedSet : Read (Option CharSet) := do
  let start ← get
  let rest := start.text.drop 1
  match rest with
  | ':' :: rest =>
      let (negated, rest) := match rest with
        | '^' :: rest => (true, rest)
        | _ => (false, rest)
      let name := rest.takeWhile (· ≠ ':')
      match rest.drop name.length, asciiSets.lookup (String.ofList name) with
      | ':' :: ']' :: rest, some s =>
          set { start with text := rest }
          return some (← ofOption (start.flags.close? negated s))
      | _, _ => return none
  | _ => return none

def readMember : Read (Char ⊕ CharSet) := do
  let f ← flags
  let c ← peek
  let literal (c : Char) : Read (Char ⊕ CharSet) :=
    if f.unicode || c.toNat < 128 then return .inl c else failure
  if c = '\\' then
    match ← readEscape with
    | .char c => literal c
    | .set s => return .inr s
    | .look _ => failure
  else
    skip
    literal c

def peekBehind? : Read (Option Char) := do
  let r ← get
  let behind := r.text.drop 1
  return (if r.flags.spaced then dropBlanks false behind else behind).head?

def readRange : Read CharSet := do
  let first ← readMember
  skipBlanks
  let behind ← peekBehind?
  if (← peek) ≠ '-' || behind = some ']' || behind = some '-' then
    match first with
    | .inl c => return .single c
    | .inr s => return s
  else
    next
    match first, ← readMember with
    | .inl lo, .inl hi => if lo ≤ hi then return .range lo.toNat hi.toNat else failure
    | _, _ => failure

/-- The opening bracket, with what stands for itself only there. -/
def openSet : Read (Bool × Members) := do
  next
  let negated := (← peek) = '^'
  if negated then next
  let m ← hyphens Members.none (← get).text.length
  if m.count = 0 && (← peek) = ']' then
    next
    discard peek
    return (negated, m.add 0 (.single ']'))
  else return (negated, m)
where
  hyphens (m : Members) : Nat → Read Members
    | 0 => return m
    | fuel + 1 => do
        if (← peek) = '-' then
          next
          hyphens (m.add 0 (.single '-')) fuel
        else return m

/-- The rest of a set, its closing bracket included, and how deep it is nested. -/
def readSet (before : Option (SetOperation × CharSet × Nat)) (m : Members) :
    Nat → Read (CharSet × Nat)
  | 0 => failure
  | fuel + 1 => do
      skipBlanks
      let f ← flags
      let operation (op : SetOperation) : Read (CharSet × Nat) := do
        skip
        skip
        readSet (some (op, joinSets f before m)) .none fuel
      match ← peek, ← peekSecond? with
      | '[', _ =>
          match ← readNamedSet with
          | some s => readSet before (m.add 0 s) fuel
          | none =>
              let (negated, inner) ← openSet
              let (s, depth) ← readSet none inner fuel
              readSet before (m.add (depth + 1) (← ofOption (f.close? negated s))) fuel
      | ']', _ =>
          skip
          return joinSets f before m
      | '&', some '&' => operation .inter
      | '-', some '-' => operation .diff
      | '~', some '~' => operation .symmDiff
      | _, _ => readSet before (m.add 0 (← readRange)) fuel

def readBrackets : Read Piece := do
  let f ← flags
  let (negated, m) ← openSet
  let (s, depth) ← readSet none m ((← get).text.length + 1)
  return .ofSet (depth + 1) (← ofOption (f.close? negated s))

/-! ### Repetition -/

def readDecimal : Read Nat := do
  modify fun r => { r with text := r.text.dropWhile isBlank }
  let digits ← takeWhile Char.isDigit
  discard (takeWhile isBlank)
  if digits.isEmpty then failure
  let n := digits.foldl (fun n c => 10 * n + (c.toNat - '0'.toNat)) 0
  if n < 1 <<< 32 then return n else failure

/-- A lazy repetition matches where an eager one does. -/
def skipLazy : Read Unit := do
  if (← peek?) = some '?' then skip

def readCount : Read (Nat × Option Nat) := do
  next
  let least ← readDecimal
  let most ←
    if (← peek) = ',' then
      next
      if (← peek) = '\x7d' then pure none else pure (some (← readDecimal))
    else pure (some least)
  expect '\x7d'
  match most with
  | some m => if m < least then failure
  | none => pure ()
  return (least, most)

def repeatLast (least : Nat) (most : Option Nat) (items : List Piece) :
    Read (List Piece) := do
  match items.getLast? with
  | some p => if p.solid then return items.dropLast ++ [p.times least most] else failure
  | none => failure

/-! ### Groups -/

inductive Opening where
  | setFlags (f : Flags)
  | group (capture : Bool) (f : Flags)

def isNameChar (first : Bool) (c : Char) : Bool :=
  let among (property : String) :=
    (((Property.Query.name property).chars?).getD .empty).contains c
  c == '_' || c.isAlpha
    || (!first && (c.isDigit || c == '.' || c == '[' || c == ']'))
    || (c.toNat > 127 && (among "alphabetic" || (!first && among "number")))

def readName : Read Unit := do
  let r ← get
  let name := r.text.takeWhile (· ≠ '>')
  let legal := match name with
    | [] => false
    | c :: cs => isNameChar true c && cs.all (isNameChar false)
  match r.text.drop name.length with
  | [] => failure
  | _ :: rest =>
      let name := String.ofList name
      if legal && !r.names.contains name then
        set { r with text := rest, names := name :: r.names }
      else failure

/-- The flags up to a colon or a closing parenthesis, which of these it is, and the text
behind. `seen` holds the letters so far, and the hyphen behind which flags are taken
away. -/
def readFlags (f : Flags) (seen : List Char) :
    List Char → Option (Flags × List Char × Char × List Char)
  | [] => none
  | c :: cs =>
      if c = ':' || c = ')' then
        if seen.head? = some '-' then none else some (f, seen, c, cs)
      else if seen.contains c then none
      else if c = '-' then readFlags f ('-' :: seen) cs
      else (f.put? c (!seen.contains '-')).bind fun f => readFlags f (c :: seen) cs

def readOpening : Read Opening := do
  skip
  skipBlanks
  let f ← flags
  if (← accept ['?', 'P', '<']) || (← accept ['?', '<']) then
    readName
    return .group true f
  else if ← accept ['?'] then
    let r ← get
    let (f, seen, stop, rest) ← ofOption (readFlags f [] r.text)
    set { r with text := rest }
    if stop = ')' then
      if seen.isEmpty then failure else return .setFlags f
    else return .group false f
  else return .group true f

/-! ### Patterns -/

def ofChar (f : Flags) (c : Char) : Piece := .ofSet 0 (f.fold (.single c))

def readSimple : Read Piece := do
  let f ← flags
  match ← peek with
  | '[' => readBrackets
  | '\\' =>
      match ← readEscape with
      | .char c => return ofChar f c
      | .set s => return .ofSet 0 s
      | .look l => return .ofLook l
  | '.' =>
      skip
      return .ofSet 0 (← ofOption f.dot?)
  | '^' =>
      skip
      return .ofLook f.lineStart
  | '$' =>
      skip
      return .ofLook f.lineEnd
  | c =>
      skip
      return ofChar f c

/-- The alternatives up to the end of the text or of the group. `done` holds the
alternatives before the one under way, and `items` the parts of that one. -/
def readAlternatives (done items : List Piece) : Nat → Read Piece
  | 0 => failure
  | fuel + 1 => do
      skipBlanks
      let finished := done ++ [Piece.concat items]
      let repeated (least : Nat) (most : Option Nat) : Read Piece := do
        skipLazy
        readAlternatives done (← repeatLast least most items) fuel
      match ← peek? with
      | none | some ')' => return .alternate finished
      | some '|' =>
          skip
          readAlternatives finished [] fuel
      | some '(' =>
          match ← readOpening with
          | .setFlags f =>
              modify fun r => { r with flags := f }
              readAlternatives done (items ++ [.ofFlags]) fuel
          | .group capture f =>
              let outer ← flags
              modify fun r => { r with flags := f }
              let inner ← readAlternatives [] [] fuel
              if (← peek) ≠ ')' then failure
              modify fun r => { r with text := r.text.drop 1, flags := outer }
              readAlternatives done (items ++ [inner.group capture]) fuel
      | some '?' =>
          skip
          repeated 0 (some 1)
      | some '*' =>
          skip
          repeated 0 none
      | some '+' =>
          skip
          repeated 1 none
      | some '\x7b' =>
          let (least, most) ← readCount
          repeated least most
      | some _ => readAlternatives done (items ++ [← readSimple]) fuel

def maxDepth : Nat := 250

def maxWeight : Nat := 10 * (1 <<< 20)

def ofText (text : List Char) : Option Pattern := do
  let (p, rest) ← (readAlternatives [] [] (text.length + 1)).run ⟨text, .initial, []⟩
  if rest.text.isEmpty && p.depth ≤ maxDepth && p.weight ≤ maxWeight then some p.pattern
  else none

end ScriptLint.Pattern
