import ScriptLint.Text.CharSet

namespace ScriptLint

open ScriptLint.Text

/-! Patterns over lines of text, and the search for a match. A search keeps the set of all
places that the pattern read so far can lead to, so it needs no choice and no going
back. -/

/-- Where a pattern looks without reading. Word characters are those of Unicode, or of
ASCII. -/
inductive Look where
  | textStart
  | textEnd
  | lineStart
  | lineEnd
  /-- Lines that may also end with a carriage return. -/
  | lineStartCR
  | lineEndCR
  | wordBoundary (unicode : Bool)
  | notWordBoundary (unicode : Bool)
  | wordStart (unicode : Bool)
  | wordEnd (unicode : Bool)
  | wordStartHalf (unicode : Bool)
  | wordEndHalf (unicode : Bool)
  deriving DecidableEq, Inhabited, Repr

inductive Pattern where
  | empty
  | chars (set : CharSet)
  | look (l : Look)
  | seq (first second : Pattern)
  | alt (left right : Pattern)
  /-- At least `least` times, and at most `most` times if that is given. -/
  | times (least : Nat) (most : Option Nat) (body : Pattern)
  deriving DecidableEq, Inhabited, Repr

namespace Look

def fits (word : Bool → Char → Bool) (before after : Option Char) : Look → Bool
  | textStart => before.isNone
  | textEnd => after.isNone
  | lineStart => before.isNone || before == some '\n'
  | lineEnd => after.isNone || after == some '\n'
  | lineStartCR =>
      before.isNone || before == some '\n' || (before == some '\r' && after != some '\n')
  | lineEndCR =>
      after.isNone || after == some '\r' || (after == some '\n' && before != some '\r')
  | wordBoundary u => isWord word u before != isWord word u after
  | notWordBoundary u => isWord word u before == isWord word u after
  | wordStart u => !isWord word u before && isWord word u after
  | wordEnd u => isWord word u before && !isWord word u after
  | wordStartHalf u => !isWord word u before
  | wordEndHalf u => !isWord word u after
where
  isWord (word : Bool → Char → Bool) (unicode : Bool) : Option Char → Bool
    | some c => word unicode c
    | none => false

end Look

/-- A set of places in a line; bit `i` stands for the place before character `i`. -/
abbrev Places := Nat

/-- A pattern for one line: sets of characters have become sets of places. -/
inductive Flow where
  | empty
  | read (places : Places)
  | stay (places : Places)
  | seq (first second : Flow)
  | alt (left right : Flow)
  | times (least : Nat) (most : Option Nat) (body : Flow)
  deriving Inhabited

namespace Flow

/-- The places from which `f` leads on, all of them, without end; `fuel` is at least the
number of places. -/
def spread (f : Places → Places) : Nat → Places → Places → Places
  | 0, reached, _ => reached
  | fuel + 1, reached, fresh =>
      let next := f fresh
      let joined := reached ||| next
      if joined = reached then reached
      else spread f fuel joined (next ^^^ (next &&& reached))

def upTo (f : Places → Places) : Nat → Places → Places
  | 0, s => s
  | n + 1, s => let t := f s; if t = s then s else s ||| upTo f n t

def exactly (f : Places → Places) : Nat → Places → Places
  | 0, s => s
  | n + 1, s => let t := f s; if t = s then s else exactly f n t

def run (length : Nat) : Flow → Places → Places
  | empty, s => s
  | read places, s => (s &&& places) <<< 1
  | stay places, s => s &&& places
  | seq a b, s => b.run length (a.run length s)
  | alt a b, s => a.run length s ||| b.run length s
  | times least most body, s =>
      let s := exactly (body.run length) least s
      match most with
      | none => spread (body.run length) (length + 1) s s
      | some m => upTo (body.run length) (m - least) s

end Flow

namespace Pattern

def placesWhere (p : Option Char → Option Char → Bool) (line : List Char) : Places :=
  go none 0 1 line
where
  go (before : Option Char) (acc bit : Nat) : List Char → Places
    | [] => if p before none then acc ||| bit else acc
    | c :: cs =>
        go (some c) (if p before (some c) then acc ||| bit else acc) (bit <<< 1) cs

def resolve (word : Bool → Char → Bool) (line : List Char) : Pattern → Flow
  | empty => .empty
  | chars set => .read (placesWhere (fun _ c => (c.map set.contains).getD false) line)
  | look l => .stay (placesWhere (fun b a => l.fits word b a) line)
  | seq a b => .seq (a.resolve word line) (b.resolve word line)
  | alt a b => .alt (a.resolve word line) (b.resolve word line)
  | times least most body => .times least most (body.resolve word line)

def matchesIn (word : Bool → Char → Bool) (p : Pattern) (line : List Char) : Bool :=
  (p.resolve word line).run line.length ((1 <<< (line.length + 1)) - 1) != 0

end Pattern

end ScriptLint
