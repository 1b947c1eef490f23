namespace ScriptLint.Text

/-! Places in a text, counted in bytes as files are, and the parts of a text between
places. -/

/-- The bytes before a place, the line ends before it, and the bytes since the last line
end. -/
structure Mark where
  byte : Nat
  row : Nat
  column : Nat
  deriving DecidableEq, Inhabited, Repr

namespace Mark

def origin : Mark := ⟨0, 0, 0⟩

def advance (m : Mark) (c : Char) : Mark :=
  if c = '\n' then ⟨m.byte + c.utf8Size, m.row + 1, 0⟩
  else ⟨m.byte + c.utf8Size, m.row, m.column + c.utf8Size⟩

def after (cs : List Char) : Mark := cs.foldl advance origin

end Mark

def byteLength : List Char → Nat
  | [] => 0
  | c :: cs => c.utf8Size + byteLength cs

/-- The text without its first `n` bytes; none unless a character ends there. -/
def dropBytes? : List Char → Nat → Option (List Char)
  | cs, 0 => some cs
  | [], _ + 1 => none
  | c :: cs, n + 1 =>
      if c.utf8Size ≤ n + 1 then dropBytes? cs (n + 1 - c.utf8Size) else none

def takeBytes? : List Char → Nat → Option (List Char)
  | _, 0 => some []
  | [], _ + 1 => none
  | c :: cs, n + 1 =>
      if c.utf8Size ≤ n + 1 then (takeBytes? cs (n + 1 - c.utf8Size)).map (c :: ·)
      else none

/-- The bytes from `start` up to `stop`; none unless both lie between characters. -/
def slice? (cs : List Char) (start stop : Nat) : Option (List Char) :=
  if start ≤ stop then (dropBytes? cs start).bind (takeBytes? · (stop - start)) else none

/-- A place as readers count it: lines from 1, and characters of the line from 1. -/
structure Location where
  line : Nat
  column : Nat
  deriving DecidableEq, Inhabited, Repr

/-- Counts the characters of the line before the mark; its bytes if the mark lies inside
one. -/
def Location.ofMark (source : List Char) (m : Mark) : Location :=
  let column := match slice? source (m.byte - m.column) m.byte with
    | some before => before.length
    | none => m.column
  ⟨m.row + 1, column + 1⟩

end ScriptLint.Text
