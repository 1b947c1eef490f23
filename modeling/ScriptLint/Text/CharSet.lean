namespace ScriptLint.Text

/-! Sets of characters as lists of inclusive ranges of scalar values, in increasing order
and without overlap. -/

structure CharSet where
  ranges : List (Nat × Nat)
  deriving DecidableEq, Hashable, Inhabited, Repr

namespace CharSet

def maxScalar : Nat := 0x10FFFF

def empty : CharSet := ⟨[]⟩

def all : CharSet := ⟨[(0, maxScalar)]⟩

def range (lo hi : Nat) : CharSet := ⟨[(lo, hi)]⟩

def single (c : Char) : CharSet := range c.toNat c.toNat

/-- Whether one of the ranges holds `n`; the search ends at the first range above `n`. -/
def holds (n : Nat) : List (Nat × Nat) → Bool
  | [] => false
  | (lo, hi) :: rest => if n < lo then false else if n ≤ hi then true else holds n rest

def mem (s : CharSet) (n : Nat) : Bool := holds n s.ranges

def contains (s : CharSet) (c : Char) : Bool := s.mem c.toNat

/-- Joins a range with those behind it that it touches, and those with each other; the
lower ends are in increasing order. -/
def join (r : Nat × Nat) : List (Nat × Nat) → List (Nat × Nat)
  | [] => [r]
  | s :: rest => if r.2 + 1 < s.1 then r :: join s rest else join (r.1, max r.2 s.2) rest

def coalesce : List (Nat × Nat) → List (Nat × Nat)
  | [] => []
  | r :: rest => join r rest

/-- Puts a range in front of the first one that begins no earlier; `tail` puts the ranges
in order that come after it. -/
def mergeRange (r : Nat × Nat) (tail : List (Nat × Nat) → List (Nat × Nat)) :
    List (Nat × Nat) → List (Nat × Nat)
  | [] => r :: tail []
  | s :: ss => if r.1 ≤ s.1 then r :: tail (s :: ss) else s :: mergeRange r tail ss

def merge : List (Nat × Nat) → List (Nat × Nat) → List (Nat × Nat)
  | [] => id
  | r :: rs => mergeRange r (merge rs)

def ofRanges (rs : List (Nat × Nat)) : CharSet :=
  ⟨coalesce (rs.foldr (mergeRange · id) [])⟩

def ofString (s : String) : CharSet :=
  ofRanges (s.toList.map fun c => (c.toNat, c.toNat))

def union (s t : CharSet) : CharSet := ⟨coalesce (merge s.ranges t.ranges)⟩

/-- What lies at or above `start` and in none of the ranges. -/
def gaps (start : Nat) : List (Nat × Nat) → List (Nat × Nat)
  | [] => if start ≤ maxScalar then [(start, maxScalar)] else []
  | (lo, hi) :: rest =>
      if start < lo then (start, lo - 1) :: gaps (hi + 1) rest
      else gaps (max start (hi + 1)) rest

def complement (s : CharSet) : CharSet := ⟨gaps 0 s.ranges⟩

def inter (s t : CharSet) : CharSet := (s.complement.union t.complement).complement

def diff (s t : CharSet) : CharSet := s.inter t.complement

def symmDiff (s t : CharSet) : CharSet := (s.union t).diff (s.inter t)

def isBelow (s : CharSet) (n : Nat) : Bool := s.ranges.all fun r => r.2 ≤ n

instance : Append CharSet := ⟨union⟩

end CharSet

end ScriptLint.Text
