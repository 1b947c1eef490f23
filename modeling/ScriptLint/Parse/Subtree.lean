import ScriptLint.Grammar.Table
import ScriptLint.Text.Mark

namespace ScriptLint.Parse

open ScriptLint.Grammar ScriptLint.Text

/-! Trees as they are built, with the hidden rules still in place, and what they cost: a
tree that had to be repaired costs more the more of the text it leaves out. -/

/-- A text with the mark of each place between its characters. -/
structure Input where
  chars : Array Char
  marks : Array Mark
  deriving Inhabited

namespace Input

def ofChars (cs : List Char) : Input :=
  { chars := cs.toArray
    marks := (cs.foldl (fun (marks, m) c => (marks.push m, m.advance c))
      ((#[] : Array Mark), Mark.origin)).1.push (Mark.after cs) }

def size (t : Input) : Nat := t.chars.size

def mark (t : Input) (p : Nat) : Mark := t.marks.getD p default

def bytesBetween (t : Input) (start stop : Nat) : Nat :=
  (t.mark stop).byte - (t.mark start).byte

def rowsBetween (t : Input) (start stop : Nat) : Nat :=
  (t.mark stop).row - (t.mark start).row

end Input

inductive Label where
  | symbol (s : Nat)
  | error
  /-- Input skipped so far, while a place to go on is looked for. -/
  | skipped
  deriving DecidableEq, Inhabited, Repr

structure Facts where
  label : Label
  /-- Where the blanks before the tree begin. -/
  origin : Nat
  start : Nat
  stop : Nat
  extra : Bool := false
  missing : Bool := false
  /-- Read as a word first and then taken for a keyword. -/
  keyword : Bool := false
  visible : Bool := false
  named : Bool := false
  /-- No text and no children. -/
  hollow : Bool := false
  rawCost : Nat := 0
  weight : Int := 0
  visibleDescendants : Nat := 0
  visibleChildren : Nat := 0
  layout : Option Nat := none
  deriving Inhabited

inductive Subtree where
  | node (facts : Facts) (children : Array Subtree)
  deriving Inhabited

namespace Subtree

def facts : Subtree → Facts
  | node f _ => f

def children : Subtree → Array Subtree
  | node _ cs => cs

def label (t : Subtree) : Label := t.facts.label

def isError (t : Subtree) : Bool := t.label == .error

def recoveryCost : Nat := 500

def missingCost : Nat := 110

def skippedTreeCost : Nat := 100

def skippedLineCost : Nat := 30

def cost (t : Subtree) : Nat :=
  if t.facts.missing then missingCost + recoveryCost else t.facts.rawCost

def visibleLabel (table : Table) : Label → Bool
  | .symbol s => table.isVisible s
  | .error => true
  | .skipped => false

def namedLabel (table : Table) : Label → Bool
  | .symbol s => table.isNamed s
  | .error => true
  | .skipped => false

def leaf (table : Table) (label : Label) (origin start stop : Nat) : Subtree :=
  node { label, origin, start, stop, extra := label == .symbol 0,
         visible := visibleLabel table label, named := namedLabel table label } #[]

/-- A tree over `children`, or at `place` if there are none. -/
def branch (table : Table) (text : Input) (label : Label) (children : Array Subtree)
    (layout : Option Nat) (place : Nat) : Subtree := Id.run do
  let isRepair := match label with
    | .symbol _ => false
    | _ => true
  let row : Layout := match layout with
    | some l => table.layouts.getD l #[]
    | none => #[]
  let mut cost := 0
  let mut weight : Int := 0
  let mut descendants := 0
  let mut seen := 0
  let mut index := 0
  for c in children do
    let f := c.facts
    if f.label != .skipped then cost := cost + c.cost
    if isRepair && !f.extra && !(f.label == .error && c.children.isEmpty) then
      if f.visible then cost := cost + skippedTreeCost
      else if !c.children.isEmpty then cost := cost + skippedTreeCost * f.visibleChildren
    weight := weight + f.weight
    descendants := descendants + f.visibleDescendants
    let renamed := !f.extra && f.label != .symbol 0 && (row[index]?.bind (·.1)).isSome
    if renamed || f.visible then
      descendants := descendants + 1
      seen := seen + 1
    else if !c.children.isEmpty then seen := seen + f.visibleChildren
    if !f.extra then index := index + 1
  let origin := (children[0]?.map (·.facts.origin)).getD place
  let start := (children[0]?.map (·.facts.start)).getD place
  let stop := (children.back?.map (·.facts.stop)).getD place
  if isRepair then
    cost := cost + recoveryCost + text.bytesBetween start stop
      + skippedLineCost * text.rowsBetween start stop
  return node
    { label, origin, start, stop, visible := visibleLabel table label,
      named := namedLabel table label, hollow := children.isEmpty, rawCost := cost, weight,
      visibleDescendants := descendants, visibleChildren := seen, layout } children

def withWeight (t : Subtree) (w : Int) : Subtree :=
  node { t.facts with weight := t.facts.weight + w } t.children

def asExtra (t : Subtree) : Subtree := node { t.facts with extra := true } t.children

def nodeCount (t : Subtree) : Nat :=
  t.facts.visibleDescendants + (if t.facts.visible then 1 else 0)
    + (if t.label == .skipped then 1 else 0)

def splitTrailing (ts : List Subtree) : List Subtree × List Subtree :=
  ((ts.reverse.dropWhile (·.facts.extra)).reverse,
    (ts.reverse.takeWhile (·.facts.extra)).reverse)

/-- The trees taken off a stack as one tree, at `place` if there are none. The extras
behind it stay apart. -/
def complete (table : Table) (text : Input) (label : Label) (layout : Option Nat)
    (place : Nat) (trees : List Subtree) : Subtree × List Subtree :=
  let (children, extras) := splitTrailing trees
  (branch table text label children.toArray layout place, extras)

/-- The last of the trees taken off a stack that is no extra, with the others as further
children of it. -/
def gather? (table : Table) (text : Input) (trees : List Subtree) : Option Subtree :=
  let (inner, extras) := splitTrailing trees
  inner.getLast?.map fun t =>
    branch table text t.label (inner.dropLast ++ t.children.toList ++ extras).toArray
      t.facts.layout 0

def labelRank : Label → Nat
  | .symbol s => s
  | .skipped => 65534
  | .error => 65535

mutual

def compareShape : Subtree → Subtree → Ordering
  | node f cs, node g ds =>
      match compare (labelRank f.label) (labelRank g.label) with
      | .eq =>
          match compare cs.size ds.size with
          | .eq => compareShapes cs.toList ds.toList
          | o => o
      | o => o
termination_by t _ => sizeOf t
decreasing_by
  simp
  have : sizeOf cs.toList < sizeOf cs := by cases cs; simp
  omega

def compareShapes : List Subtree → List Subtree → Ordering
  | [], _ => .eq
  | _, [] => .eq
  | c :: cs, d :: ds =>
      match compareShape c d with
      | .eq => compareShapes cs ds
      | o => o
termination_by ts _ => sizeOf ts

end

/-- Whether `right` is to be kept rather than `left`. -/
def yieldsTo (left right : Subtree) : Bool :=
  if right.cost < left.cost then true
  else if left.cost < right.cost then false
  else if right.facts.weight > left.facts.weight then true
  else if left.facts.weight > right.facts.weight then false
  else if left.cost > 0 then true
  else compareShape left right == .gt

end Subtree

end ScriptLint.Parse
