import ScriptLint.Grammar.Automaton

namespace ScriptLint.Grammar

open ScriptLint.Text

/-! The machine that reads tokens: the shapes of all tokens as one array of instructions,
over classes of characters that no shape tells apart. -/

/-- A set of character classes; bit `k` stands for class `k`. -/
abbrev ClassSet := Nat

inductive Instr where
  | accept
  | split (left right : Nat)
  /-- Reads a character of the set; `blank` reads belong to no token. -/
  | read (chars : ClassSet) (next : Nat) (rank : Int) (blank : Bool)
  deriving Inhabited

structure Machine where
  instrs : Array Instr
  owner : Array Nat
  starts : Array Nat
  /-- The least character of each class. -/
  bounds : Array Nat
  tokens : Array Token
  deriving Inhabited

namespace Shape

def bounds : Shape → List Nat
  | .empty => []
  | .set cs => cs.ranges.flatMap fun (lo, hi) => [lo, hi + 1]
  | .seq a b | .alt a b => a.bounds ++ b.bounds
  | .plus b => b.bounds

def classesOf (bounds : Array Nat) (cs : CharSet) : ClassSet :=
  (List.range bounds.size).foldl
    (fun acc k => if cs.mem bounds[k]! then acc ||| (1 <<< k) else acc) 0

/-- Adds the instructions of a shape that goes on at `next`, and gives the first of
them. -/
def assemble (bounds : Array Nat) (rank : Int) (blank : Bool) :
    Shape → Nat → Array Instr → Nat × Array Instr
  | .empty, next, code => (next, code)
  | .set cs, next, code =>
      (code.size, code.push (.read (classesOf bounds cs) next rank blank))
  | .seq a b, next, code =>
      let (n, code) := b.assemble bounds rank blank next code
      a.assemble bounds rank blank n code
  | .alt a b, next, code =>
      let (l, code) := a.assemble bounds rank blank next code
      let (r, code) := b.assemble bounds rank blank next code
      (code.size, code.push (.split l r))
  | .plus b, next, code =>
      let loop := code.size
      let (start, code) := b.assemble bounds rank blank loop (code.push (.split 0 next))
      (start, code.set! loop (.split start next))

end Shape

namespace Machine

/-- The code of one token: blanks, unless it is attached, then its shape. -/
def assembleToken (bounds : Array Nat) (blanks : Shape) (t : Token) (code : Array Instr) :
    Nat × Array Instr :=
  let accept := code.size
  let (start, code) := t.shape.assemble bounds t.rank false accept (code.push .accept)
  if t.attached then (start, code)
  else
    let loop := code.size
    let (skip, code) := blanks.assemble bounds 0 true loop (code.push (.split 0 start))
    (loop, code.set! loop (.split skip start))

def ofGrammar (g : Compiled) : Machine := Id.run do
  let shapes := g.blanks :: g.tokens.toList.map (·.shape)
  let inside := (0 :: shapes.flatMap Shape.bounds).filter (· ≤ CharSet.maxScalar)
  let bounds := (inside.mergeSort fun a b => decide (a ≤ b)).eraseReps.toArray
  let mut code : Array Instr := #[]
  let mut owner : Array Nat := #[]
  let mut starts : Array Nat := #[0]
  for h : i in [0:g.tokens.size] do
    let (start, code') := assembleToken bounds g.blanks g.tokens[i] code
    code := code'
    owner := owner ++ Array.replicate (code.size - owner.size) (i + 1)
    starts := starts.push start
  return { instrs := code, owner, starts, bounds, tokens := g.tokens }

/-- The reading and accepting instructions reached without reading, in increasing order. -/
def closure (m : Machine) (starts : Array Nat) : Array Nat := Id.run do
  let mut seen : Std.HashMap Nat Unit := {}
  let mut stack := starts
  let mut out : Array Nat := #[]
  for _ in [0:2 * m.instrs.size + starts.size] do
    match stack.back? with
    | none => break
    | some i =>
        stack := stack.pop
        if !seen.contains i then
          seen := seen.insert i ()
          match m.instrs[i]! with
          | .split l r => stack := (stack.push r).push l
          | _ => out := out.push i
  return out.qsort (· < ·)

def token (m : Machine) (symbol : Nat) : Token := m.tokens.getD (symbol - 1) default

def prefers (m : Machine) (left right : Nat) : Bool :=
  let l := m.token left
  let r := m.token right
  if l.rank != r.rank then decide (l.rank > r.rank)
  else if l.tieBreak != r.tieBreak then decide (l.tieBreak > r.tieBreak)
  else decide (left < right)

def isAccept (m : Machine) (i : Nat) : Bool :=
  match m.instrs[i]! with
  | .accept => true
  | _ => false

def complete? (m : Machine) (set : Array Nat) : Option Nat :=
  set.foldl (fun acc i =>
    if m.isAccept i then
      match acc with
      | some t => if m.prefers t m.owner[i]! then acc else some m.owner[i]!
      | none => some m.owner[i]!
    else acc) none

def readsBlank (m : Machine) (set : Array Nat) : Bool :=
  set.any fun i => match m.instrs[i]! with
    | .read _ _ _ blank => blank
    | _ => false

structure Move where
  target : Array Nat
  rank : Int
  blank : Bool
  chars : ClassSet
  deriving Inhabited

def move? (m : Machine) (set : Array Nat) (k : Nat) : Option Move := Id.run do
  let mut next : Array Nat := #[]
  let mut rank : Int := 0
  let mut blank := true
  for i in set do
    if let .read chars n r b := m.instrs[i]! then
      if chars.testBit k then
        rank := if next.isEmpty then r else max rank r
        blank := blank && b
        next := next.push n
  if next.isEmpty then return none
  return some ⟨next, rank, blank, 1 <<< k⟩

def moves (m : Machine) (set : Array Nat) : Array Move := Id.run do
  let mut all : ClassSet := 0
  for i in set do
    if let .read chars _ _ _ := m.instrs[i]! then all := all ||| chars
  let mut index : Std.HashMap (Array Nat × Int × Bool) Nat := {}
  let mut out : Array Move := #[]
  for k in [0:m.bounds.size] do
    if all.testBit k then
      if let some mv := m.move? set k then
        match index[(mv.target, mv.rank, mv.blank)]? with
        | some j => out := out.modify j fun o => { o with chars := o.chars ||| (1 <<< k) }
        | none =>
            index := index.insert (mv.target, mv.rank, mv.blank) out.size
            out := out.push mv
  return out.map fun mv => { mv with target := m.closure mv.target }

/-- Whether reading goes on past a complete token: never for a token of higher rank, nor
over a blank, and inside leading blanks only if the complete token itself goes on. -/
def goesOn (m : Machine) (set : Array Nat) (mv : Move) : Bool :=
  match m.complete? set with
  | none => true
  | some t =>
      let rank := (m.token t).rank
      if mv.rank < rank then false
      else if mv.rank = rank then
        !mv.blank && (!m.readsBlank set || mv.target.any fun i => m.owner[i]! = t)
      else true

end Machine

end ScriptLint.Grammar
