import ScriptLint.Parse.Lexeme

namespace ScriptLint.Parse

open ScriptLint.Grammar

/-! What is done with a reading that cannot go on: complete what can be completed, insert
one missing token, go back to a state that can take the next token, or skip that token. -/

namespace Parser

/-! ### Comparing readings -/

structure Standing where
  cost : Nat
  count : Nat
  weight : Int
  inError : Bool

inductive Preference where
  | takeLeft
  | preferLeft
  | neither
  | preferRight
  | takeRight
  deriving DecidableEq

/-- A cheaper reading beats another for good only once the difference has lasted. -/
def maxDifference : Nat := 1800

def Standing.compare (a b : Standing) : Preference :=
  if !a.inError && b.inError then if a.cost < b.cost then .takeLeft else .preferLeft
  else if a.inError && !b.inError then if b.cost < a.cost then .takeRight else .preferRight
  else if a.cost < b.cost then
    if (b.cost - a.cost) * (1 + a.count) > maxDifference then .takeLeft else .preferLeft
  else if b.cost < a.cost then
    if (a.cost - b.cost) * (1 + b.count) > maxDifference then .takeRight else .preferRight
  else if a.weight > b.weight then .preferLeft
  else if b.weight > a.weight then .preferRight
  else .neither

def errorCost (s : Session) (v : Nat) : Nat :=
  let h := s.heads[v]!
  let n := s.nodes[h.node]!
  let broken := h.status == .paused
    || (n.state = Table.repairState && (n.links[0]?.map (·.tree.isNone)).getD false)
  if broken then n.cost + Subtree.recoveryCost else n.cost

def standing (v : Nat) : Parser Standing := do
  let cost := errorCost (← get) v
  let h ← head v
  let n ← nodeAt h.node
  let paused := h.status == .paused
  return { cost := if paused then cost + Subtree.skippedTreeCost else cost
           count := ← countSinceError v
           weight := n.weight
           inError := paused || n.state = Table.repairState }

def betterExists (v : Nat) (inError : Bool) (cost : Nat) : Parser Bool := do
  if ((← get).finished.map (decide <| ·.cost ≤ cost)).getD false then return true
  let n ← top v
  let mine : Standing := ⟨cost, ← countSinceError v, n.weight, inError⟩
  for i in [0:(← headCount)] do
    if i != v && (← head i).status == .active && (← top i).position ≥ n.position then
      match mine.compare (← standing i) with
      | .takeRight => return true
      | .preferRight => if canMerge (← get) i v then return true
      | _ => pure ()
  return false

/-! ### Reductions -/

def haltedCount (s : Session) : Nat := s.heads.countP (·.status == .halted)

def pushAll (v : Nat) (trees : List Subtree) (state : Nat) : Parser Unit :=
  trees.forM fun t => push v (some t) state

/-- Joins a reading into the first one from `low` on that it agrees with, but not into the
reading `spared`. -/
def mergeDown (low v spared : Nat) : Parser Bool := do
  for j in [low:v] do
    if j != spared then
      if ← merge j v then return true
  return false

/-- What the first way makes of its trees, unless another one makes something better. -/
def Slice.best (slice : Slice) (make : List Subtree → Subtree × List Subtree) :
    Subtree × List Subtree :=
  slice.others.foldl
    (fun best trees => if best.1.yieldsTo (make trees).1 then make trees else best)
    (make slice.trees)

/-- Replaces `count` trees by one over `symbol`, on every way down; gives the first new
reading. -/
def reduce (v symbol count : Nat) (weight : Int) (layout : Nat) : Parser (Option Nat) := do
  let { table, text } ← read
  let initial ← headCount
  let slices ← popCount v count
  let halted := haltedCount (← get)
  let mut removed := 0
  for slice in slices do
    let target := slice.head - removed
    if target > headLimit + headOverflow + halted then
      removeHead target
      removed := removed + 1
    else
      let below ← top target
      let (parent, extras) := slice.best
        (Subtree.complete table text (.symbol symbol) (some layout) below.position)
      let next := nextState table below.state symbol
      push target (some (parent.withWeight weight)) next
      pushAll target extras next
      if ← mergeDown 0 target v then removed := removed + 1
  return if (← headCount) > initial then some initial else none

/-- Whether one of the tokens from `low` on and below `high` can be taken in a state, and
the reductions that they ask for, each of them once. -/
def wanted (table : Table) (state low high : Nat) : Bool × Array (Nat × Nat × Int × Nat) :=
  Id.run do
    let mut canShift := false
    let mut pending : Array (Nat × Nat × Int × Nat) := #[]
    for s in [low:high] do
      if state = Table.repairState then
        if handles table state (.symbol s) then canShift := true
      else
        for a in table.actions state s do
          match a with
          | .shift _ repetition => if !repetition then canShift := true
          | .reduce symbol n w layout =>
              if n > 0 && !(pending.any fun (s', n', _, _) => s' = symbol && n' = n) then
                pending := pending.push (symbol, n, w, layout)
          | _ => pure ()
    return (canShift, pending)

/-- Makes the reductions of one reading that some token asks for, or that `lookahead` asks
for. Tells whether a token can be taken, and whether the reading has been replaced by what
it was reduced to. -/
def complete (v : Nat) (lookahead : Option Nat) (mayReplace : Bool) :
    Parser (Bool × Bool) := do
  let { table, text := _ } ← read
  let (low, high) := match lookahead with
    | some s => (s, s + 1)
    | none => (1, table.grammar.tokenCount)
  let (canShift, pending) := wanted table (← top v).state low high
  let mut reduced : Option Nat := none
  for (symbol, n, w, layout) in pending do
    reduced ← reduce v symbol n w layout
  if canShift then return (true, false)
  match reduced with
  | some r =>
      if mayReplace then
        replaceHead r v
        return (false, true)
      else if lookahead.isSome then removeHead v
  | none => if lookahead.isSome then removeHead v
  return (false, false)

/-- Makes reductions as long as there are any, of a reading and of those that come from it;
tells whether a token can then be taken. -/
def reduceAll (first : Nat) (lookahead : Option Nat) : Parser Bool := do
  let initial ← headCount
  let mut canShift := false
  let mut v := first
  for i in [0:100000] do
    let count ← headCount
    if v ≥ count then break
    if !(← mergeDown initial v v) then
      let (shifts, replaced) ← complete v lookahead (i < headLimit)
      if shifts then canShift := true
      if !replaced then
        v := if v = first then count else v + 1
  return canShift

/-! ### Recovery -/

/-- Takes an error below a reading apart: its children come before the trees that stood on
it. -/
def openError (v : Nat) (trees : List Subtree) : Parser (List Subtree) := do
  let errors ← popError v
  match errors[0]? with
  | some e =>
      replaceHead e.head v
      return (e.trees.head?.map (·.children.toList)).getD [] ++ trees
  | none => return trees

/-- Wraps trees in an error on top of a reading. -/
def pushError (v goal : Nat) (trees : List Subtree) : Parser Unit := do
  let { table, text } ← read
  let (inner, extras) := Subtree.splitTrailing trees
  if !inner.isEmpty then
    let place := (← top v).position
    push v (some (Subtree.branch table text .error inner.toArray none place).asExtra) goal
  pushAll v extras goal

/-- Wraps what lies above a state in an error and goes on from there. -/
def recoverTo (v depth goal : Nat) : Parser Bool := do
  let mut found := false
  for slice in ← popCount v depth do
    if (← top slice.head).state != goal then setStatus slice.head .halted
    else
      pushError slice.head goal (← openError slice.head slice.trees)
      found := true
  return found

def accept (v : Nat) (lookahead : Subtree) : Parser Unit := do
  let { table, text } ← read
  push v (some lookahead) Table.startState
  let slices ← popAll v
  for slice in slices do
    for trees in slice.trees :: slice.others do
      modify (·.finish (Subtree.gather? table text trees))
  if let some slice := slices[0]? then removeHead slice.head
  setStatus v .halted

/-- Whether one of the first readings is in a state at a place. -/
def someAt (s : Session) (count state position : Nat) : Bool :=
  (List.range count).any fun j =>
    let n := s.nodes[s.heads[j]!.node]!
    n.state = state && n.position = position

/-- Goes back to the first landmark whose state can take a token, unless some reading is
better than that would be; tells whether there is such a landmark. `cost` is what the
reading costs so far, and `count` what it has taken since the error. -/
def goBack (v : Nat) (lookahead : Subtree) (cost count : Nat) : Parser Bool := do
  if lookahead.isError then return false
  let { table, text } ← read
  let initial ← headCount
  let position := (← top v).position
  for mark in (← head v).landmarks.getD #[] do
    if mark.state != Table.repairState && mark.position != position then
      let depth := if count > 0 then mark.depth + 1 else mark.depth
      if !someAt (← get) initial mark.state position then
        let newCost := cost + mark.depth * Subtree.skippedTreeCost
          + text.bytesBetween mark.position position
          + text.rowsBetween mark.position position * Subtree.skippedLineCost
        if ← betterExists v false newCost then return false
        if handles table mark.state lookahead.label then
          if ← recoverTo v depth mark.state then return true
  return false

def dropInactive (first : Nat) : Parser Unit :=
  modify fun s =>
    { s with
      heads := s.heads.extract 0 first
        ++ (s.heads.extract first s.heads.size).filter (·.status == .active) }

/-- Takes off what has been skipped since the error, if something has been taken since
then. -/
def takeSkipped (v count : Nat) : Parser (Option (List Subtree)) := do
  if count = 0 then return none
  let slices ← popCount v 1
  match slices[0]? with
  | some slice =>
      modify fun s => { s with heads := s.heads.extract 0 (slice.head + 1) }
      replaceHead slice.head v
      return some slice.trees
  | none => return none

/-- Adds a token to the text skipped since the error. -/
def skip (v : Nat) (token : Subtree) (count : Nat) : Parser Unit := do
  let { table, text } ← read
  let position := (← top v).position
  let skipped := Subtree.branch table text .skipped #[token] none position
  let skipped := match ← takeSkipped v count with
    | some trees => .branch table text .skipped (trees ++ [skipped]).toArray none position
    | none => skipped
  push v (some skipped) Table.repairState

def isExtraToken (table : Table) : Label → Bool
  | .symbol s => (table.actions Table.startState s).getLast? == some .skip
  | _ => false

/-- Deals with a token in the repair state: goes back to a landmark whose state can take
it, and skips it as well if that may turn out better. -/
def recover (v : Nat) (lookahead : Subtree) : Parser Unit := do
  let { table, text } ← read
  let initial ← headCount
  let count ← countSinceError v
  let cost := errorCost (← get) v
  let recovered ← goBack v lookahead cost count
  dropInactive initial
  if lookahead.label == .symbol 0 then
    let position := (← top v).position
    push v (some (.branch table text .error #[] none position)) Table.startState
    accept v lookahead
  else if recovered && (← headCount) > headLimit then setStatus v .halted
  else
    let { origin, stop, .. } := lookahead.facts
    let newCost := cost + Subtree.skippedTreeCost + text.bytesBetween origin stop
      + text.rowsBetween origin stop * Subtree.skippedLineCost
    if ← betterExists v false newCost then setStatus v .halted
    else
      let extra := isExtraToken table lookahead.label
      skip v (if extra then lookahead.asExtra else lookahead) count

/-- Whether the first thing that a state does on a token is a reduction. -/
def asksReduction (table : Table) (state : Nat) : Label → Bool
  | .symbol s => match (table.actions state s).head? with
    | some (.reduce _ _ _ _) => true
    | _ => false
  | _ => false

/-- Inserts the first token into a reading behind which the next token can be taken; tells
whether there is one. -/
def insertMissing (v : Nat) (lookahead : Label) : Parser Bool := do
  let { table, text := _ } ← read
  let below ← top v
  let next : Option Nat := match lookahead with
    | .symbol s => if s = 0 then none else some s
    | _ => none
  for m in [1:table.grammar.tokenCount] do
    let after := nextState table below.state m
    if after != 0 && after != below.state && asksReduction table after lookahead then
      let copy ← copyHead v
      let place := below.position
      let leaf := Subtree.leaf table (.symbol m) place place place
      push copy (some (.node { leaf.facts with missing := true } #[])) after
      if ← reduceAll copy next then return true
  return false

/-- Begins the repair of a reading that cannot take the next token. What it can be
completed to is repaired with it, as one reading. -/
def beginRepair (v : Nat) (lookahead : Subtree) : Parser Unit := do
  let initial ← headCount
  let _ ← reduceAll v none
  let count ← headCount
  let mut inserted := false
  for w in v :: List.range' initial (count - initial) do
    if !inserted then inserted ← insertMissing w lookahead.label
    push w none Table.repairState
  for _ in [initial:count] do
    let _ ← merge v initial
  let marks ← landmarks v
  modifyHead v fun h => { h with landmarks := some marks }
  recover v lookahead

end Parser

end ScriptLint.Parse
