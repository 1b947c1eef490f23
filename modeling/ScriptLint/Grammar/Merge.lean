import ScriptLint.Grammar.Confusion

namespace ScriptLint.Grammar

/-! A smaller automaton: states with one core are taken together as long as no token that
only one of them allows could be confused with a token of the other, and as long as what
follows them is taken together as well. -/

structure Partition where
  groups : Array (Array Nat)
  groupOf : Array Nat

namespace Partition

def byCore (states : Array State) : Partition := Id.run do
  let mut groups : Array (Array Nat) := #[]
  for h : i in [0:states.size] do
    let core := states[i].core
    if core < groups.size then groups := groups.modify core (·.push i)
    else groups := groups.push #[i]
  return ⟨groups, states.map (·.core)⟩

/-- The members of one group that cannot stay with an earlier member. -/
def leavers (ids : Array Nat) (apart : Nat → Nat → Bool) : Array Bool := Id.run do
  let mut leaves : Array Bool := Array.replicate ids.size false
  for i in [0:ids.size] do
    if !leaves[i]! then
      for j in [i + 1:ids.size] do
        if !leaves[j]! then
          if apart ids[i]! ids[j]! then leaves := leaves.set! j true
  return leaves

/-- Splits every group once, also the groups that arise on the way, and says whether any
was. -/
def refine (p : Partition) (limit : Nat) (apart : Array Nat → Nat → Nat → Bool) :
    Partition × Bool := Id.run do
  let mut groups := p.groups
  let mut groupOf := p.groupOf
  let mut changed := false
  for g in [0:limit] do
    if g ≥ groups.size then break
    let ids := groups[g]!
    if ids.size > 1 then
      let leaves := leavers ids (apart groupOf)
      if leaves.contains true then
        changed := true
        let mut stay : Array Nat := #[]
        let mut leave : Array Nat := #[]
        for h : i in [0:ids.size] do
          if leaves[i]! then leave := leave.push ids[i] else stay := stay.push ids[i]
        for i in leave do
          groupOf := groupOf.set! i groups.size
        groups := (groups.set! g stay).push leave
  return (⟨groups, groupOf⟩, changed)

end Partition

namespace Action

def agrees (groupOf : Array Nat) : Action → Action → Bool
  | .shift s r, .shift s' r' => groupOf[s]! = groupOf[s']! && r == r'
  | a, b => a == b

def allAgree (groupOf : Array Nat) : List Action → List Action → Bool
  | [], [] => true
  | a :: as, b :: bs => agrees groupOf a b && allAgree groupOf as bs
  | _, _ => false

def shiftTarget? (as : List Action) : Option Nat :=
  match as.getLast? with
  | some (.shift s _) => some s
  | _ => none

end Action

namespace Automaton

/-- The tokens that must not come to a state that lacks them. -/
def refusals (g : Compiled) (c : Confusion) (a : Automaton) : Array TokenSet := Id.run do
  let word := TokenSet.singleton Compiled.wordToken
  -- by token `e`, the tokens that clash with `e`
  let mut refusedBy : Array TokenSet := Array.replicate g.tokenCount 0
  for t in [1:g.tokenCount] do
    let clashes := c.clashes t
    let clashes :=
      if t = Compiled.wordToken then clashes.without c.keywords
      else if c.keywords.contains t then clashes.without word else clashes
    for e in clashes.members g.tokenCount do
      refusedBy := refusedBy.modify e (·.insert t)
  let always := TokenSet.ofList
    (g.watched ++ (List.range g.tokenCount).filter fun t => g.tokens.size < t)
  return a.states.map fun s => Id.run do
    let mut out := always ||| s.words
    for t in [1:g.tokenCount] do
      if !(s.actions[t]?.getD []).isEmpty then out := out ||| refusedBy[t]!
    return out

/-- Whether a token of the one state cannot come to the other, or the two act
differently. -/
def actApart (tokenCount : Nat) (states : Array State) (refusals : Array TokenSet)
    (groupOf : Array Nat) (a b : Nat) : Bool := Id.run do
  let s := states[a]!
  let t := states[b]!
  if s.tokens != t.tokens then
    if (s.tokens.without t.tokens) &&& refusals[b]! != 0 then return true
    if (t.tokens.without s.tokens) &&& refusals[a]! != 0 then return true
  for k in [0:tokenCount] do
    let x := s.actions[k]!
    let y := t.actions[k]!
    if !x.isEmpty && !y.isEmpty && !Action.allAgree groupOf x y then return true
  return false

def leadApart (tokenCount ruleCount : Nat) (states : Array State) (groupOf : Array Nat)
    (a b : Nat) : Bool := Id.run do
  let s := states[a]!
  let t := states[b]!
  for k in [0:tokenCount] do
    if let some x := Action.shiftTarget? s.actions[k]! then
      if let some y := Action.shiftTarget? t.actions[k]! then
        if groupOf[x]! != groupOf[y]! then return true
  for k in [0:ruleCount] do
    let x := s.gotos[k]!
    let y := t.gotos[k]!
    if x != 0 && y != 0 && groupOf[x]! != groupOf[y]! then return true
  return false

def merge (g : Compiled) (c : Confusion) (a : Automaton) : Automaton := Id.run do
  let limit := a.states.size
  let refusals := a.refusals g c
  let mut (p, _) := (Partition.byCore a.states).refine limit
    (actApart g.tokenCount a.states refusals)
  for _ in [0:limit] do
    let (p', changed) := p.refine limit (leadApart g.tokenCount g.ruleCount a.states)
    p := p'
    if !changed then break
  -- groups numbered by their least state
  let least := p.groups.map fun ids => ids.foldl min limit
  let order := ((List.range p.groups.size).mergeSort fun i j =>
    decide (least[i]! ≤ least[j]!)).toArray
  let mut newId : Array Nat := Array.replicate p.groups.size 0
  for h : i in [0:order.size] do
    newId := newId.set! order[i] i
  let rename (s : Nat) : Nat := newId[p.groupOf[s]!]!
  let renameAction : Action → Action
    | .shift s r => .shift (rename s) r
    | x => x
  let states := order.map fun gi => Id.run do
    let ids := (p.groups[gi]!).qsort (· < ·)
    let mut actions : Array (List Action) := Array.replicate g.tokenCount []
    let mut gotos : Array Nat := Array.replicate g.ruleCount 0
    let mut tokens : TokenSet := 0
    let mut words : TokenSet := 0
    for id in ids do
      let s := a.states[id]!
      tokens := tokens ||| s.tokens
      words := words ||| s.words
      for k in [0:g.tokenCount] do
        let x := s.actions[k]?.getD []
        if !x.isEmpty then actions := actions.set! k (x.map renameAction)
      for k in [0:g.ruleCount] do
        let x := s.gotos[k]?.getD 0
        if x != 0 then gotos := gotos.set! k (rename x)
    return { core := gi, actions, gotos, tokens, words := words.without tokens : State }
  return { a with states := states }

/-! ### Steps that only rename -/

/-- The rule to which a state does nothing but reduce one child that stays as it is. -/
def passing? (g : Compiled) (aliased : List Nat) (layouts : Array Layout) (s : State) :
    Option Nat :=
  let plain (a : Action) : Option (Option Nat) :=
    match a with
    | .skip => some none
    | .reduce symbol 1 0 layout =>
        if (layouts[layout]!).any (fun (al, f) => al.isSome || f.isSome)
          || aliased.contains symbol || g.unseen.contains symbol ||
              !g.isHidden symbol then none
        else some (some symbol)
    | _ => none
  let rec go (found : Option Nat) : List Action → Option Nat
    | [] => found
    | a :: rest =>
        match plain a with
        | none => none
        | some none => go found rest
        | some (some symbol) =>
            if found == none || found == some symbol then go (some symbol) rest else none
  go none s.actions.toList.flatten

def skipPassing (g : Compiled) (a : Automaton) : Automaton := Id.run do
  let aliased := (g.productions.toList.flatMap fun p =>
    p.steps.toList.filterMap fun s =>
      if s.rename.isSome then some s.symbol else none).eraseDups
  let passing := a.states.map (passing? g aliased a.layouts)
  let mut states : Array State := #[]
  for s in a.states do
    let mut s := s
    for _ in [0:passing.size] do
      let gotos := s.gotos
      let target (t : Nat) : Nat :=
        match passing[t]! with
        | some r => if gotos[r - g.firstRule]! = 0 then t else gotos[r - g.firstRule]!
        | none => t
      let redirect : Action → Action
        | .shift t r => .shift (target t) r
        | x => x
      let needed := gotos.any (fun t => t != 0 && target t != t) ||
        s.actions.any fun as => as.any fun x => x != redirect x
      if !needed then break
      s := { s with
        actions := s.actions.map fun as => if as.isEmpty then as else as.map redirect
        gotos := gotos.map fun t => if t = 0 then 0 else target t }
    states := states.push s
  return { a with states := states }

end Automaton

end ScriptLint.Grammar
