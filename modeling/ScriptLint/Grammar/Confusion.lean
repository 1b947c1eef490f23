import ScriptLint.Grammar.Machine

namespace ScriptLint.Grammar

/-! Which tokens can be taken for one another. Every relation is kept by token symbol as
the set of the tokens it relates to. -/

structure Confusion where
  /-- Fits a text that the other token fits too, and is taken. -/
  same : Array TokenSet
  /-- Can be complete while the other still reads blanks. -/
  beyondBlank : Array TokenSet
  /-- Is complete although the other could read on. -/
  cutsShort : Array TokenSet
  /-- Reads on where the other is complete. -/
  continues : Array TokenSet
  /-- Reads on where the other is complete, over characters that may follow that other. -/
  swallows : Array TokenSet
  together : Array TokenSet
  /-- Letters only, so that the word token reads them. -/
  keywords : TokenSet
  deriving Inhabited

namespace Confusion

/-- Tokens that must not be allowed where `t` is meant to be read. -/
def clashes (c : Confusion) (t : Nat) : TokenSet :=
  c.swallows[t]! ||| c.beyondBlank[t]! ||| c.same[t]!

structure Pair where
  same : Bool
  beyondBlank : Bool
  cutsShort : Bool
  continues : Bool
  swallows : Bool
  deriving Inhabited

abbrev MoveTable := Std.HashMap (Array Nat) (Array Machine.Move)

def compare (m : Machine) (following : Array ClassSet) (i j : Nat) (table : MoveTable) :
    Pair × Pair × MoveTable := Id.run do
  let mut table := table
  let mut pi : Pair := default
  let mut pj : Pair := default
  let first := m.closure #[m.starts[i]!, m.starts[j]!]
  let mut seen : Std.HashMap (Array Nat) Unit := {}
  let mut stack := #[first]
  for _ in [0:100000] do
    match stack.back? with
    | none => break
    | some set =>
      stack := stack.pop
      if set.any (fun k => m.owner[k]! = i) && set.any (fun k => m.owner[k]! = j) then
        let within := m.readsBlank set
        let acceptsI := set.any fun k => m.isAccept k && m.owner[k]! = i
        let acceptsJ := set.any fun k => m.isAccept k && m.owner[k]! = j
        if within && acceptsI then pi := { pi with beyondBlank := true }
        if within && acceptsJ then pj := { pj with beyondBlank := true }
        let complete := m.complete? set
        if acceptsI && acceptsJ then
          if complete == some i then pi := { pi with same := true }
          else pj := { pj with same := true }
        let moves ← match table[set]? with
          | some ms => pure ms
          | none =>
              let ms := m.moves set
              table := table.insert set ms
              pure ms
        for mv in moves do
          let mut follow := true
          if let some t := complete then
            if !(mv.target.any fun k => m.owner[k]! = t) then
              let rank := (m.token t).rank
              let goesOn := mv.rank > rank || (mv.rank = rank && !mv.blank && !within)
              let swallows := mv.chars &&& following[t]! != 0
              if goesOn then
                if t = i then
                  pj := { pj with continues := true, swallows := pj.swallows || swallows }
                else
                  pi := { pi with continues := true, swallows := pi.swallows || swallows }
              else
                follow := false
                if t = i then pi := { pi with cutsShort := true }
                else pj := { pj with cutsShort := true }
          if follow && !seen.contains mv.target then
            seen := seen.insert mv.target ()
            stack := stack.push mv.target
  return (pi, pj, table)

def ofMachine (g : Compiled) (a : Automaton) (m : Machine) : Confusion := Id.run do
  let tokenCount := g.tokenCount
  let regular := m.starts.size
  let first := g.firstTokens
  let last := g.lastTokens
  -- the characters each token begins with, and those that may follow it
  let mut starting : Array ClassSet := #[0]
  for t in [1:regular] do
    starting := starting.push <| (m.closure #[m.starts[t]!]).foldl (fun acc k =>
      match m.instrs[k]! with
      | .read chars _ _ _ => acc ||| chars
      | _ => acc) 0
  let mut followers : Array TokenSet :=
    Array.replicate tokenCount (TokenSet.ofList g.extras)
  let mut seenPairs : Std.HashMap (Nat × Nat) Unit := {}
  for p in g.productions do
    for k in [1:p.steps.size] do
      let a := p.steps[k - 1]!.symbol
      let b := p.steps[k]!.symbol
      if !seenPairs.contains (a, b) then
        seenPairs := seenPairs.insert (a, b) ()
        for t in (last[a]!).members tokenCount do
          followers := followers.modify t (· ||| first[b]!)
  let following := followers.map fun ts =>
    (ts.members regular).foldl (fun acc t => acc ||| starting[t]!) 0
  -- pairs
  let empty : Array TokenSet := Array.replicate tokenCount 0
  let mut same := empty
  let mut beyondBlank := empty
  let mut cutsShort := empty
  let mut continues := empty
  let mut swallows := empty
  let mut table : MoveTable := {}
  for i in [1:regular] do
    for j in [1:i] do
      if starting[i]! &&& starting[j]! != 0 then
        let (pi, pj, table') := compare m following i j table
        table := table'
        for (p, x, y) in [(pi, i, j), (pj, j, i)] do
          if p.same then same := same.modify x (·.insert y)
          if p.beyondBlank then beyondBlank := beyondBlank.modify x (·.insert y)
          if p.cutsShort then cutsShort := cutsShort.modify x (·.insert y)
          if p.continues then continues := continues.modify x (·.insert y)
          if p.swallows then swallows := swallows.modify x (·.insert y)
  -- tokens that some state allows together
  let mut together := empty
  for s in a.states do
    for t in [0:tokenCount] do
      if !(s.actions[t]?.getD []).isEmpty then
        together := together.modify t (· ||| s.tokens)
  let keywords := (List.range regular).foldl (fun acc t =>
    let keyword := t != 0 && t != Compiled.wordToken && (m.token t).isKeyword
    if keyword then acc.insert t else acc) 0
  return { same, beyondBlank, cutsShort, continues, swallows, together, keywords }

/-- The tokens that are read while a script is being repaired: those that take no text from
another token which is never allowed beside them. -/
def repairTokens (c : Confusion) (regular : Nat) : TokenSet := Id.run do
  let all := (List.range regular).drop 1
  let overtakes (i j : Nat) : Bool :=
    ((c.swallows[i]!).contains j || (c.beyondBlank[i]!).contains j)
      && !(c.beyondBlank[j]!).contains i
  let free := all.filter fun i => all.all fun j =>
    j = i || (c.together[i]!).contains j || !overtakes i j
  let freeSet := TokenSet.ofList free
  return TokenSet.ofList <| all.filter fun i =>
    freeSet.contains i || c.keywords.contains i || i = Compiled.wordToken
      || free.all fun t => (c.together[i]!).contains t || !(c.clashes i).contains t

end Confusion

end ScriptLint.Grammar
