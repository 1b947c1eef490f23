import ScriptLint.Grammar.Merge

namespace ScriptLint.Grammar

/-! Modes of reading: the states of an automaton share a few sets of tokens to look for,
and each set has its own start in one deterministic machine. -/

/-- A deterministic machine for all modes. In `moves`, by state and character class, 0 is
no move and `2 * (s + 1) + b` a move to `s`, over a blank if `b` is 1. -/
structure Reader where
  bounds : Array Nat
  asciiClass : Array Nat
  complete : Array (Option Nat)
  endsText : Array Bool
  moves : Array (Array Nat)
  deriving Inhabited

namespace Reader

def classFrom (bounds : Array Nat) (n : Nat) : Nat := Id.run do
  let mut lo := 0
  let mut hi := bounds.size
  for _ in [0:bounds.size] do
    if lo + 1 ≥ hi then break
    let mid := (lo + hi) / 2
    if bounds[mid]! ≤ n then lo := mid else hi := mid
  return lo

def classOf (r : Reader) (c : Char) : Nat :=
  if c.toNat < 128 then r.asciiClass[c.toNat]! else classFrom r.bounds c.toNat

/-- Determinises the token machine from each set of tokens; gives the start of each set. -/
def ofMachine (m : Machine) (modes : Array TokenSet) : Reader × Array Nat := Id.run do
  let regular := m.starts.size
  let mut ids : Std.HashMap (Array Nat × Bool) Nat := {}
  let mut sets : Array (Array Nat × Bool) := #[]
  let mut starts : Array Nat := #[]
  for mode in modes do
    let tokens := (mode.members regular).filter (· != 0)
    let key := (m.closure (tokens.map (m.starts[·]!)).toArray, mode.contains 0)
    match ids[key]? with
    | some i => starts := starts.push i
    | none =>
        ids := ids.insert key sets.size
        starts := starts.push sets.size
        sets := sets.push key
  let mut complete : Array (Option Nat) := #[]
  let mut moves : Array (Array Nat) := #[]
  for i in [0:100000] do
    if i ≥ sets.size then break
    let (set, endsText) := sets[i]!
    let mut row := Array.replicate m.bounds.size 0
    for mv in m.moves set do
      if m.goesOn set mv then
        let key := (mv.target, endsText && mv.blank)
        let mut id := sets.size
        match ids[key]? with
        | some j => id := j
        | none =>
            ids := ids.insert key id
            sets := sets.push key
        for k in [0:m.bounds.size] do
          if mv.chars.testBit k then
            row := row.set! k (2 * (id + 1) + if mv.blank then 1 else 0)
    complete := complete.push (m.complete? set)
    moves := moves.push row
  return ({ bounds := m.bounds
            asciiClass := (Array.range 128).map (classFrom m.bounds)
            complete := complete
            endsText := sets.map (·.2)
            moves := moves }, starts)

end Reader

namespace Confusion

def barred (c : Confusion) (tokenCount : Nat) : Array TokenSet := Id.run do
  let overlap := (Array.range tokenCount).map fun t =>
    c.beyondBlank[t]! ||| c.cutsShort[t]! ||| c.same[t]! ||| c.continues[t]!
  let mut out : Array TokenSet := #[]
  for t in [0:tokenCount] do
    let mut set := c.clashes t ||| c.cutsShort[t]!
    for e in [0:tokenCount] do
      if !(c.together[t]!).contains e
          && ((overlap[e]!).contains t || (overlap[t]!).contains e) then
        set := set.insert e
    out := out.push set
  return out

def shareMode (barred : Array TokenSet) (tokenCount : Nat) (a b : TokenSet) : Bool :=
  let free (only other : TokenSet) : Bool :=
    (only.members tokenCount).all fun t => t = 0 || (barred[t]! &&& other) = 0
  free (a.without b) b && free (b.without a) a

end Confusion

namespace Automaton

def reachable (a : Automaton) : Array Bool := Id.run do
  let mut seen := (Array.replicate a.states.size false).set! 1 true
  let mut stack := #[1]
  for _ in [0:a.states.size] do
    match stack.back? with
    | none => break
    | some s =>
        stack := stack.pop
        let state := a.states[s]!
        for as in state.actions do
          for x in as do
            if let .shift t _ := x then
              if !seen[t]! then
                seen := seen.set! t true
                stack := stack.push t
        for t in state.gotos do
          if t != 0 && !seen[t]! then
            seen := seen.set! t true
            stack := stack.push t
  return seen

/-- The modes, and the mode of each state. Keywords are read as the word token. -/
def modes (g : Compiled) (c : Confusion) (a : Automaton) (repair : TokenSet) :
    Array TokenSet × Array Nat := Id.run do
  let regular := g.tokens.size + 1
  let readAs (ts : TokenSet) : TokenSet :=
    let ts := TokenSet.ofList (ts.members regular)
    if ts &&& c.keywords = 0 then ts
    else (ts.without c.keywords).insert Compiled.wordToken
  let reachable := a.reachable
  let size (s : Nat) : Nat :=
    let state := a.states[s]!
    (state.actions.foldl (fun n as => if as.isEmpty then n else n + 1) 0)
      + state.gotos.foldl (fun n t => if t = 0 then n else n + 1) 0
  let sizes := (Array.range a.states.size).map size
  let others := ((List.range a.states.size).drop 2).filter (reachable[·]!)
  let order := 0 :: 1 :: others.mergeSort fun s t => decide (sizes[t]! ≤ sizes[s]!)
  let barred := c.barred g.tokenCount
  let mut modes : Array TokenSet := #[]
  let mut modeOf : Array Nat := Array.replicate a.states.size 0
  for s in order do
    let state := a.states[s]!
    let wanted :=
      if s = 0 then (readAs repair).insert 0 else readAs (state.tokens ||| state.words)
    match modes.findIdx? fun m => Confusion.shareMode barred g.tokenCount m wanted with
    | some i =>
        modes := modes.modify i (· ||| wanted)
        modeOf := modeOf.set! s i
    | none =>
        modeOf := modeOf.set! s modes.size
        modes := modes.push wanted
  return (modes, modeOf)

end Automaton

end ScriptLint.Grammar
