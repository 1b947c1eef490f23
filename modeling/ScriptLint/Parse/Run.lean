import ScriptLint.Parse.Repair

namespace ScriptLint.Parse

open ScriptLint.Grammar

/-! The parser: all readings of a text are followed side by side, token by token. -/

namespace Parser

/-- The actions of a state for a token: those of the table, or whatever the repair state
takes. -/
inductive Answer where
  | listed (actions : List Action)
  | repair

def answer (table : Table) (state : Nat) (label : Label) : Answer :=
  if state = Table.repairState then
    if handles table state label then .repair else .listed []
  else
    match label with
    | .symbol s => .listed (table.actions state s)
    | _ => .listed []

inductive Outcome where
  | done
  | reduced (new : Option Nat)
  | untouched

def perform (v : Nat) (token : Subtree) : List Action → Outcome → Parser Outcome
  | [], o => return o
  | .shift _ true :: _, o => return o
  | .shift state false :: _, _ => do
      push v (some token) state
      return .done
  | .skip :: _, _ => do
      push v (some token.asExtra) (← top v).state
      return .done
  | .accept :: _, _ => do
      accept v token
      return .done
  | .reduce symbol n w layout :: rest, o => do
      let new ← reduce v symbol n w layout
      let last := match new, o with
        | some r, _ => some r
        | none, .reduced r => r
        | none, _ => none
      perform v token rest (.reduced last)

/-- Whether a keyword is taken as a word where it has no meaning as a keyword. -/
def mayBeWord (table : Table) (state : Nat) (token : Subtree) : Bool :=
  let reserved := match token.label with
    | .symbol s =>
        state != Table.repairState && (table.states.getD state default).words.contains s
    | _ => false
  token.facts.keyword && token.label != .symbol Compiled.wordToken && !reserved
    && handles table state (.symbol Compiled.wordToken)

def asWord (table : Table) (token : Subtree) : Subtree :=
  let label := Label.symbol Compiled.wordToken
  .node
    { token.facts with
      label
      visible := Subtree.visibleLabel table label
      named := true } #[]

def advance (v : Nat) : Parser Unit := do
  let { table, text := _ } ← read
  let mut token ← nextToken v (← top v).state
  for _ in [0:100000] do
    let state := (← top v).state
    match answer table state token.label with
    | .repair =>
        recover v token
        return
    | .listed actions =>
        match ← perform v token actions .untouched with
        | .done => return
        | .reduced (some new) => replaceHead new v
        | .reduced none =>
            setStatus v .halted
            return
        | .untouched =>
            if mayBeWord table state token then token := asWord table token
            else if state = Table.repairState then
              recover v token
              return
            else
              modifyHead v fun h => { h with status := .paused, lookahead := some token }
              return

/-- Compares a reading with those before it, which it may join, beat or lose to; gives the
place of the reading to be looked at next. -/
def contest (i : Nat) (mine : Standing) : Parser Nat := do
  let mut i := i
  let mut j := 0
  for _ in [0:1000] do
    if j ≥ i then break
    match (← standing j).compare mine with
    | .takeLeft =>
        removeHead i
        return i
    | .preferLeft | .neither =>
        if ← merge j i then return i
        j := j + 1
    | .preferRight =>
        if ← merge j i then return i
        swapHeads i j
        j := j + 1
    | .takeRight =>
        removeHead j
        i := i - 1
  return i + 1

/-- Drops the readings that cannot win and joins those that agree. Gives the least cost of
a reading without an error under way. -/
def weed : Parser (Option Nat) := do
  let mut least : Option Nat := none
  let mut i := 0
  for _ in [0:1000] do
    if i ≥ (← headCount) then break
    if (← head i).status == .halted then removeHead i
    else
      let mine ← standing i
      let cheaper := !mine.inError && (least.map (decide <| mine.cost < ·)).getD true
      least := if cheaper then some mine.cost else least
      i ← contest i mine
  return least

/-- Begins the repair of the first paused reading if no other goes on before it, and drops
the other paused ones. Gives the least cost of a reading, given that of `weed`. -/
def resume (least : Option Nat) : Parser (Option Nat) := do
  let mut least := least
  let mut resumed := false
  let mut k := 0
  for _ in [0:(← headCount)] do
    let h ← head k
    if h.status == .paused then
      if !resumed && (← get).accepted < headLimit then
        least := some (errorCost (← get) k)
        modifyHead k fun h => { h with status := .active, lookahead := none }
        h.lookahead.forM (beginRepair k)
        resumed := true
        k := k + 1
      else removeHead k
    else
      resumed := true
      k := k + 1
  return least

def condense : Parser (Option Nat) := do
  let least ← weed
  modify fun s => { s with heads := s.heads.extract 0 headLimit }
  resume least

def advanceAll (steps last : Nat) : Parser Nat := do
  let mut last := last
  let mut v := 0
  for _ in [0:1000] do
    if v ≥ (← headCount) then break
    for _ in [0:steps] do
      if (← head v).status != .active then break
      advance v
      let p := (← top v).position
      if p > last || (v > 0 && p = last) then
        last := p
        break
    v := v + 1
  return last

def follow (steps : Nat) : Parser Unit := do
  let mut last := 0
  for _ in [0:steps] do
    last ← advanceAll steps last
    let exhausted := (← headCount) == 0
    let least ← condense
    let won := (← get).hasWinner least
    if won || exhausted || (← headCount) == 0 then return

end Parser

/-- Nothing has been read yet. -/
def Session.start : Session :=
  { nodes := #[⟨Table.startState, #[], 0, 0, 0, 0⟩]
    heads := #[⟨0, 0, .active, none, none⟩]
    finished := none
    accepted := 0 }

/-- A tree for every text; where the text does not fit the grammar, the tree holds
errors. -/
def parse (table : Table) (text : Input) : Subtree :=
  let follow := Parser.follow (64 * text.size + 4096)
  let final := (StateT.run (ReaderT.run follow ⟨table, text⟩) Session.start).2
  final.finished.getD (.branch table text .error #[] none 0)

end ScriptLint.Parse
