import ScriptLint.Parse.Stack
import ScriptLint.Parse.Scanner

namespace ScriptLint.Parse

open ScriptLint.Grammar

/-! The next token of an open reading. -/

/-- What the reader found from a place on: a token, if any, where it would begin, and how
far the text was looked at. -/
structure Reading where
  token : Option (Nat × Nat × Nat)
  start : Nat
  reached : Nat

namespace Input

/-- Reads the longest token in the reader's `state`. A null character is part of no
token. -/
def read (t : Input) (r : Reader) (state start p : Nat) (best : Option (Nat × Nat × Nat)) :
    Reading :=
  let best := (r.complete.getD state none).elim best fun token => some (token, start, p)
  if h : p < t.chars.size then
    let c := t.chars[p]
    let move := if isNul c then 0 else (r.moves.getD state #[]).getD (r.classOf c) 0
    if move = 0 then ⟨best, start, p⟩
    else
      let start := if move % 2 = 1 then p + 1 else start
      t.read r (move / 2 - 1) start (p + 1) best
  else if r.endsText.getD state false then ⟨some (0, start, p), start, p⟩
  else ⟨best, start, p⟩
termination_by t.chars.size - p

def slice (t : Input) (start stop : Nat) : String :=
  String.ofList (t.chars.extract start stop).toList

end Input

namespace Parser

def handles (table : Table) (state : Nat) (label : Label) : Bool :=
  match label with
  | .symbol s =>
      if state = Table.repairState then
        s = 0 || table.grammar.tokens.size < s || table.repair.contains s
      else !(table.actions state s).isEmpty
  | _ => false

def nextState (table : Table) (state symbol : Nat) : Nat :=
  if table.grammar.isRule symbol then
    if state = Table.repairState then 0 else table.goto state symbol
  else if state = Table.repairState then 0
  else
    match (table.actions state symbol).getLast? with
    | some (.shift s _) => s
    | some .skip => state
    | _ => 0

/-- Whether a stack has taken some text, down to where it had `countAtError` nodes. -/
def takesText (text : Input) (s : Session) (countAtError : Nat) : Nat → StackNode → Bool
  | 0, _ => false
  | fuel + 1, node =>
      match node.links[0]? with
      | some (Link.mk below (some t)) =>
          (!t.facts.hollow && text.bytesBetween t.facts.origin t.facts.stop > 0)
            || (node.count > countAtError && t.cost = 0
              && takesText text s countAtError fuel s.nodes[below]!)
      | _ => false

def advancedSinceError (text : Input) (s : Session) (v : Nat) : Bool :=
  let h := s.heads[v]!
  let first := s.nodes[h.node]!
  first.cost = 0 || takesText text s h.countAtError s.nodes.size first

/-- The token found by the scanner's own rules, unless it is empty and leads nowhere
new. -/
def scanned? (c : Context) (s : Session) (v state mode position : Nat) : Option Found :=
  let allowed := Allowed.ofState c.table mode
  if !allowed.any then none
  else (Scanner.scan? c.text allowed position).filter fun found =>
    position < found.stop ||
      let next := nextState c.table state (c.table.grammar.scannedSymbol found.token)
      mode != Table.repairState && next != state && advancedSinceError c.text s v

/-- A token read in the mode of some state, or as much text as must be skipped to find
one. -/
inductive Lexeme where
  | scanned (f : Found)
  | token (symbol start stop : Nat)
  | skipped (start stop : Nat)

/-- Looks for a token from `position` on in the mode of a state; then from `opening` on in
that of the repair state, and there behind more and more text. -/
def lookFor (c : Context) (s : Session) (v state opening : Nat) :
    Nat → Nat → Nat → Option (Nat × Nat) → Lexeme
  | 0, _, _, _ => .skipped opening c.text.size
  | fuel + 1, mode, position, skipping =>
      let found (l : Lexeme) : Lexeme :=
        match skipping with
        | some (start, stop) => .skipped start stop
        | none => l
      match scanned? c s v state mode position with
      | some f => found (.scanned f)
      | none =>
          let r := c.text.read c.table.reader (c.table.states.getD mode default).mode
            position position none
          match r.token with
          | some (symbol, start, stop) => found (.token symbol start stop)
          | none =>
              if mode != Table.repairState then
                lookFor c s v state opening fuel Table.repairState opening skipping
              else
                let (start, stop) := skipping.getD (r.start, r.start)
                if r.reached = stop && r.reached ≥ c.text.size then
                  .skipped start r.reached
                else
                  let reached := if r.reached = stop then r.reached + 1 else r.reached
                  lookFor c s v state opening fuel mode reached (some (start, reached))

def lexeme (c : Context) (s : Session) (v state origin : Nat) : Lexeme :=
  -- a byte order mark is no part of the text
  let opening := if origin = 0 && c.text.peek 0 == '\uFEFF' then 1 else origin
  lookFor c s v state opening (c.text.size + 3) state opening none

/-- A word that is a keyword counts as one where the state takes it or reserves it. -/
def Lexeme.toTree (c : Context) (state origin : Nat) : Lexeme → Subtree
  | .skipped start stop => .leaf c.table .error origin start stop
  | .scanned f =>
      .leaf c.table (.symbol (c.table.grammar.scannedSymbol f.token)) origin f.start f.stop
  | .token symbol start stop =>
      let keyword? :=
        if symbol = Compiled.wordToken then c.table.keywords[c.text.slice start stop]?
        else none
      match keyword? with
      | some k =>
          let words := (c.table.states.getD state default).words
          let taken := state = Table.repairState || words.contains k
            || handles c.table state (.symbol k)
          let leaf :=
            Subtree.leaf c.table (.symbol (if taken then k else symbol)) origin start stop
          .node { leaf.facts with keyword := true } #[]
      | none => .leaf c.table (.symbol symbol) origin start stop

/-- The next token of a reading in some state. -/
def nextToken (v : Nat) (state : Nat) : Parser Subtree := do
  let c ← read
  let s ← get
  let origin := (← top v).position
  return (lexeme c s v state origin).toTree c state origin

end Parser

end ScriptLint.Parse
