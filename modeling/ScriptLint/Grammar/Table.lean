import ScriptLint.Grammar.Mode

namespace ScriptLint.Grammar

/-! Everything a parser needs to know of a grammar, worked out once. -/

structure TableState where
  actions : Array (List Action)
  gotos : Array Nat
  words : TokenSet
  /-- The tokens of the scanner's own rules, and those that these rules look at. -/
  valid : TokenSet
  mode : Nat
  deriving Inhabited

structure Table where
  grammar : Compiled
  states : Array TableState
  layouts : Array Layout
  reader : Reader
  visible : Array Bool
  named : Array Bool
  repair : TokenSet
  keywords : Std.HashMap String Nat
  deriving Inhabited

namespace Table

/-- The state in which a script is repaired, and the first state. -/
def repairState : Nat := 0
def startState : Nat := 1

def ofGrammar (grammar : Grammar) : Table :=
  let g := grammar.compile
  let canonical := Automaton.ofGrammar g
  let machine := Machine.ofGrammar g
  let confusion := Confusion.ofMachine g canonical machine
  let repair := confusion.repairTokens machine.starts.size
  let automaton := (canonical.merge g confusion).skipPassing g
  let (modes, modeOf) := automaton.modes g confusion repair
  let (reader, starts) := Reader.ofMachine machine modes
  let own := TokenSet.ofList
    (g.watched ++ (List.range g.tokenCount).filter fun t => g.tokens.size < t)
  { grammar := g
    states := automaton.states.mapIdx fun i s =>
      { actions := s.actions, gotos := s.gotos, words := s.words
        valid := if i = 0 then own else s.tokens &&& own
        mode := starts[modeOf[i]!]! }
    layouts := automaton.layouts
    reader := reader
    visible := g.symbols.mapIdx fun i s =>
      i != 0 && (s.visibility == .named || s.visibility == .anonymous)
    named := g.symbols.map fun s => s.visibility == .named
    repair := repair
    keywords := Std.HashMap.ofList
      ((confusion.keywords.members g.tokenCount).map fun t => ((g.info t).name, t)) }

/-- The actions of a state on a token; none of them in the repair state. -/
def actions (t : Table) (state token : Nat) : List Action :=
  if h : state < t.states.size then
    (t.states[state].actions[token]?).getD []
  else []

/-- Where a state goes over a rule; 0 is nowhere. -/
def goto (t : Table) (state rule : Nat) : Nat :=
  if h : state < t.states.size then
    (t.states[state].gotos[rule - t.grammar.firstRule]?).getD 0
  else 0

def isVisible (t : Table) (symbol : Nat) : Bool := t.visible.getD symbol false

def isNamed (t : Table) (symbol : Nat) : Bool := t.named.getD symbol false

end Table

end ScriptLint.Grammar
