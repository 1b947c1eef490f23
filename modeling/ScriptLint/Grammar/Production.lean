import ScriptLint.Grammar.Expr
import Std.Data.HashMap

namespace ScriptLint.Grammar

/-! From rules to productions: tokens are numbered, repetitions get rules of their own,
choices are multiplied out, and inlined rules are replaced by their bodies. -/

inductive Visibility where
  | named
  | anonymous
  | hidden
  | auxiliary
  deriving DecidableEq, Inhabited, Repr

structure SymbolInfo where
  name : String
  visibility : Visibility
  deriving Inhabited, Repr

structure Step where
  symbol : Nat
  level : Option String
  assoc : Option Assoc
  rename : Option Alias
  field : Option String
  words : Nat
  deriving BEq, Hashable, Inhabited, Repr

structure Production where
  lhs : Nat
  steps : Array Step
  dynamic : Int
  deriving BEq, Hashable, Inhabited, Repr

/-- A grammar over numbered symbols: 0 is the end of input, 1 the word token, then the
other tokens in order of first mention, the scanned tokens, the rules, and last the
start. -/
structure Compiled where
  symbols : Array SymbolInfo
  /-- Token `i` of this array is symbol `i + 1`. -/
  tokens : Array Token
  firstRule : Nat
  start : Nat
  productions : Array Production
  byRule : Array (Array Nat)
  extras : List Nat
  /-- Symbols of the rules that leave no node of their own though they have a plain
  name. -/
  unseen : List Nat
  levels : List (List (Level × Option Nat))
  wordSets : Array (List Nat)
  watched : List Nat
  blanks : Shape
  deriving Inhabited

namespace Compiled

def isRule (g : Compiled) (s : Nat) : Bool := g.firstRule ≤ s

def tokenCount (g : Compiled) : Nat := g.firstRule

def info (g : Compiled) (s : Nat) : SymbolInfo := g.symbols.getD s default

def isAuxiliary (g : Compiled) (s : Nat) : Bool :=
  g.isRule s && (g.info s).visibility == .auxiliary

def isHidden (g : Compiled) (s : Nat) : Bool :=
  match (g.info s).visibility with
  | .hidden | .auxiliary => true
  | _ => false

def scannedSymbol (g : Compiled) (s : Scanned) : Nat :=
  g.tokens.size + 1 + (Scanned.all.idxOf s)

end Compiled

/-! ### Tokens in order of first mention -/

namespace Expr

def mentions : Expr → List Token
  | .empty | .scanned _ | .ref _ => []
  | .token t => [t]
  | .seq a b | .alt a b => a.mentions ++ b.mentions
  | .many1 e | .prec _ e | .assoc _ e | .dynamic _ e => e.mentions
  | .field _ e | .rename _ e | .words _ e => e.mentions

def substitute (f : String → Option Expr) : Expr → Expr
  | .ref n => (f n).getD (.ref n)
  | .seq a b => .seq (a.substitute f) (b.substitute f)
  | .alt a b => .alt (a.substitute f) (b.substitute f)
  | .many1 e => .many1 (e.substitute f)
  | .prec l e => .prec l (e.substitute f)
  | .assoc s e => .assoc s (e.substitute f)
  | .dynamic w e => .dynamic w (e.substitute f)
  | .field n e => .field n (e.substitute f)
  | .rename n e => .rename n (e.substitute f)
  | .words s e => .words s (e.substitute f)
  | e => e

/-! ### Repetitions -/

abbrev Repeats := Array (Expr × String)

/-- Replaces every repetition by a reference to a rule for it; equal bodies share one
rule. -/
def liftRepeats (owner : String) : Expr → Nat × Repeats → Expr × Nat × Repeats
  | .seq a b, st =>
      let (a', st) := a.liftRepeats owner st
      let (b', st) := b.liftRepeats owner st
      (.seq a' b', st)
  | .alt a b, st =>
      let (a', st) := a.liftRepeats owner st
      let (b', st) := b.liftRepeats owner st
      (.alt a' b', st)
  | .many1 e, st =>
      let (e', count, reps) := e.liftRepeats owner st
      match reps.find? (·.1 == e') with
      | some (_, name) => (.ref name, count, reps)
      | none =>
          let name := owner ++ "_repeat" ++ toString (count + 1)
          (.ref name, count + 1, reps.push (e', name))
  | .prec l e, st => let (e', st) := e.liftRepeats owner st; (.prec l e', st)
  | .assoc s e, st => let (e', st) := e.liftRepeats owner st; (.assoc s e', st)
  | .dynamic w e, st => let (e', st) := e.liftRepeats owner st; (.dynamic w e', st)
  | .field n e, st => let (e', st) := e.liftRepeats owner st; (.field n e', st)
  | .rename n e, st => let (e', st) := e.liftRepeats owner st; (.rename n e', st)
  | .words n e, st => let (e', st) := e.liftRepeats owner st; (.words n e', st)
  | e, st => (e, st)

/-! ### Alternatives -/

structure Context where
  level : Option String := none
  assoc : Option Assoc := none
  rename : Option Alias := none
  field : Option String := none
  words : Nat := 0
  deriving Inhabited

def heavier (a b : Int) : Int := if a.natAbs < b.natAbs then b else a

def mapLast (f : Step → Step) (steps : List Step) : List Step :=
  match steps.reverse with
  | [] => []
  | s :: rest => (f s :: rest).reverse

/-- The sequences of symbols an expression stands for, each with its weight. An annotation
of precedence reaches the last symbol under it only when nothing follows it in its rule. -/
def alternatives (symbolOf : Expr → Nat) : Expr → Context → Bool → List (List Step × Int)
  | .empty, _, _ => [([], 0)]
  | e@(.token _), c, _ | e@(.scanned _), c, _ | e@(.ref _), c, _ =>
      [([{ symbol := symbolOf e, level := c.level, assoc := c.assoc, rename := c.rename,
           field := c.field, words := c.words }], 0)]
  | .seq a b, c, atEnd =>
      (a.alternatives symbolOf c false).flatMap fun (xs, v) =>
        (b.alternatives symbolOf c atEnd).map fun (ys, w) => (xs ++ ys, heavier v w)
  | .alt a b, c, atEnd =>
      a.alternatives symbolOf c atEnd ++ b.alternatives symbolOf c atEnd
  | .many1 e, c, atEnd => e.alternatives symbolOf c atEnd
  | .prec l e, c, atEnd =>
      (e.alternatives symbolOf { c with level := some l } atEnd).map fun (xs, w) =>
        (if atEnd then xs else mapLast (fun s => { s with level := c.level }) xs, w)
  | .assoc a e, c, atEnd =>
      (e.alternatives symbolOf { c with assoc := some a } atEnd).map fun (xs, w) =>
        (if atEnd then xs else mapLast (fun s => { s with assoc := c.assoc }) xs, w)
  | .dynamic v e, c, atEnd =>
      (e.alternatives symbolOf c atEnd).map fun (xs, w) => (xs, heavier v w)
  | .field n e, c, atEnd => e.alternatives symbolOf { c with field := some n } atEnd
  | .rename n e, c, atEnd => e.alternatives symbolOf { c with rename := some n } atEnd
  | .words n e, c, atEnd => e.alternatives symbolOf { c with words := n } atEnd

end Expr

/-! ### Inlining -/

/-- One production with its first inlined symbol replaced in every way, until none is
left. -/
def inlineSteps (bodies : Nat → Option (List (List Step × Int))) :
    Nat → List Step × Int → List (List Step × Int)
  | 0, p => [p]
  | fuel + 1, (steps, weight) =>
      match steps.span fun s => (bodies s.symbol).isNone with
      | (_, []) => [(steps, weight)]
      | (before, removed :: after) =>
          ((bodies removed.symbol).getD []).flatMap fun (body, w) =>
            let body := body.map fun s =>
              { s with
                rename := removed.rename <|> s.rename
                field := removed.field <|> s.field }
            let body := Expr.mapLast
              (fun s => { s with level := s.level <|> removed.level,
                                 assoc := s.assoc <|> removed.assoc }) body
            inlineSteps bodies fuel (before ++ body ++ after, Expr.heavier weight w)

/-! ### The whole grammar -/

def countedTokens (g : Grammar) : Array (Token × Nat) :=
  let all := g.rules.flatMap (fun r => r.2.mentions) ++ g.watched.flatMap Expr.mentions
  all.foldl
    (fun acc t =>
      match acc.findIdx? (·.1 == t) with
      | some i => acc.modify i fun (t, n) => (t, n + 1)
      | none => acc.push (t, 1))
    #[]

/-- The rules that only name a token which nothing else mentions. -/
def tokenRules (g : Grammar) (counted : Array (Token × Nat)) : List (String × Token) :=
  (g.rules.drop 1).filterMap fun (name, body) =>
    match body with
    | .token t =>
        if counted.any (fun (u, n) => u == t && n == 1) then some (name, t) else none
    | _ => none

def compile (g : Grammar) : Compiled :=
  let counted := g.countedTokens
  let named := g.tokenRules counted
  let wordToken := (named.lookup g.word).getD default
  let tokens := #[wordToken] ++ (counted.map (·.1)).filter (· != wordToken)
  let resolve := Expr.substitute fun n => (named.lookup n).map .token
  let rules := (g.rules.filter fun r => (named.lookup r.1).isNone).map
    fun (n, e) => (n, resolve e)
  -- repetitions
  let (rules, repeats) := rules.foldl
    (fun (acc : List (String × Expr) × Expr.Repeats) (n, e) =>
      let (e', _, reps) := e.liftRepeats n (0, acc.2)
      (acc.1 ++ [(n, e')], reps))
    ([], #[])
  let repeatRules :=
    repeats.toList.map fun (e, n) => (n, Expr.alt (.seq (.ref n) (.ref n)) e)
  let allRules := rules ++ repeatRules
  -- numbering
  let firstRule := tokens.size + 1 + Scanned.all.length
  let start := firstRule + allRules.length
  let ruleIndex : Std.HashMap String Nat :=
    Std.HashMap.ofList (allRules.mapIdx fun i r => (r.1, firstRule + i))
  let tokenIndex : Std.HashMap Token Nat :=
    Std.HashMap.ofList (tokens.toList.mapIdx fun i t => (t, i + 1))
  let symbolOf : Expr → Nat
    | .token t => tokenIndex.getD t 0
    | .scanned s => tokens.size + 1 + Scanned.all.idxOf s
    | .ref n => ruleIndex.getD n 0
    | _ => 0
  let isPlain (n : String) : Bool := !(n.startsWith "_") && !g.unseen.contains n
  let tokenInfo (t : Token) : SymbolInfo :=
    match named.find? (·.2 == t) with
    | some (n, _) => ⟨n, .named⟩
    | none => match t.spelling with
      | some s => ⟨s, .anonymous⟩
      | none => ⟨"_token", .hidden⟩
  let scannedInfo (s : Scanned) : SymbolInfo :=
    ⟨s.name, if s.name.startsWith "_" then .hidden else .named⟩
  let ruleInfo (i : Nat) (n : String) : SymbolInfo :=
    ⟨n, if rules.length ≤ i then .auxiliary else if isPlain n then .named else .hidden⟩
  let symbols : Array SymbolInfo :=
    #[⟨"end", .hidden⟩] ++ tokens.map tokenInfo ++ (Scanned.all.map scannedInfo).toArray
      ++ (allRules.mapIdx fun i r => ruleInfo i r.1).toArray ++ #[⟨"start", .auxiliary⟩]
  -- productions
  let flat : Array (List (List Step × Int)) := (allRules.map fun (_, e) =>
    (e.alternatives symbolOf {} true).eraseDups).toArray
  let inlined := g.inlined.map fun n => ruleIndex.getD n 0
  let bodies (s : Nat) : Option (List (List Step × Int)) :=
    if inlined.contains s then flat[s - firstRule]? else none
  let productions : Array Production := Id.run do
    let mut acc := #[]
    for h : i in [0:flat.size] do
      if !inlined.contains (firstRule + i) then
        for (steps, w) in (flat[i].flatMap (inlineSteps bodies 64)).eraseDups do
          acc := acc.push { lhs := firstRule + i, steps := steps.toArray, dynamic := w }
    let whole : Step := { (default : Step) with symbol := firstRule }
    return acc.push { lhs := start, steps := #[whole], dynamic := 0 }
  let byRule : Array (Array Nat) := Id.run do
    let mut acc := Array.replicate (start + 1) #[]
    for h : i in [0:productions.size] do
      acc := acc.modify productions[i].lhs (·.push i)
    return acc
  { symbols := symbols
    tokens := tokens
    firstRule := firstRule
    start := start
    productions := productions
    byRule := byRule
    extras := g.extras.map fun e => symbolOf (resolve e)
    unseen := g.unseen.map fun n => ruleIndex.getD n 0
    levels := g.levels.map fun l => l.map fun
      | .label n => (.label n, none)
      | .rule n => (.rule n, ruleIndex.get? n)
    wordSets :=
      (g.wordSets.map fun ws => ws.map fun w => symbolOf (.token (.ofText w))).toArray
    watched := g.watched.map fun e => symbolOf (resolve e)
    blanks := g.blanks }

end ScriptLint.Grammar
