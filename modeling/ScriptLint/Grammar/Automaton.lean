import ScriptLint.Grammar.Production

namespace ScriptLint.Grammar

/-! The automaton of a grammar: its states are the sets of places in productions that can
be reached by the same symbols, each place with the tokens that may follow its
production. -/

/-- A set of tokens; bit `t` stands for token `t`. -/
abbrev TokenSet := Nat

namespace TokenSet

def singleton (t : Nat) : TokenSet := 1 <<< t

def contains (s : TokenSet) (t : Nat) : Bool := Nat.testBit s t

def insert (s : TokenSet) (t : Nat) : TokenSet := s ||| singleton t

def without (s t : TokenSet) : TokenSet := s ^^^ (s &&& t)

def ofList (ts : List Nat) : TokenSet := ts.foldl insert 0

def members (s : TokenSet) (bound : Nat) : List Nat := (List.range bound).filter s.contains

end TokenSet

/-- What a reduction leaves in the tree: the name and the field of each child. -/
abbrev Layout := Array (Option Alias × Option String)

inductive Action where
  | shift (state : Nat) (repetition : Bool)
  | skip
  | reduce (symbol count : Nat) (weight : Int) (layout : Nat)
  | accept
  deriving DecidableEq, Inhabited, Repr

/-- State 0 is none: it stands for "nowhere" in `gotos`. -/
structure State where
  /-- States with the same places share a core. -/
  core : Nat
  actions : Array (List Action)
  gotos : Array Nat
  tokens : TokenSet
  /-- The words that are no identifiers here. -/
  words : TokenSet
  deriving Inhabited

structure Automaton where
  states : Array State
  layouts : Array Layout

/-! ### Facts about single symbols -/

namespace Compiled

def ruleCount (g : Compiled) : Nat := g.start + 1 - g.firstRule

def wordToken : Nat := 1

/-- Grows `f` along the productions until nothing changes; `pick` says which symbol of a
production counts. -/
def growFrom {α : Type} [BEq α] [Inhabited α] (g : Compiled) (join : α → α → α)
    (value : Array α → Production → α) (f : Array α) : Array α := Id.run do
  let mut f := f
  for _ in [0:g.symbols.size] do
    let mut changed := false
    for p in g.productions do
      let old := f[p.lhs]!
      let new := join old (value f p)
      if new != old then
        f := f.set! p.lhs new
        changed := true
    if !changed then return f
  return f

def firstTokens (g : Compiled) : Array TokenSet :=
  g.growFrom (· ||| ·) (fun f p => (p.steps[0]?.map fun s => f[s.symbol]!).getD 0)
    (Array.ofFn fun (s : Fin g.symbols.size) =>
      if s.val < g.firstRule then TokenSet.singleton s else 0)

def lastTokens (g : Compiled) : Array TokenSet :=
  g.growFrom (· ||| ·) (fun f p => (p.steps.back?.map fun s => f[s.symbol]!).getD 0)
    (Array.ofFn fun (s : Fin g.symbols.size) =>
      if s.val < g.firstRule then TokenSet.singleton s else 0)

/-- The set of words that applies where a text of the symbol begins. -/
def firstWords (g : Compiled) : Array Nat :=
  g.growFrom max
    (fun f p => (p.steps[0]?.map fun s =>
      if g.isRule s.symbol then f[s.symbol]!
      else if s.symbol = wordToken then s.words else 0).getD 0)
    (Array.replicate g.symbols.size 0)

/-- The rules that leave no node but have fields inside. -/
def bearsFields (g : Compiled) : Array Bool :=
  g.growFrom (· || ·)
    (fun f p => p.steps.any fun s =>
      s.field.isSome || (g.isRule s.symbol && g.isHidden s.symbol && f[s.symbol]!))
    (Array.replicate g.symbols.size false)

end Compiled

/-! ### Places in productions -/

/-- A place in a production. Places that nothing ahead of them and nothing in their tree
can tell apart are one item. -/
structure Item where
  lhs : Nat
  production : Nat
  dot : Nat
  next : Option Step
  after : Option Step
  level : Option String
  assoc : Option Assoc
  successor : Nat
  deriving Inhabited

def rankOf (names : Array String) : Option String → Nat
  | none => 0
  | some n => names.findIdx (· == n) + 1

def notAfter (a b : List Nat) : Bool := !b.lex a fun x y => decide (x < y)

structure Items where
  items : Array Item
  itemAt : Array (Array Nat)
  deriving Inhabited

def Items.ofGrammar (g : Compiled) (bearsFields : Array Bool) : Items := Id.run do
  let steps := g.productions.toList.flatMap (·.steps.toList)
  let sorted (names : List String) : Array String :=
    (names.eraseDups.mergeSort fun a b =>
      notAfter (a.toList.map Char.toNat) (b.toList.map Char.toNat)).toArray
  let levels := sorted (steps.filterMap (·.level))
  let fields := sorted (steps.filterMap (·.field))
  let aliases := sorted (steps.filterMap fun s => s.rename.map (·.name))
  let aliasKey (s : Step) : List Nat :=
    [rankOf aliases (s.rename.map (·.name)),
      (s.rename.map fun a => if a.named then 1 else 0).getD 0]
  let assocKey : Option Assoc → Nat
    | none => 0
    | some .left => 1
    | some .right => 2
  let aheadKey (s : Step) : List Nat :=
    [s.symbol, rankOf levels s.level, assocKey s.assoc] ++ aliasKey s
      ++ [rankOf fields s.field, s.words]
  let inherits (s : Step) : Bool :=
    g.isRule s.symbol && g.isHidden s.symbol && bearsFields[s.symbol]!
  -- every place with its key
  let mut places : Array (List Nat × Nat × Nat) := #[]
  for h : i in [0:g.productions.size] do
    let p := g.productions[i]
    let ahead := p.steps.map aheadKey
    for dot in [0:p.steps.size + 1] do
      let behind := (p.steps.extract 0 dot).toList
      let previous := behind.getLast?
      let marked := behind.any inherits
      let key := [dot, p.lhs, (p.dynamic + 8).toNat, p.steps.size,
          rankOf levels (previous.bind (·.level)), assocKey (previous.bind (·.assoc)),
          if marked then 1 else 0]
        ++ behind.flatMap (fun s => aliasKey s ++ [rankOf fields s.field])
        ++ (ahead.extract dot ahead.size).toList.flatten
        ++ (if marked then behind.map (·.symbol) else [])
      places := places.push (key, i, dot)
  let ordered := places.toList.mergeSort fun a b => notAfter a.1 b.1
  let mut items : Array Item := #[]
  let mut itemAt : Array (Array Nat) :=
    g.productions.map fun p => Array.replicate (p.steps.size + 1) 0
  let mut lastKey : List Nat := []
  for (key, i, dot) in ordered do
    if items.isEmpty || key != lastKey then
      let p := g.productions[i]!
      let previous := if dot = 0 then none else p.steps[dot - 1]?
      items := items.push
        { lhs := p.lhs, production := i, dot := dot, next := p.steps[dot]?,
          after := p.steps[dot + 1]?, level := previous.bind (·.level),
          assoc := previous.bind (·.assoc), successor := 0 }
      lastKey := key
    itemAt := itemAt.modify i fun row => row.set! dot (items.size - 1)
  let table := itemAt
  return { items := items.map fun it =>
             { it with successor := (table[it.production]!)[it.dot + 1]?.getD 0 },
           itemAt := table }

/-! ### Sets of tokens by number -/

structure SetPool where
  sets : Array TokenSet
  ids : Std.HashMap (Nat × Nat) Nat
  unions : Std.HashMap Nat Nat

namespace SetPool

def initial : SetPool := ⟨#[0], Std.HashMap.ofList [((0, 0), 0)], {}⟩

def intern (p : SetPool) (s : TokenSet) : Nat × SetPool :=
  let key := (s % 1 <<< 62, s >>> 62)
  match p.ids[key]? with
  | some i => (i, p)
  | none =>
      let i := p.sets.size
      (i, { p with sets := p.sets.push s, ids := p.ids.insert key i })

def union (p : SetPool) (a b : Nat) : Nat × SetPool :=
  if a = b || b = 0 then (a, p)
  else if a = 0 then (b, p)
  else
    let key := if a < b then (a <<< 24) ||| b else (b <<< 24) ||| a
    match p.unions[key]? with
    | some c => (c, p)
    | none =>
        let (c, p) := p.intern (p.sets[a]! ||| p.sets[b]!)
        (c, { p with unions := p.unions.insert key c })

end SetPool

/-- An item with the number of the set that may follow its production and the set of words
that applies there. -/
abbrev Entry := Nat

namespace Entry

def pack (item set words : Nat) : Entry := (item <<< 26) ||| (set <<< 2) ||| words

def item (e : Entry) : Nat := e >>> 26

def set (e : Entry) : Nat := (e >>> 2) &&& 0xFFFFFF

def words (e : Entry) : Nat := e &&& 3

end Entry

/-- What may follow a rule, packed like an entry without its item; `open` parts also take
what may follow the item that asked for the rule. -/
structure Demand where
  rule : Nat
  set : Nat
  words : Nat
  isOpen : Bool
  deriving Inhabited

def demands (g : Compiled) (first words : Array Nat) (rule : Nat) (pool : SetPool) :
    Array Demand × SetPool := Id.run do
  let mut pool := pool
  let mut known : Array (Option Demand) := Array.replicate g.symbols.size none
  known := known.set! rule (some ⟨rule, 0, 0, true⟩)
  let mut order := #[rule]
  for _ in [0:g.symbols.size] do
    let mut changed := false
    for i in [0:g.symbols.size] do
      if let some m := order[i]? then
        let origin := (known[m]!).getD default
        for pi in g.byRule[m]! do
          let p := g.productions[pi]!
          if let some s := p.steps[0]? then
            if g.isRule s.symbol then
              let (set, w, isOpen) := match p.steps[1]? with
                | some n => (first[n.symbol]!, (if g.isRule n.symbol then words[n.symbol]!
                    else if n.symbol = Compiled.wordToken then n.words else 0), false)
                | none => (origin.set, origin.words, origin.isOpen)
              let (old, isNew) := match known[s.symbol]! with
                | some d => (d, false)
                | none => (⟨s.symbol, 0, 0, false⟩, true)
              let (joined, pool') := pool.union old.set set
              pool := pool'
              let new : Demand := ⟨s.symbol, joined, max old.words w, old.isOpen || isOpen⟩
              if isNew then order := order.push s.symbol
              if isNew || new.set != old.set || new.words != old.words
                  || new.isOpen != old.isOpen then
                known := known.set! s.symbol (some new)
                changed := true
    if !changed then break
  return (order.map fun m => (known[m]!).getD default, pool)

/-! ### Precedence -/

/-- Which of two readings a list of levels prefers: `gt` for the left one. -/
def comparePrecedence (levels : List (List (Level × Option Nat)))
    (left : Option String) (leftSymbols : List Nat)
    (right : Option String) (rightSymbols : List Nat) : Ordering :=
  let fits (e : Level × Option Nat) (level : Option String) (symbols : List Nat) : Bool :=
    match e with
    | (.label n, _) => level == some n
    | (.rule _, some s) => symbols.contains s
    | (.rule _, none) => false
  let rec go (sawLeft sawRight : Bool) : List (Level × Option Nat) → Option Ordering
    | [] => none
    | e :: rest =>
        if fits e left leftSymbols then
          if sawRight then some .lt else go true sawRight rest
        else if fits e right rightSymbols then
          if sawLeft then some .gt else go sawLeft true rest
        else go sawLeft sawRight rest
  (levels.findSome? (go false false)).getD .eq

/-! ### States -/

structure Pending where
  actions : List Action
  level : Option String
  symbols : List Nat
  left : Bool
  right : Bool
  neither : Bool
  deriving Inhabited

structure Tables where
  first : Array TokenSet
  items : Array Item

/-- Settles a shift against reductions on `token`, among the items of the state that take
part. -/
def settle (g : Compiled) (t : Tables) (pool : SetPool) (kernel : Array Entry)
    (token : Nat) (pending : Pending) (shift : Option Nat) : List Action := Id.run do
  let some target := shift | return pending.actions
  if pending.actions.isEmpty then return [.shift target false]
  let mut taking : List Nat := []
  let mut rivals : List (Option String × Nat) := []
  for e in kernel do
    let it := t.items[e.item]!
    match it.next with
    | some s =>
        if it.dot > 0 && (t.first[s.symbol]!).testBit token then
          if it.lhs != g.start then taking := it.lhs :: taking
          rivals := (it.level, it.lhs) :: rivals
    | none =>
        if (pool.sets[e.set]!).testBit token && it.lhs != g.start then
          taking := it.lhs :: taking
  let leader := taking.getLastD 0
  if g.isAuxiliary leader && taking.all (· == leader) then
    return pending.actions ++ [.shift target true]
  let orders := rivals.map fun (level, lhs) =>
    comparePrecedence g.levels level [lhs] pending.level pending.symbols
  let more := orders.contains .gt
  let less := orders.contains .lt
  if more && !less then return [.shift target false]
  if less && !more then return pending.actions
  if !less && !more then
    if pending.left && !pending.neither && !pending.right then return pending.actions
    if pending.right && !pending.neither && !pending.left then return [.shift target false]
  return pending.actions ++ [.shift target false]

def Pending.add (g : Compiled) (p : Pending) (it : Item) (action : Action) : Pending :=
  let fresh : Pending := ⟨[action], it.level, [it.lhs], it.assoc == some .left,
    it.assoc == some .right, it.assoc.isNone⟩
  if p.actions.isEmpty then fresh
  else
    match comparePrecedence g.levels it.level [it.lhs] p.level p.symbols with
    | .gt => fresh
    | .lt => p
    | .eq =>
        { actions := p.actions ++ [action]
          level := it.level
          symbols := if p.symbols.contains it.lhs then p.symbols else p.symbols ++ [it.lhs]
          left := p.left || it.assoc == some .left
          right := p.right || it.assoc == some .right
          neither := p.neither || it.assoc.isNone }

def stateLimit : Nat := 40000

def Automaton.ofGrammar (g : Compiled) : Automaton := Id.run do
  let firstSets := g.firstTokens
  let firstWords := g.firstWords
  let bearsFields := g.bearsFields
  let places := Items.ofGrammar g bearsFields
  let items := places.items
  -- layouts
  let layoutKey (p : Production) : Layout × List Nat :=
    (p.steps.map fun s => (s.rename, s.field), (p.steps.toList.filter fun s =>
      g.isRule s.symbol && g.isHidden s.symbol && bearsFields[s.symbol]!).map (·.symbol))
  let mut layoutIds : Std.HashMap (Layout × List Nat) Nat := {}
  let mut layouts : Array Layout := #[]
  let mut layoutOf : Array Nat := #[]
  for p in g.productions do
    let key := layoutKey p
    match layoutIds[key]? with
    | some i => layoutOf := layoutOf.push i
    | none =>
        layoutOf := layoutOf.push layouts.size
        layoutIds := layoutIds.insert key layouts.size
        layouts := layouts.push key.1
  -- sets
  let mut pool := SetPool.initial
  let mut first : Array Nat := #[]
  for s in firstSets do
    let (i, pool') := pool.intern s
    pool := pool'
    first := first.push i
  let mut demanded : Array (Array Demand) := #[]
  for r in [g.firstRule:g.symbols.size] do
    let (ds, pool') := demands g first firstWords r pool
    pool := pool'
    demanded := demanded.push ds
  let tables : Tables := ⟨firstSets, items⟩
  let tokenCount := g.tokenCount
  -- the successors of the first items of each rule
  let openings : Array (Array (Nat × Nat)) := g.byRule.map fun ps => ps.filterMap fun pi =>
    (g.productions[pi]!).steps[0]?.map fun s =>
      (s.symbol, (items[(places.itemAt[pi]!)[0]!]!).successor)
  let openingWords : Array (Option Nat) := g.byRule.map fun ps => ps.foldl
    (fun acc pi => match (g.productions[pi]!).steps[0]? with
      | some s =>
          if s.symbol = Compiled.wordToken then some (max (acc.getD 0) s.words) else acc
      | none => acc) none
  let extras := TokenSet.ofList g.extras
  let actionOf (it : Item) : Action :=
    if it.lhs = g.start then .accept
    else .reduce it.lhs it.dot
      (g.productions[it.production]!).dynamic layoutOf[it.production]!
  -- states
  let (endSet, pool') := pool.intern (TokenSet.singleton 0)
  pool := pool'
  let startItem := (places.itemAt[g.productions.size - 1]!)[0]!
  let startKernel : Array Entry := #[Entry.pack startItem endSet 0]
  let mut kernels : Array (Array Entry) := #[#[], startKernel]
  let mut stateIds : Std.HashMap (Array Entry) Nat := Std.HashMap.ofList [(startKernel, 1)]
  let mut coreIds : Std.HashMap (Array Nat) Nat :=
    Std.HashMap.ofList [(#[], 0), (startKernel.map Entry.item, 1)]
  let mut cores : Array Nat := #[0, 1]
  let mut states : Array State := #[default]
  let mut members : Std.HashMap Nat (List Nat) := {}
  for sid in [1:stateLimit] do
    if sid ≥ kernels.size then break
    let kernel := kernels[sid]!
    -- what may follow each rule that may begin here
    let mut follow : Array Nat := Array.replicate g.ruleCount 0
    let mut present : Array Nat := #[]
    let mut words : Option Nat := none
    for e in kernel do
      let it := items[e.item]!
      match it.next with
      | none =>
          if (pool.sets[e.set]!).testBit Compiled.wordToken then
            words := some (max (words.getD 0) e.words)
      | some s =>
          if s.symbol = Compiled.wordToken then words := some (max (words.getD 0) s.words)
          if g.isRule s.symbol then
            let (set, w) := match it.after with
              | some n =>
                  (first[n.symbol]!,
                    if g.isRule n.symbol then firstWords[n.symbol]!
                    else if n.symbol = Compiled.wordToken then n.words else 0)
              | none => (e.set, e.words)
            for d in demanded[s.symbol - g.firstRule]! do
              let i := d.rule - g.firstRule
              let old := follow[i]!
              let mut joined := d.set
              let mut w' := d.words
              if d.isOpen then
                let (j, pool') := pool.union d.set set
                pool := pool'
                joined := j
                w' := max w' w
              if old = 0 then
                present := present.push d.rule
                -- a followed rule has a non-empty set
                follow := follow.set! i ((joined <<< 2) ||| w')
              else if old != ((joined <<< 2) ||| w') then
                let (j, pool') := pool.union (old >>> 2) joined
                pool := pool'
                follow := follow.set! i ((j <<< 2) ||| max (old &&& 3) w')
    -- the kernels of the next states, by symbol
    let mut buckets : Array (Array Entry) := Array.replicate g.symbols.size #[]
    for e in kernel do
      let it := items[e.item]!
      if let some s := it.next then
        buckets := buckets.modify s.symbol (·.push (Entry.pack it.successor e.set e.words))
    for m in present do
      let f := follow[m - g.firstRule]!
      for (symbol, item) in openings[m]! do
        buckets := buckets.modify symbol (·.push ((item <<< 26) ||| f))
      if let some w := openingWords[m]! then words := some (max (words.getD 0) w)
    -- reductions
    let mut pending : Array Pending := Array.replicate tokenCount default
    for e in kernel do
      let it := items[e.item]!
      if it.next.isNone then
        let tokens ← match members[e.set]? with
          | some ts => pure ts
          | none =>
              let ts := (pool.sets[e.set]!).members tokenCount
              members := members.insert e.set ts
              pure ts
        let action := actionOf it
        for t in tokens do
          pending := pending.modify t fun p => p.add g it action
    for m in present do
      for pi in g.byRule[m]! do
        if (g.productions[pi]!).steps.isEmpty then
          let it := items[(places.itemAt[pi]!)[0]!]!
          for t in (pool.sets[(follow[m - g.firstRule]!) >>> 2]!).members tokenCount do
            pending := pending.modify t fun p => p.add g it (actionOf it)
    -- shifts
    let mut actions : Array (List Action) := Array.replicate tokenCount []
    let mut gotos : Array Nat := Array.replicate g.ruleCount 0
    let mut tokens : TokenSet := 0
    for symbol in [0:g.symbols.size] do
      let bucket := buckets[symbol]!
      let mut target : Option Nat := none
      if !bucket.isEmpty then
        let sorted := if bucket.size = 1 then bucket else bucket.qsort (· < ·)
        let mut next : Array Entry := #[]
        for e in sorted do
          match next.back? with
          | some l =>
              if l.item = e.item then
                let (j, pool') := pool.union l.set e.set
                pool := pool'
                next := next.pop.push (Entry.pack l.item j (max l.words e.words))
              else next := next.push e
          | none => next := next.push e
        match stateIds[next]? with
        | some i => target := some i
        | none =>
            let i := kernels.size
            target := some i
            stateIds := stateIds.insert next i
            kernels := kernels.push next
            let core := next.map Entry.item
            match coreIds[core]? with
            | some c => cores := cores.push c
            | none =>
                cores := cores.push coreIds.size
                coreIds := coreIds.insert core coreIds.size
      if symbol < g.firstRule then
        let p := pending[symbol]!
        if target.isSome || !p.actions.isEmpty then
          actions := actions.set! symbol (settle g tables pool kernel symbol p target)
          tokens := tokens.insert symbol
        else if extras.testBit symbol then
          actions := actions.set! symbol [.skip]
          tokens := tokens.insert symbol
      else if let some i := target then
        gotos := gotos.set! (symbol - g.firstRule) i
    states := states.push
      { core := cores[sid]!, actions := actions, gotos := gotos, tokens := tokens,
        words := (words.map fun w => TokenSet.ofList (g.wordSets.getD w [])).getD 0 }
  return { states := states, layouts := layouts }

end ScriptLint.Grammar
