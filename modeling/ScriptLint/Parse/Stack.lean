import ScriptLint.Parse.Subtree

namespace ScriptLint.Parse

open ScriptLint.Grammar

/-! The stacks of all readings of a text that are still open, joined where they agree. -/

/-- A way down from a node; without a tree where reading was interrupted by an error. -/
structure Link where
  node : Nat
  tree : Option Subtree
  deriving Inhabited

structure StackNode where
  state : Nat
  links : Array Link
  position : Nat
  cost : Nat
  weight : Int
  count : Nat
  deriving Inhabited

def StackNode.agrees (m n : StackNode) : Bool :=
  m.state = n.state && m.position = n.position && m.cost = n.cost

inductive Status where
  | active
  | paused
  | halted
  deriving DecidableEq, Inhabited

structure Landmark where
  position : Nat
  depth : Nat
  state : Nat
  deriving Inhabited

structure Head where
  node : Nat
  countAtError : Nat
  status : Status
  lookahead : Option Subtree
  landmarks : Option (Array Landmark)
  deriving Inhabited

structure Session where
  nodes : Array StackNode
  heads : Array Head
  finished : Option Subtree
  accepted : Nat
  deriving Inhabited

/-- Takes in one more tree for the whole text; of all of them the best one is kept. -/
def Session.finish (s : Session) (root : Option Subtree) : Session :=
  { s with
    accepted := s.accepted + 1
    finished := match s.finished, root with
      | some old, some new => if old.yieldsTo new then some new else some old
      | none, r => r
      | o, none => o }

/-- Whether a finished tree costs less than all readings without an error under way. -/
def Session.hasWinner (s : Session) (least : Option Nat) : Bool :=
  match s.finished, least with
  | some t, some cost => t.cost < cost
  | some _, none => true
  | none, _ => false

structure Context where
  table : Table
  text : Input

abbrev Parser := ReaderT Context (StateM Session)

namespace Parser

/-- How many readings may stay open, and how many more while they are being cut down. -/
def headLimit : Nat := 6
def headOverflow : Nat := 4
def linkLimit : Nat := 8
def pathLimit : Nat := 64

def headCount : Parser Nat := return (← get).heads.size

def head (v : Nat) : Parser Head := return (← get).heads[v]!

def nodeAt (n : Nat) : Parser StackNode := return (← get).nodes[n]!

def top (v : Nat) : Parser StackNode := do nodeAt (← head v).node

def modifyHead (v : Nat) (f : Head → Head) : Parser Unit :=
  modify fun s => { s with heads := s.heads.modify v f }

def setStatus (v : Nat) (status : Status) : Parser Unit :=
  modifyHead v fun h => { h with status }

def addNode (n : StackNode) : Parser Nat :=
  modifyGet fun s => (s.nodes.size, { s with nodes := s.nodes.push n })

def modifyNode (n : Nat) (f : StackNode → StackNode) : Parser Unit :=
  modify fun s => { s with nodes := s.nodes.modify n f }

def treeCost (t : Option Subtree) : Nat := (t.map Subtree.cost).getD 0

def treeWeight (t : Option Subtree) : Int := (t.map (·.facts.weight)).getD 0

def treeCount (t : Option Subtree) : Nat := (t.map Subtree.nodeCount).getD 0

/-- The place behind a tree that is put on a node at `p`. -/
def placeBehind (p : Nat) : Option Subtree → Nat
  | some t => if t.facts.hollow then p else t.facts.stop
  | none => p

/-- Puts a tree on a stack; no tree marks the place of an error. -/
def push (v : Nat) (tree : Option Subtree) (state : Nat) : Parser Unit := do
  let below := (← head v).node
  let b ← nodeAt below
  let count := b.count + treeCount tree
  let n ← addNode
    { state, links := #[⟨below, tree⟩], position := placeBehind b.position tree,
      cost := b.cost + treeCost tree, weight := b.weight + treeWeight tree, count }
  modifyHead v fun h =>
    { h with node := n, countAtError := if tree.isNone then count else h.countAtError }

def equivalent (text : Input) : Option Subtree → Option Subtree → Bool
  | none, none => true
  | some a, some b =>
      let f := a.facts
      let g := b.facts
      f.label == g.label &&
        ((a.cost > 0 && b.cost > 0) ||
          (text.bytesBetween f.origin f.start == text.bytesBetween g.origin g.start
            && text.bytesBetween f.start f.stop == text.bytesBetween g.start g.stop
            && a.children.size == b.children.size && f.extra == g.extra))
  | _, _ => false

/-- Adds a way down to a node, joined with those it has; `fuel` bounds how deep stacks
join. -/
def addLink (fuel : Nat) (self : Nat) (link : Link) : Parser Unit := do
  match fuel with
  | 0 => return
  | fuel + 1 =>
      if link.node = self then return
      let text := (← read).text
      let nodes := (← get).nodes
      let me := nodes[self]!
      let below := nodes[link.node]!
      let alike (old : Link) : Bool := equivalent text old.tree link.tree
        && (old.node = link.node || nodes[old.node]!.agrees below)
      match me.links.findIdx? alike with
      | some i =>
          let old := me.links[i]!
          let weight := below.weight + treeWeight link.tree
          if old.node = link.node then
            if treeWeight link.tree > treeWeight old.tree then
              modifyNode self fun n =>
                { n with links := n.links.set! i { old with tree := link.tree }, weight }
          else
            for l in below.links do
              addLink fuel old.node l
            modifyNode self fun n => { n with weight := max n.weight weight }
      | none =>
          if me.links.size < linkLimit then
            modifyNode self fun n =>
              { n with links := n.links.push link
                       count := max n.count (below.count + treeCount link.tree)
                       weight := max n.weight (below.weight + treeWeight link.tree) }

def canMerge (s : Session) (i j : Nat) : Bool :=
  let a := s.heads[i]!
  let b := s.heads[j]!
  a.status == .active && b.status == .active && s.nodes[a.node]!.agrees s.nodes[b.node]!

def removeHead (v : Nat) : Parser Unit :=
  modify fun s => { s with heads := s.heads.eraseIdxIfInBounds v }

def merge (i j : Nat) : Parser Bool := do
  if !canMerge (← get) i j then return false
  let node := (← head i).node
  let fuel := (← get).nodes.size
  for l in (← top j).links do
    addLink fuel node l
  let n ← nodeAt node
  if n.state = Table.repairState then
    modifyHead i fun h => { h with countAtError := n.count }
  removeHead j
  return true

def replaceHead (i j : Nat) : Parser Unit := do
  if i = j then return
  let new ← head i
  let old ← head j
  let new := if old.landmarks.isSome && new.landmarks.isNone then
    { new with landmarks := old.landmarks } else new
  modify fun s => { s with heads := (s.heads.set! j new).eraseIdxIfInBounds i }

def swapHeads (i j : Nat) : Parser Unit :=
  modify fun s => { s with heads := s.heads.swapIfInBounds i j }

def copyHead (v : Nat) : Parser Nat :=
  modifyGet fun s =>
    (s.heads.size, { s with heads := s.heads.push { s.heads[v]! with landmarks := none } })

def countSinceError (v : Nat) : Parser Nat := do
  let h ← head v
  let n ← nodeAt h.node
  if n.count < h.countAtError then
    modifyHead v fun h => { h with countAtError := n.count }
    return 0
  return n.count - h.countAtError

/-! ### Ways down -/

/-- A way down from a head: the node it has come to, the trees passed, the deepest first,
and how many of them count. -/
structure Path where
  node : Nat
  trees : List Subtree
  count : Nat
  deriving Inhabited

/-- A reading that is left when trees are taken off a stack, with the trees of the first
way down to it and those of further ways. -/
structure Slice where
  head : Nat
  trees : List Subtree
  others : List (List Subtree)
  deriving Inhabited

structure Visit where
  take : Bool
  stop : Bool

def Visit.goOn : Visit := ⟨false, false⟩
def Visit.takeHere : Visit := ⟨true, true⟩
def Visit.giveUp : Visit := ⟨false, true⟩

/-- Files the trees of a way under the reading at its node, which is a new one for the
first way to the node. -/
def addSlice (v : Nat) (node : Nat) (trees : List Subtree) (slices : Array Slice) :
    Parser (Array Slice) := do
  let heads := (← get).heads
  match slices.findIdx? fun s => (heads[s.head]!).node = node with
  | some i => return slices.modify i fun s => { s with others := s.others ++ [trees] }
  | none =>
      let new : Head := ⟨node, heads[v]!.countAtError, .active, none, none⟩
      modify fun s => { s with heads := s.heads.push new }
      return slices.push ⟨heads.size, trees, []⟩

/-- The way on through a link. -/
def Path.along (path : Path) (keepTrees : Bool) (l : Link) : Path :=
  match l.tree with
  | some t =>
      ⟨l.node, if keepTrees then t :: path.trees else path.trees,
        if t.facts.extra then path.count else path.count + 1⟩
  | none => ⟨l.node, path.trees, path.count + 1⟩

/-- Goes on from one of the ways: through the first link in its place, and through the
others as long as there may be more ways. -/
def spread (paths : Array Path) (i : Nat) (keepTrees : Bool) (links : Array Link) :
    Array Path :=
  let path := paths[i]!
  let others := (links.toList.drop 1).take (pathLimit - paths.size)
  (paths ++ others.map (path.along keepTrees)).set! i (path.along keepTrees links[0]!)

structure Descent (σ : Type) where
  slices : Array Slice
  paths : Array Path
  seen : σ

/-- Looks at one of the ways, and goes on from it or leaves it; gives the place of the next
one. -/
def descendOne {σ : Type} (v : Nat) (visit : σ → Path → StackNode → Visit × σ)
    (keepTrees : Bool) (i : Nat) (d : Descent σ) : Parser (Nat × Descent σ) := do
  let path := d.paths[i]!
  let node ← nodeAt path.node
  let (what, seen) := visit d.seen path node
  let slices ←
    if what.take then addSlice v path.node path.trees d.slices else pure d.slices
  if what.stop || node.links.isEmpty then
    return (i, ⟨slices, d.paths.eraseIdxIfInBounds i, seen⟩)
  return (i + 1, ⟨slices, spread d.paths i keepTrees node.links, seen⟩)

/-- Goes down all ways from a head at once and takes off what `visit` says. -/
def descend {σ : Type} (v : Nat) (start : σ) (visit : σ → Path → StackNode → Visit × σ)
    (keepTrees : Bool) : Parser (Array Slice × σ) := do
  let mut d : Descent σ := ⟨#[], #[⟨(← head v).node, [], 0⟩], start⟩
  for _ in [0:(← get).nodes.size + 1] do
    if d.paths.isEmpty then break
    let mut i := 0
    for _ in [0:d.paths.size] do
      let (next, d') ← descendOne v visit keepTrees i d
      i := next
      d := d'
  return (d.slices, d.seen)

def popCount (v n : Nat) : Parser (Array Slice) := do
  let (slices, _) ← descend v ()
    (fun _ p _ => (if p.count = n then .takeHere else .goOn, ())) true
  return slices

def popAll (v : Nat) : Parser (Array Slice) := do
  let (slices, _) ← descend v ()
    (fun _ _ n => (if n.links.isEmpty then ⟨true, false⟩ else .goOn, ())) true
  return slices

def popError (v : Nat) : Parser (Array Slice) := do
  if !((← top v).links.any fun l => (l.tree.map Subtree.isError).getD false) then
    return #[]
  let (slices, _) ← descend v false
    (fun found p _ =>
      match p.trees with
      | [] => (.goOn, found)
      | t :: _ => if !found && t.isError then (.takeHere, true) else (.giveUp, found))
    true
  return slices

def landmarkDepth : Nat := 16

def landmarks (v : Nat) : Parser (Array Landmark) := do
  let (_, found) ← descend v (#[] : Array Landmark)
    (fun found p n =>
      if p.count > landmarkDepth then (.giveUp, found)
      else
        let same := found.toList.reverse.takeWhile fun l => p.count ≤ l.depth
        if same.any fun l => l.depth = p.count && l.state = n.state then (.goOn, found)
        else (.goOn, found.push ⟨n.position, p.count, n.state⟩))
    false
  return found

end Parser

end ScriptLint.Parse
