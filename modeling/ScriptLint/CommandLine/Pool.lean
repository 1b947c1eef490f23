namespace ScriptLint.CommandLine

/-! Work on the items of a list by several workers at once. The workers finish the items in
any order. What they make of an item goes to its place, and of the errors that they meet
the first is kept. -/

/-- An order in which `n` items are finished, given by their places. -/
structure Order (n : Nat) where
  places : List Nat
  perm : places.Perm (List.range n)

namespace Order

def inTurn (n : Nat) : Order n := ⟨List.range n, .refl _⟩

@[simp] theorem mem_places {n i : Nat} (o : Order n) : i ∈ o.places ↔ i < n := by
  rw [o.perm.mem_iff, List.mem_range]

end Order

abbrev Schedule : Type := (n : Nat) → Order n

structure Pool (β : Type) where
  slots : List (Option β)
  fault : Option String
  deriving Repr

namespace Pool

variable {α β : Type}

def fresh (n : Nat) : Pool β := ⟨List.replicate n none, none⟩

def finish (p : Pool β) (place : Nat) : Except String β → Pool β
  | .ok b => { p with slots := p.slots.set place (some b) }
  | .error e => { p with fault := p.fault <|> some e }

def step (f : α → Except String β) (items : List α) (p : Pool β) (place : Nat) : Pool β :=
  match items[place]? with
  | some a => p.finish place (f a)
  | none => p

def run (f : α → Except String β) (items : List α) (places : List Nat) : Pool β :=
  places.foldl (step f items) (fresh items.length)

def isOver (p : Pool β) : Bool := p.fault.isSome || p.slots.all Option.isSome

/-- What a pool that is over hands on: the error that it kept, or what was made of all
items. -/
def outcome (p : Pool β) : Except String (List β) :=
  match p.fault with
  | some e => .error e
  | none => .ok (p.slots.filterMap id)

def collect (f : α → Except String β) (items : List α) (order : Order items.length) :
    Except String (List β) :=
  (run f items order.places).outcome

end Pool

end ScriptLint.CommandLine
