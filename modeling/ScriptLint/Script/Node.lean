import ScriptLint.Script.Kind
import ScriptLint.Text.Mark

namespace ScriptLint.Script

open ScriptLint.Text

/-! Syntax trees. A node spans its source from `start` up to the byte `stop`; a missing
node was put in by repair and spans nothing. -/

inductive Node where
  | mk (kind : Kind) (role : Option Role) (start : Mark) (stop : Nat) (missing : Bool)
      (children : List Node)
  deriving Inhabited, Repr

namespace Node

def kind : Node → Kind
  | mk k _ _ _ _ _ => k

def role : Node → Option Role
  | mk _ r _ _ _ _ => r

def start : Node → Mark
  | mk _ _ s _ _ _ => s

def stop : Node → Nat
  | mk _ _ _ e _ _ => e

def missing : Node → Bool
  | mk _ _ _ _ m _ => m

def children : Node → List Node
  | mk _ _ _ _ _ cs => cs

def isNamed (n : Node) : Bool := n.kind.isNamed

def namedChildren (n : Node) : List Node := n.children.filter isNamed

def child? (n : Node) (r : Role) : Option Node :=
  n.children.find? fun c => c.role == some r

def text (source : List Char) (n : Node) : List Char :=
  (slice? source n.start.byte n.stop).getD []

def name (source : List Char) (n : Node) : String := String.ofList (n.text source)

def location (source : List Char) (n : Node) : Location := .ofMark source n.start

/-- Whether the node shows that its source is not of the language. -/
def isFault (n : Node) : Bool := n.kind == .error || n.missing

/-! ### Orders of visiting -/

mutual

/-- All nodes, parents before children and children in order. -/
def preorderAll : Node → List Node
  | mk k r s e m cs => mk k r s e m cs :: preorderAllList cs

def preorderAllList : List Node → List Node
  | [] => []
  | c :: cs => c.preorderAll ++ preorderAllList cs

end

mutual

/-- The nodes that named children lead to, parents before children and children in
order. -/
def preorder : Node → List Node
  | mk k r s e m cs => mk k r s e m cs :: preorderList cs

def preorderList : List Node → List Node
  | [] => []
  | c :: cs => (if c.isNamed then c.preorder else []) ++ preorderList cs

end

mutual

def size : Node → Nat
  | mk _ _ _ _ _ cs => 1 + sizeList cs

def sizeList : List Node → Nat
  | [] => 0
  | c :: cs => c.size + sizeList cs

end

@[simp] theorem sizeList_nil : sizeList [] = 0 := rfl

@[simp] theorem sizeList_cons (c : Node) (cs : List Node) :
    sizeList (c :: cs) = c.size + sizeList cs := rfl

theorem size_eq (n : Node) : n.size = 1 + sizeList n.children := by
  cases n with
  | mk => rfl

theorem sizeList_append (cs ds : List Node) :
    sizeList (cs ++ ds) = sizeList cs + sizeList ds := by
  induction cs with
  | nil => simp
  | cons c cs ih => simp [ih, Nat.add_assoc]

theorem sizeList_filter_le (p : Node → Bool) (cs : List Node) :
    sizeList (cs.filter p) ≤ sizeList cs := by
  induction cs with
  | nil => simp
  | cons c cs ih =>
      by_cases h : p c
      · simp [List.filter_cons_of_pos h, ih]
      · rw [List.filter_cons_of_neg h]
        simp only [sizeList_cons]
        omega

end Node

/-- A visit of a tree under way: the nodes still to be visited, the next one first. -/
structure Walk where
  namedOnly : Bool
  pending : List Node

namespace Walk

def ofNode (namedOnly : Bool) (n : Node) : Walk := ⟨namedOnly, [n]⟩

def next (w : Walk) (n : Node) : List Node :=
  if w.namedOnly then n.namedChildren else n.children

def step? (w : Walk) : Option (Node × Walk) :=
  match w.pending with
  | [] => none
  | n :: rest => some (n, { w with pending := w.next n ++ rest })

def size (w : Walk) : Nat := Node.sizeList w.pending

theorem size_lt_of_step? {w v : Walk} {n : Node}
    (h : w.step? = some (n, v)) : v.size < w.size := by
  unfold step? at h
  split at h
  · simp at h
  · rename_i m rest hp
    simp only [Option.some.injEq, Prod.mk.injEq] at h
    obtain ⟨rfl, rfl⟩ := h
    simp only [size, hp, Node.sizeList_append, Node.sizeList_cons, Node.size_eq]
    have : Node.sizeList (w.next m) ≤ Node.sizeList m.children := by
      unfold next
      split
      · exact Node.sizeList_filter_le _ _
      · exact Nat.le_refl _
    omega

def toList (w : Walk) : List Node :=
  match _h : w.step? with
  | none => []
  | some (n, v) => n :: v.toList
termination_by w.size
decreasing_by exact size_lt_of_step? (by assumption)

def find? (w : Walk) (p : Node → Bool) : Option Node :=
  match _h : w.step? with
  | none => none
  | some (n, v) => if p n then some n else v.find? p
termination_by w.size
decreasing_by exact size_lt_of_step? (by assumption)

end Walk

namespace Node

def findAny? (n : Node) (p : Node → Bool) : Option Node := (Walk.ofNode false n).find? p

def find? (n : Node) (p : Node → Bool) : Option Node := (Walk.ofNode true n).find? p

end Node

end ScriptLint.Script
