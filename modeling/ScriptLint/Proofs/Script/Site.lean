import ScriptLint.Proofs.Check.Comments

namespace ScriptLint.Script

/-! The places of a tree: each node with what is around it. What a call calls is told from
its arguments by its place. -/

/-- A place in a tree: a node, the node around it, and the children of that node before
it. -/
structure Site where
  parent : Option Node
  front : List Node
  node : Node

def Site.IsCallee (t : Site) : Prop :=
  t.parent.map Node.kind = some .callExpression ∧ t.node.role = some .function ∧
    ∀ c ∈ t.front, c.role ≠ some .function

instance : DecidablePred Site.IsCallee := fun t =>
  inferInstanceAs (Decidable (_ = some Kind.callExpression ∧ _ = some Role.function ∧
    ∀ c ∈ t.front, c.role ≠ some .function))

namespace Node

variable {n p : Node} {cs front : List Node} {parent : Option Node}

mutual

/-- The places that named children lead to, in the order of `preorder`. -/
def sites (parent : Option Node) (front : List Node) : Node → List Site
  | mk k r s e m cs =>
      ⟨parent, front, mk k r s e m cs⟩ :: sitesAmong (mk k r s e m cs) [] cs

def sitesAmong (parent : Node) (front : List Node) : List Node → List Site
  | [] => []
  | c :: cs =>
      (if c.isNamed then c.sites (some parent) front else []) ++
        sitesAmong parent (front ++ [c]) cs

end

theorem sites_eq (parent : Option Node) (front : List Node) (n : Node) :
    n.sites parent front = ⟨parent, front, n⟩ :: sitesAmong n [] n.children := by
  cases n
  rfl

theorem withCalledList_eq_map_sitesAmong (front : List Node)
    (ih : ∀ c ∈ cs, ∀ parent front,
      c.withCalled (decide (Site.IsCallee ⟨parent, front, c⟩)) =
        (c.sites parent front).map fun t => (decide t.IsCallee, t.node)) :
    withCalledList
        (decide (p.kind = .callExpression ∧ ∀ c ∈ front, c.role ≠ some .function)) cs =
      (sitesAmong p front cs).map fun t => (decide t.IsCallee, t.node) := by
  induction cs generalizing front with
  | nil => rfl
  | cons c cs ihcs =>
      have hcallee :
          (decide (p.kind = .callExpression ∧ ∀ d ∈ front, d.role ≠ some .function) &&
          c.role == some .function) = decide (Site.IsCallee ⟨some p, front, c⟩) := by
        rw [Bool.eq_iff_iff]
        simp only [Bool.and_eq_true, decide_eq_true_iff, beq_iff_eq, Site.IsCallee,
          Option.map_some, Option.some.injEq]
        tauto
      have hcall :
          (decide (p.kind = .callExpression ∧ ∀ d ∈ front, d.role ≠ some .function) &&
          !decide (Site.IsCallee ⟨some p, front, c⟩)) =
          decide (p.kind = .callExpression ∧
            ∀ d ∈ front ++ [c], d.role ≠ some .function) := by
        rw [Bool.eq_iff_iff]
        simp only [Bool.and_eq_true, Bool.not_eq_true', decide_eq_true_iff,
          decide_eq_false_iff_not, Site.IsCallee, Option.map_some, Option.some.injEq,
          List.forall_mem_append, List.forall_mem_singleton]
        tauto
      have hrest := ihcs (front ++ [c]) fun d hd => ih d (List.mem_cons_of_mem _ hd)
      rw [withCalledList, sitesAmong, List.map_append, ← hrest]
      simp only [hcallee, hcall]
      by_cases hnamed : c.isNamed = true
      · rw [if_pos hnamed, if_pos hnamed, ih c List.mem_cons_self]
      · rw [if_neg hnamed, if_neg hnamed, List.map_nil]

/-- The walk that tells what is called goes through the places of the tree. -/
theorem withCalled_eq_map_sites (parent : Option Node) (front : List Node) (n : Node) :
    n.withCalled (decide (Site.IsCallee ⟨parent, front, n⟩)) =
      (n.sites parent front).map fun t => (decide t.IsCallee, t.node) := by
  induction n using induct generalizing parent front with
  | h n ih =>
      have hlist := withCalledList_eq_map_sitesAmong (p := n) [] ih
      have hcall : decide (n.kind = .callExpression ∧
          ∀ c ∈ ([] : List Node), c.role ≠ some .function) =
          (n.kind == .callExpression) := by
        rw [Bool.eq_iff_iff]
        simp
      rw [withCalled_eq, sites_eq, List.map_cons, ← hlist, hcall]

theorem map_node_sites (parent : Option Node) (front : List Node) (n : Node) :
    (n.sites parent front).map Site.node = n.preorder := by
  rw [← map_snd_withCalled (decide (Site.IsCallee ⟨parent, front, n⟩)),
    withCalled_eq_map_sites, List.map_map]
  rfl

end Node

end ScriptLint.Script
