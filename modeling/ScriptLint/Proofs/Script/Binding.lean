import ScriptLint.Script.Binding

namespace ScriptLint.Script.Node

/-! What patterns bind, by the children that their kinds look at. -/

theorem boundIn_eq (r : Role) (cs : List Node) :
    boundIn r cs = ((cs.find? fun c => c.role == some r).map bound).getD [] := by
  induction cs with
  | nil => rfl
  | cons c cs ih =>
      by_cases hc : c.role == some r
      · simp [boundIn, hc]
      · simp [boundIn, hc, ih]

theorem boundAll_eq (cs : List Node) :
    boundAll cs = (cs.filter isNamed).flatMap bound := by
  induction cs with
  | nil => rfl
  | cons c cs ih =>
      by_cases hc : c.isNamed <;> simp [boundAll, hc, ih]

theorem bound_eq (n : Node) :
    n.bound =
      match n.kind with
      | .identifier | .shorthandPattern => [n]
      | .assignmentPattern | .objectAssignmentPattern =>
          ((n.child? .left).map bound).getD []
      | .pairPattern => ((n.child? .value).map bound).getD []
      | .objectPattern | .arrayPattern | .restPattern => n.namedChildren.flatMap bound
      | _ => [] := by
  cases n with
  | mk k r s e m cs =>
      cases k <;>
        simp only [bound, kind, child?, namedChildren, children, boundIn_eq, boundAll_eq]

/-- The parts of a pattern that bind what it binds, in order: what is given a default, the
value of a pair, and all that is in a list. -/
def targets (n : Node) : List Node :=
  match n.kind with
  | .assignmentPattern | .objectAssignmentPattern => (n.child? .left).toList
  | .pairPattern => (n.child? .value).toList
  | .objectPattern | .arrayPattern | .restPattern => n.namedChildren
  | _ => []

theorem toList_child?_sublist (n : Node) (r : Role) :
    (n.child? r).toList.Sublist n.children := by
  cases hc : n.child? r with
  | none => exact List.nil_sublist _
  | some c => exact List.singleton_sublist.mpr (List.mem_of_find?_eq_some hc)

theorem targets_sublist (n : Node) : n.targets.Sublist n.children := by
  unfold targets
  split
  · exact n.toList_child?_sublist .left
  · exact n.toList_child?_sublist .left
  · exact n.toList_child?_sublist .value
  · exact List.filter_sublist
  · exact List.filter_sublist
  · exact List.filter_sublist
  · exact List.nil_sublist _

theorem mem_children_of_mem_targets {n c : Node} (hc : c ∈ n.targets) : c ∈ n.children :=
  n.targets_sublist.mem hc

theorem flatMap_toList_eq (o : Option Node) :
    o.toList.flatMap bound = (o.map bound).getD [] := by
  cases o with
  | none => rfl
  | some c => simp

/-- A name binds itself, and every other node what its targets bind. -/
theorem bound_eq_targets (n : Node) :
    n.bound =
      if n.kind = .identifier ∨ n.kind = .shorthandPattern then [n]
      else n.targets.flatMap bound := by
  rw [bound_eq, targets]
  cases n.kind <;> simp [flatMap_toList_eq]

end ScriptLint.Script.Node
