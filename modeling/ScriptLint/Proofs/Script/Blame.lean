import ScriptLint.Proofs.Script.Binding
import ScriptLint.Proofs.Script.Scope

namespace ScriptLint.Script

/-! Early errors are found at nodes of the tree. -/

variable {source : List Char} {root n d : Node}

namespace Node

theorem mem_preorderAll_of_mem_namedChildren {c : Node} (hc : c ∈ n.namedChildren) :
    c ∈ n.preorderAll :=
  mem_preorderAll_of_child (mem_namedChildren.mp hc).1 (self_mem_preorderAll c)

theorem mem_children_of_child? {r : Role} {c : Node} (hc : n.child? r = some c) :
    c ∈ n.children :=
  List.mem_of_find?_eq_some hc

theorem mem_preorderAll_of_mem_bound (hd : d ∈ n.bound) : d ∈ n.preorderAll := by
  induction n using induct with
  | h n ih =>
      rw [bound_eq_targets] at hd
      split at hd
      · obtain rfl := List.mem_singleton.mp hd
        exact self_mem_preorderAll d
      · obtain ⟨c, hc, hd⟩ := List.mem_flatMap.mp hd
        have hchild := mem_children_of_mem_targets hc
        exact mem_preorderAll_of_child hchild (ih c hchild hd)

theorem mem_preorderAll_of_mem_declarators (hd : d ∈ n.declarators) : d ∈ n.preorderAll :=
  mem_preorderAll_of_mem_namedChildren (List.mem_of_mem_filter hd)

theorem mem_preorderAll_of_mem_declared (hd : d ∈ n.declared) : d ∈ n.preorderAll := by
  obtain ⟨declarator, hdeclarator, hd⟩ := List.mem_flatMap.mp hd
  refine mem_preorderAll_trans ?_ (mem_preorderAll_of_mem_declarators hdeclarator)
  cases hname : declarator.child? .name with
  | none => simp [hname] at hd
  | some name =>
      have hbound : d ∈ name.bound := by simpa [hname] using hd
      exact mem_preorderAll_of_child (mem_children_of_child? hname)
        (mem_preorderAll_of_mem_bound hbound)

/-- A name that a statement gives to its scope stands below the statement. -/
theorem mem_preorderAll_of_mem_lexicallyDeclared (hd : d ∈ n.lexicallyDeclared) :
    d ∈ n.preorderAll := by
  unfold lexicallyDeclared at hd
  split at hd
  · rw [Option.mem_toList] at hd
    exact mem_preorderAll_of_child (mem_children_of_child? hd) (self_mem_preorderAll d)
  · exact mem_preorderAll_of_mem_declared hd

theorem mem_preorderAll_of_mem_scopeStatements (hd : d ∈ n.scopeStatements) :
    d ∈ n.preorderAll := by
  unfold scopeStatements at hd
  split at hd
  · obtain ⟨case, hcase, hd⟩ := List.mem_flatMap.mp hd
    exact mem_preorderAll_trans
      (mem_preorderAll_of_mem_namedChildren (List.mem_of_mem_eraseP hd))
      (mem_preorderAll_of_mem_namedChildren hcase)
  · exact mem_preorderAll_of_mem_namedChildren hd

end Node

namespace ScopeNames

variable {outer : List String}

theorem mem_of_mem_declareName {acc : ScopeNames × List Node}
    (hd : d ∈ (declareName source outer acc n).2) : d ∈ acc.2 ∨ d = n := by
  simp only [declareName] at hd
  split at hd
  · exact (List.mem_append.mp hd).imp_right List.mem_singleton.mp
  · exact .inl hd

theorem mem_of_mem_foldl_declareName {ns : List Node} {acc : ScopeNames × List Node}
    (hd : d ∈ (ns.foldl (declareName source outer) acc).2) : d ∈ acc.2 ∨ d ∈ ns := by
  induction ns generalizing acc with
  | nil => exact .inl hd
  | cons n ns ih =>
      rcases ih hd with hacc | hns
      · rcases mem_of_mem_declareName hacc with hacc | rfl
        · exact .inl hacc
        · exact .inr List.mem_cons_self
      · exact .inr (List.mem_cons_of_mem _ hns)

theorem mem_preorderAll_of_mem_declare {names : ScopeNames} {statement : Node}
    (hd : d ∈ (names.declare source outer statement).2) : d ∈ statement.preorderAll := by
  have hlexical (h : d ∈ (statement.lexicallyDeclared.foldl (declareName source outer)
      (names, [])).2) : d ∈ statement.preorderAll := by
    rcases mem_of_mem_foldl_declareName h with h | h
    · cases h
    · exact Node.mem_preorderAll_of_mem_lexicallyDeclared h
  have hfunction {name : Node} (hname : statement.child? .name = some name)
      (h : d ∈ if names.lexical.contains (name.name source) then [name] else []) :
      d ∈ statement.preorderAll := by
    split at h
    · obtain rfl := List.mem_singleton.mp h
      exact Node.mem_preorderAll_of_child (Node.mem_children_of_child? hname)
        (Node.self_mem_preorderAll d)
    · cases h
  unfold declare at hd
  split at hd
  · exact hlexical hd
  · exact hlexical hd
  · split at hd
    · exact hfunction (by assumption) hd
    · cases hd
  · split at hd
    · exact hfunction (by assumption) hd
    · cases hd
  · cases hd

theorem mem_preorderAll_of_mem_conflicts {names : ScopeNames} {statements : List Node}
    (hd : d ∈ conflicts source outer names statements) :
    ∃ s ∈ statements, d ∈ s.preorderAll := by
  induction statements generalizing names with
  | nil => cases hd
  | cons s rest ih =>
      rcases List.mem_append.mp hd with hs | hrest
      · exact ⟨s, List.mem_cons_self, mem_preorderAll_of_mem_declare hs⟩
      · obtain ⟨t, ht, hd⟩ := ih hrest
        exact ⟨t, List.mem_cons_of_mem _ ht, hd⟩

end ScopeNames

theorem Node.mem_preorderAll_of_mem_uninitialized (hd : d ∈ n.uninitialized source) :
    d ∈ n.preorderAll := by
  unfold uninitialized at hd
  cases hkind : n.child? .kind with
  | none => simp [hkind] at hd
  | some word =>
      have hconst : word.text source = "const".toList ∧ d ∈ n.declarators ∧
          d.child? .value = none := by
        simpa [hkind] using hd
      exact mem_preorderAll_of_mem_declarators hconst.2.1

/-- Every early error is at a node of the tree. -/
theorem EarlyError.node_mem_preorderAll {e : EarlyError}
    (he : e ∈ root.earlyErrors source) : e.node ∈ root.preorderAll := by
  rcases List.mem_append.mp he with hconstant | hname
  · obtain ⟨d, hd, rfl⟩ := List.mem_map.mp hconstant
    obtain ⟨decl, hdecl, hd⟩ := List.mem_flatMap.mp hd
    exact Node.mem_preorderAll_trans (Node.mem_preorderAll_of_mem_uninitialized hd)
      (Node.mem_preorderAll_of_mem_preorder (List.mem_of_mem_filter hdecl))
  · obtain ⟨⟨parent, scope⟩, hscope, he⟩ := List.mem_flatMap.mp hname
    obtain ⟨d, hd, rfl⟩ := List.mem_map.mp he
    obtain ⟨s, hs, hd⟩ := ScopeNames.mem_preorderAll_of_mem_conflicts hd
    have hroot : scope ∈ root.preorder := by
      rw [← Node.map_snd_withParents none root]
      exact List.mem_map.mpr ⟨(parent, scope), List.mem_of_mem_filter hscope, rfl⟩
    exact Node.mem_preorderAll_trans
      (Node.mem_preorderAll_trans hd (Node.mem_preorderAll_of_mem_scopeStatements hs))
      (Node.mem_preorderAll_of_mem_preorder hroot)

end ScriptLint.Script
