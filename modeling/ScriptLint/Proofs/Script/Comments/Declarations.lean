import ScriptLint.Proofs.Script.Comments

namespace ScriptLint.Script

/-! Declarations are wrong with comments between them exactly as they are without. -/

variable {source : List Char}

namespace Node

/-! ### Names -/

section Names

variable {n c : Node}

theorem bound_of_isComment (hc : c.isComment = true) : c.bound = [] := by
  rw [bound_eq, kind_eq_of_isComment hc]

theorem bound_withoutComments (h : n.CommentsBare) :
    n.withoutComments.bound = n.bound.map withoutComments := by
  induction n using induct with
  | h n ih =>
      have hrole (r : Role) : ((n.withoutComments.child? r).map bound).getD [] =
          (((n.child? r).map bound).getD []).map withoutComments := by
        rw [map_child?_withoutComments h r ih]
        cases n.child? r <;> rfl
      have hall : n.withoutComments.namedChildren.flatMap bound =
          (n.namedChildren.flatMap bound).map withoutComments := by
        rw [List.map_flatMap]
        exact flatMap_namedChildren_withoutComments h ih
          fun c hc _ => by rw [bound_of_isComment hc, List.map_nil]
      rw [bound_eq, bound_eq n, kind_withoutComments, hrole, hrole, hall]
      split <;> rfl

theorem declarators_withoutComments (n : Node) :
    n.withoutComments.declarators = n.declarators.map withoutComments := by
  rw [declarators, namedChildren_withoutComments,
    filter_dropComments fun c _ _ => by rw [kind_withoutComments], dropComments_eq_map]
  · rfl
  · intro c hc
    have hk : c.kind = .variableDeclarator := by simpa using (List.mem_filter.mp hc).2
    rw [isComment, hk]
    rfl

theorem CommentsBare.declarator (h : n.CommentsBare) (hc : c ∈ n.declarators) :
    c.CommentsBare := by
  obtain ⟨hnamed, hk⟩ := List.mem_filter.mp hc
  refine h.child (mem_namedChildren.mp hnamed).1 ?_
  rw [isComment, beq_iff_eq.mp hk]
  rfl

theorem declared_withoutComments (h : n.CommentsBare) :
    n.withoutComments.declared = n.declared.map withoutComments := by
  rw [declared, declarators_withoutComments, declared, List.flatMap_map, List.map_flatMap]
  refine List.flatMap_congr fun d hd => ?_
  rw [map_child?_withoutComments (h.declarator hd) .name
    fun c _ hc => bound_withoutComments hc]
  cases d.child? .name <;> rfl

theorem lexicallyDeclared_withoutComments (h : n.CommentsBare) :
    n.withoutComments.lexicallyDeclared = n.lexicallyDeclared.map withoutComments := by
  rw [lexicallyDeclared, lexicallyDeclared, kind_withoutComments, child?_withoutComments h,
    declared_withoutComments h]
  split
  · cases n.child? .name <;> rfl
  · rfl

theorem boundParams_withoutComments (h : n.CommentsBare) :
    n.withoutComments.boundParams = n.boundParams.map withoutComments := by
  rw [boundParams, boundParams, child?_withoutComments h,
    map_child?_withoutComments h .parameter fun c _ hc => bound_withoutComments hc]
  cases hps : n.child? .parameters with
  | none => cases n.child? .parameter <;> rfl
  | some ps =>
      dsimp only [Option.map_some]
      rw [List.map_flatMap]
      exact flatMap_namedChildren_withoutComments (h.child? hps)
        (fun c _ hc => bound_withoutComments hc)
        fun c hc _ => by rw [bound_of_isComment hc, List.map_nil]

end Names

/-! ### Scopes -/

section Scopes

variable {n c : Node} {cs : List Node}

theorem uninitialized_withoutComments (h : n.CommentsBare) :
    n.withoutComments.uninitialized source =
      (n.uninitialized source).map withoutComments := by
  have hvalue :
      (n.declarators.map withoutComments).filter (fun d => (d.child? .value).isNone) =
      (n.declarators.filter fun d => (d.child? .value).isNone).map withoutComments := by
    rw [List.filter_map]
    congr 1
    refine List.filter_congr fun d hd => ?_
    rw [Function.comp_apply, child?_withoutComments (h.declarator hd), Option.isNone_map]
  rw [uninitialized, uninitialized, child?_withoutComments h, declarators_withoutComments,
    hvalue]
  cases n.child? .kind with
  | none => rfl
  | some word =>
      simp only [Option.map_some, text_withoutComments]
      split <;> rfl

theorem hoisted_of_isComment (hc : c.isComment = true) (hleaf : c.children = []) :
    c.hoisted source = [] := by
  rw [hoisted_eq, hleaf, kind_eq_of_isComment hc]
  rfl

theorem hoisted_withoutComments (h : n.CommentsBare) :
    n.withoutComments.hoisted source = n.hoisted source := by
  induction n using induct with
  | h n ih =>
      have hbelow : hoistedBelow source n.withoutComments.children =
          hoistedBelow source n.children := by
        rw [hoistedBelow_eq, hoistedBelow_eq]
        exact flatMap_namedChildren_withoutComments h ih fun c => hoisted_of_isComment
      rw [hoisted_eq, hoisted_eq n, hbelow, kind_withoutComments,
        declared_withoutComments h, List.map_map]
      simp only [Function.comp_def, name_withoutComments]

theorem eraseP_dropComments {p : Node → Bool} (hp : ∀ c : Node, p c.withoutComments = p c)
    (hcomment : ∀ c ∈ cs, c.isComment = true → p c = false) :
    (dropComments cs).eraseP p = dropComments (cs.eraseP p) := by
  induction cs with
  | nil => rfl
  | cons c cs ih =>
      have hrest := ih fun d hd => hcomment d (List.mem_cons_of_mem _ hd)
      cases hc : c.isComment with
      | true => simp [dropComments, hc, hcomment c List.mem_cons_self hc, hrest]
      | false =>
          cases hpc : p c with
          | true => simp [dropComments, hc, hp, hpc]
          | false => simp [dropComments, hc, hp, hpc, hrest]

theorem scopeStatements_withoutComments (h : n.CommentsBare) :
    n.withoutComments.scopeStatements = dropComments n.scopeStatements := by
  rw [scopeStatements, scopeStatements, kind_withoutComments]
  split
  · rw [dropComments_flatMap]
    refine flatMap_namedChildren_withoutComments h (fun c _ hc => ?_) fun c _ hleaf => ?_
    · rw [namedChildren_withoutComments]
      refine eraseP_dropComments (fun d => by rw [role_withoutComments])
        fun d hd hcomment => ?_
      rw [hc.role_child (mem_namedChildren.mp hd).1 hcomment]
      rfl
    · rw [namedChildren, hleaf]
      rfl
  · exact namedChildren_withoutComments n

theorem CommentsBare.scopeStatement (h : n.CommentsBare) (hc : c ∈ n.scopeStatements)
    (hcomment : c.isComment = false) : c.CommentsBare :=
  h.of_mem (mem_preorderAll_of_mem_scopeStatements hc) hcomment

end Scopes

end Node

/-! ### Names that are taken -/

namespace ScopeNames

open Node

variable {outer : List String}

theorem foldl_declareName_withoutComments (source : List Char) (outer : List String)
    (ns : List Node) (acc : ScopeNames × List Node) :
    (ns.map withoutComments).foldl (declareName source outer)
        (acc.1, acc.2.map withoutComments) =
      ((ns.foldl (declareName source outer) acc).1,
        (ns.foldl (declareName source outer) acc).2.map withoutComments) := by
  induction ns generalizing acc with
  | nil => rfl
  | cons n ns ih =>
      have hstep :
          declareName source outer (acc.1, acc.2.map withoutComments) n.withoutComments =
          ((declareName source outer acc n).1,
            (declareName source outer acc n).2.map withoutComments) := by
        simp only [declareName, name_withoutComments]
        split
        · rw [List.map_append, List.map_singleton]
        · rfl
      rw [List.map_cons, List.foldl_cons, hstep, ih, List.foldl_cons]

theorem declare_withoutComments {statement : Node} (h : statement.CommentsBare)
    (names : ScopeNames) :
    names.declare source outer statement.withoutComments =
      ((names.declare source outer statement).1,
        (names.declare source outer statement).2.map withoutComments) := by
  have hlexical :=
    foldl_declareName_withoutComments source outer statement.lexicallyDeclared (names, [])
  unfold declare
  rw [kind_withoutComments, lexicallyDeclared_withoutComments h, child?_withoutComments h]
  split
  · exact hlexical
  · exact hlexical
  · cases statement.child? .name with
    | none => rfl
    | some n => simp only [Option.map_some, name_withoutComments]; split <;> rfl
  · cases statement.child? .name with
    | none => rfl
    | some n => simp only [Option.map_some, name_withoutComments]; split <;> rfl
  · rfl

theorem declare_of_isComment {c : Node} (hc : c.isComment = true) (names : ScopeNames) :
    names.declare source outer c = (names, []) := by
  rw [declare, kind_eq_of_isComment hc]

theorem conflicts_dropComments {statements : List Node}
    (h : ∀ s ∈ statements, s.isComment = false → s.CommentsBare) (names : ScopeNames) :
    conflicts source outer names (dropComments statements) =
      (conflicts source outer names statements).map withoutComments := by
  induction statements generalizing names with
  | nil => rfl
  | cons s rest ih =>
      have hrest := ih fun t ht => h t (List.mem_cons_of_mem _ ht)
      cases hs : s.isComment with
      | true =>
          rw [conflicts, declare_of_isComment hs, dropComments, if_pos hs, hrest]
          rfl
      | false =>
          rw [dropComments, if_neg (by simp [hs])]
          simp only [conflicts, declare_withoutComments (h s List.mem_cons_self hs), hrest,
            List.map_append]

end ScopeNames

/-! ### Early errors -/

namespace Node

variable {n root : Node}

theorem conflicts_withoutComments (h : n.CommentsBare) {parent : Option Node}
    (hparent : ∀ f, parent = some f → f.CommentsBare) :
    n.withoutComments.conflicts source (parent.map withoutComments) =
      (n.conflicts source parent).map withoutComments := by
  have hhoisted : hoistedBelow source n.withoutComments.children =
      hoistedBelow source n.children := by
    rw [hoistedBelow_eq, hoistedBelow_eq]
    exact flatMap_namedChildren_withoutComments h
      (fun c _ hc => hoisted_withoutComments hc)
      fun c => hoisted_of_isComment
  unfold conflicts
  rw [hhoisted, scopeStatements_withoutComments h,
    ScopeNames.conflicts_dropComments fun s hs => h.scopeStatement hs]
  cases parent with
  | none => rfl
  | some f =>
      simp only [Option.map_some, kind_withoutComments,
        boundParams_withoutComments (hparent f rfl), List.map_map, Function.comp_def,
        name_withoutComments]

end Node

namespace EarlyError

def withoutComments (e : EarlyError) : EarlyError := ⟨e.node.withoutComments, e.fault⟩

theorem first?_map_withoutComments (es : List EarlyError) :
    first? (es.map withoutComments) = (first? es).map withoutComments := by
  induction es with
  | nil => rfl
  | cons e es ih =>
      rw [List.map_cons, first?, first?, ih]
      cases first? es with
      | none => rfl
      | some f =>
          simp only [Option.map_some, withoutComments, Node.start_withoutComments]
          split <;> rfl

end EarlyError

namespace Node

variable {root : Node}

theorem constants_withoutComments (h : root.CommentsBare) :
    (root.withoutComments.preorder.filter fun n => n.kind == .lexicalDeclaration).flatMap
        (·.uninitialized source) =
      ((root.preorder.filter fun n => n.kind == .lexicalDeclaration).flatMap
        (·.uninitialized source)).map withoutComments := by
  rw [preorder_withoutComments h,
    filter_dropComments fun c _ _ => by rw [kind_withoutComments], List.map_flatMap]
  refine flatMap_dropComments (fun c hc hcomment => ?_) fun c hc hcomment => ?_
  · exact uninitialized_withoutComments
      (h.of_mem_preorder (List.mem_of_mem_filter hc) hcomment)
  · have hk := (List.mem_filter.mp hc).2
    rw [kind_eq_of_isComment hcomment] at hk
    cases hk

theorem scopes_withoutComments (h : root.CommentsBare) :
    ((root.withoutComments.withParents none).filter fun v => v.2.kind.isScope) =
      ((root.withParents none).filter fun v => v.2.kind.isScope).map
        fun v => (v.1.map withoutComments, v.2.withoutComments) := by
  have hall := withParents_withoutComments h none
  rw [Option.map_none] at hall
  rw [hall, List.filter_map, List.filter_filter]
  congr 1
  refine List.filter_congr fun v _ => ?_
  rw [Function.comp_apply, kind_withoutComments]
  cases hv : v.2.isComment with
  | false => simp
  | true => simp [kind_eq_of_isComment hv, Kind.isScope]

/-- Declarations are wrong in the same way and at the same places. -/
theorem earlyErrors_withoutComments (h : root.CommentsBare) :
    root.withoutComments.earlyErrors source =
      (root.earlyErrors source).map EarlyError.withoutComments := by
  unfold earlyErrors
  dsimp only
  rw [constants_withoutComments h, scopes_withoutComments h, List.map_append, List.map_map,
    List.map_map]
  congr 1
  rw [List.flatMap_map, List.map_flatMap]
  apply List.flatMap_congr
  rintro ⟨parent, scope⟩ hv
  obtain ⟨hmem, hscope⟩ := List.mem_filter.mp hv
  have hcomment : scope.isComment = false := by
    cases hcomment : scope.isComment with
    | false => rfl
    | true =>
        rw [kind_eq_of_isComment hcomment] at hscope
        cases hscope
  have hbare : scope.CommentsBare := by
    refine h.of_mem_preorder ?_ hcomment
    rw [← map_snd_withParents none root]
    exact List.mem_map.mpr ⟨(parent, scope), hmem, rfl⟩
  have hparent : ∀ f, parent = some f → f.CommentsBare := by
    rintro f rfl
    exact h.parent hmem
  rw [conflicts_withoutComments hbare hparent, List.map_map, List.map_map]
  simp only [Function.comp_def, EarlyError.withoutComments, name_withoutComments]

end Node

end ScriptLint.Script
