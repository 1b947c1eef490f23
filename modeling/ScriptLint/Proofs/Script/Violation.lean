import ScriptLint.Proofs.Script.Hoisting
import ScriptLint.Proofs.Script.Layout

namespace ScriptLint

open ScriptLint.Script ScriptLint.Text

/-! Of all wrong declarations of a tree the one that begins first is reported. -/

namespace Script

variable {source : List Char} {outer : List String} {parent : Option Node}
  {scope n d : Node}

/-! ### What is wrong -/

namespace Node

/-- The nodes of the names that a statement binds in its scope for good. -/
def lexicalNodes (statement : Node) : List Node :=
  match statement.kind with
  | .lexicalDeclaration | .classDeclaration => statement.lexicallyDeclared
  | _ => []

def functionNodes (statement : Node) : List Node :=
  match statement.kind with
  | .functionDeclaration | .generatorFunctionDeclaration => (statement.child? .name).toList
  | _ => []

/-- Why a statement of a scope behind others may not bind a name. -/
inductive Clashes (source : List Char) (parent : Option Node) (scope : Node)
    (before : List Node) (name : String) : Prop
  | parameter {f : Node} (hf : parent = some f) (h : name ∈ f.paramNames source)
  | hoisted (h : scope.HoistsTo source name ∨ scope.LoopsTo source name)
  | earlier {t : Node} (ht : t ∈ before)
      (h : name ∈ t.lexicalNames source ∨ name ∈ t.functionNames source)

/-- A name of a statement that the scope has from elsewhere or from a statement before. -/
inductive RedeclaredAcross (source : List Char) (parent : Option Node)
    (scope n : Node) : Prop
  | lexical {before after : List Node} {t : Node}
      (ht : scope.scopeStatements = before ++ t :: after) (hn : n ∈ t.lexicalNodes)
      (h : Clashes source parent scope before (n.name source))
  | function {before after : List Node} {t : Node}
      (ht : scope.scopeStatements = before ++ t :: after) (hn : n ∈ t.functionNodes)
      (h : ∃ l ∈ before, n.name source ∈ l.lexicalNames source)

/-- A name that a statement has bound before. -/
def RedeclaredWithin (source : List Char) (scope n : Node) : Prop :=
  ∃ t ∈ scope.scopeStatements, ∃ front back, t.lexicalNodes = front ++ n :: back ∧
    n.name source ∈ front.map (·.name source)

def Redeclared (source : List Char) (parent : Option Node) (scope n : Node) : Prop :=
  RedeclaredAcross source parent scope n ∨ RedeclaredWithin source scope n

/-- What is wrong with the declarations of a tree, given when a name of a scope is. -/
inductive Violation (source : List Char) (root : Node)
    (Wrong : Option Node → Node → Node → Prop) :
    EarlyError → Prop
  | uninitialized {decl d : Node} (hdecl : decl ∈ root.preorder)
      (hkind : decl.kind = .lexicalDeclaration) (hconst : decl.IsConst source)
      (hd : d ∈ decl.declarators) (hvalue : d.child? .value = none) :
      Violation source root Wrong ⟨d, .missingInitializer⟩
  | redeclared {parent : Option Node} {scope n : Node}
      (hscope : root.HasScope parent scope)
      (h : Wrong parent scope n) :
      Violation source root Wrong ⟨n, .redeclared (n.name source)⟩

/-- No variable in the head of a loop over a collection comes up to a scope that binds its
name. -/
def LoopFree (source : List Char) (root : Node) : Prop :=
  ∀ parent scope, root.HasScope parent scope →
    ∀ name ∈ scope.scopeStatements.flatMap (lexicalNames source),
      ¬ scope.LoopsTo source name

theorem map_name_lexicalNodes (statement : Node) :
    statement.lexicalNodes.map (·.name source) = statement.lexicalNames source := by
  unfold lexicalNodes lexicalNames
  cases statement.kind <;> rfl

end Node

/-- `Leads P e`: of the errors with `P` none begins before `e`, and if a constant without a
value begins where `e` does, `e` is one. -/
structure EarlyError.Leads (P : EarlyError → Prop) (e : EarlyError) : Prop where
  holds : P e
  least : ∀ e', P e' → e.node.start.byte ≤ e'.node.start.byte
  initializer : ∀ e', P e' → e'.node.start.byte = e.node.start.byte →
    e'.fault = .missingInitializer → e.fault = .missingInitializer

/-! ### Names that are taken, node by node -/

theorem exists_append_cons_iff {α : Type} {P : List α → Prop} {a d : α} {as : List α} :
    (∃ front back, a :: as = front ++ d :: back ∧ P front) ↔
      (a = d ∧ P []) ∨ ∃ front back, as = front ++ d :: back ∧ P (a :: front) := by
  constructor
  · intro ⟨front, back, hsplit, hP⟩
    cases front with
    | nil => exact .inl ⟨(List.cons.inj hsplit).1, hP⟩
    | cons b front =>
        obtain ⟨rfl, hrest⟩ := List.cons.inj hsplit
        exact .inr ⟨front, back, hrest, hP⟩
  · intro h
    obtain ⟨rfl, hP⟩ | ⟨front, back, rfl, hP⟩ := h
    · exact ⟨[], as, rfl, hP⟩
    · exact ⟨a :: front, back, rfl, hP⟩

namespace ScopeNames

/-- A name of a lexical statement is taken if the statement has bound it before, or if it
is not free for the statement. -/
theorem node_mem_foldl_declareName_iff (ns : List Node) (acc : ScopeNames × List Node) :
    d ∈ (ns.foldl (declareName source outer) acc).2 ↔
      d ∈ acc.2 ∨ ∃ front back, ns = front ++ d :: back ∧
        (d.name source ∈ front.map (·.name source) ∨
          ¬ acc.1.Free outer (d.name source)) := by
  induction ns generalizing acc with
  | nil => simp
  | cons n ns ih =>
      rw [List.foldl_cons, ih, node_mem_declareName_iff, exists_append_cons_iff, or_assoc]
      simp only [free_declareName_iff, List.map_nil, List.not_mem_nil, false_or,
        List.map_cons, List.mem_cons, not_and_or, ne_eq, not_not, or_assoc, or_left_comm]

theorem node_mem_declare_iff (names : ScopeNames) (statement : Node) :
    d ∈ (names.declare source outer statement).2 ↔
      (∃ front back, statement.lexicalNodes = front ++ d :: back ∧
        (d.name source ∈ front.map (·.name source) ∨ ¬ names.Free outer (d.name source))) ∨
      (d ∈ statement.functionNodes ∧ d.name source ∈ names.lexical) := by
  have hlexical :
      d ∈ (statement.lexicallyDeclared.foldl (declareName source outer) (names, [])).2 ↔
      _ := node_mem_foldl_declareName_iff statement.lexicallyDeclared (names, [])
  unfold declare Node.lexicalNodes Node.functionNodes
  cases statement.kind with
  | lexicalDeclaration | classDeclaration =>
      simp only [List.not_mem_nil, false_or, false_and, or_false] at hlexical ⊢
      exact hlexical
  | functionDeclaration | generatorFunctionDeclaration =>
      cases statement.child? .name with
      | none => simp
      | some f =>
          have hfunction :
              d ∈ (if names.lexical.contains (f.name source) then [f] else []) ↔
              d ∈ [f] ∧ d.name source ∈ names.lexical := by
            rw [List.mem_ite_nil_right, List.contains_iff_mem, List.mem_singleton,
              and_comm]
            apply and_congr_right
            rintro rfl
            exact Iff.rfl
          rw [hfunction]
          simp
  | _ => simp

def through (source : List Char) (outer : List String) (names : ScopeNames)
    (statements : List Node) : ScopeNames :=
  statements.foldl (fun names t => (names.declare source outer t).1) names

theorem mem_through_lexical (names : ScopeNames) (statements : List Node) (name : String) :
    name ∈ (names.through source outer statements).lexical ↔
      (∃ t ∈ statements, name ∈ t.lexicalNames source) ∨ name ∈ names.lexical := by
  induction statements generalizing names with
  | nil => simp [through]
  | cons t rest ih =>
      rw [through, List.foldl_cons, ← through, ih, mem_declare_lexical,
        List.exists_mem_cons_iff, or_assoc, or_left_comm]

theorem mem_through_functions (names : ScopeNames) (statements : List Node)
    (name : String) :
    name ∈ (names.through source outer statements).functions ↔
      (∃ t ∈ statements, name ∈ t.functionNames source) ∨ name ∈ names.functions := by
  induction statements generalizing names with
  | nil => simp [through]
  | cons t rest ih =>
      rw [through, List.foldl_cons, ← through, ih, mem_declare_functions,
        List.exists_mem_cons_iff, or_assoc, or_left_comm]

theorem node_mem_conflicts_iff (names : ScopeNames) (statements : List Node) :
    d ∈ conflicts source outer names statements ↔
      ∃ t before after, statements = before ++ t :: after ∧
        d ∈ ((names.through source outer before).declare source outer t).2 := by
  induction statements generalizing names with
  | nil => simp [conflicts]
  | cons t rest ih =>
      simp only [conflicts, List.mem_append, ih, exists_append_cons_iff, exists_or]
      apply or_congr
      · constructor
        · intro hd
          exact ⟨t, rfl, hd⟩
        · rintro ⟨t', rfl, hd⟩
          exact hd
      · exact Iff.rfl

end ScopeNames

namespace Node

def outerNames (source : List Char) (parent : Option Node) (scope : Node) : List String :=
  parent.toList.flatMap (paramNames source) ++ hoistedBelow source scope.children

theorem mem_outerNames_iff {name : String} :
    name ∈ scope.outerNames source parent ↔
      (∃ f, parent = some f ∧ name ∈ f.paramNames source) ∨
        scope.HoistsTo source name := by
  rw [outerNames, List.mem_append, mem_hoistedBelow_iff, List.mem_flatMap]
  simp only [Option.mem_toList]

/-- Behind some statements a name is not free if it clashes. -/
theorem not_free_iff_clashes {before : List Node} {name : String}
    (hloop : ¬ scope.LoopsTo source name) :
    ¬ (ScopeNames.through source (scope.outerNames source parent) ⟨[], []⟩ before).Free
        (scope.outerNames source parent) name ↔
      Clashes source parent scope before name := by
  rw [ScopeNames.Free, ScopeNames.mem_through_lexical, ScopeNames.mem_through_functions,
    mem_outerNames_iff]
  constructor
  · intro h
    by_contra hclash
    apply h
    refine ⟨?_, ?_, ?_⟩
    · rintro (⟨t, ht, hmem⟩ | hmem)
      · exact hclash (.earlier ht (.inl hmem))
      · cases hmem
    · rintro (⟨t, ht, hmem⟩ | hmem)
      · exact hclash (.earlier ht (.inr hmem))
      · cases hmem
    · rintro (⟨f, hf, hmem⟩ | hhoists)
      · exact hclash (.parameter hf hmem)
      · exact hclash (.hoisted (.inl hhoists))
  · intro hclash h
    obtain ⟨hlexical, hfunctions, houter⟩ := h
    cases hclash with
    | parameter hf hmem => exact houter (.inl ⟨_, hf, hmem⟩)
    | hoisted hmem =>
        obtain hhoists | hloops := hmem
        · exact houter (.inr hhoists)
        · exact hloop hloops
    | earlier ht hmem =>
        obtain hmem | hmem := hmem
        · exact hlexical (.inl ⟨_, ht, hmem⟩)
        · exact hfunctions (.inl ⟨_, ht, hmem⟩)

/-- A scope finds the names taken that are wrong, if no variable in the head of a loop
is. -/
theorem mem_conflicts_iff_redeclared
    (hloop : ∀ name ∈ scope.scopeStatements.flatMap (lexicalNames source),
      ¬ scope.LoopsTo source name) :
    n ∈ scope.conflicts source parent ↔ Redeclared source parent scope n := by
  have hclashes {t : Node} {before : List Node} (ht : t ∈ scope.scopeStatements)
      (hn : n ∈ t.lexicalNodes) :
      ¬ (ScopeNames.through source (scope.outerNames source parent) ⟨[], []⟩ before).Free
          (scope.outerNames source parent) (n.name source) ↔
        Clashes source parent scope before (n.name source) := by
    apply not_free_iff_clashes
    apply hloop
    refine List.mem_flatMap.mpr ⟨t, ht, ?_⟩
    rw [← map_name_lexicalNodes]
    exact List.mem_map_of_mem hn
  rw [conflicts_eq, ← outerNames, ScopeNames.node_mem_conflicts_iff]
  constructor
  · rintro ⟨t, before, after, hsplit, hn⟩
    have ht : t ∈ scope.scopeStatements := by simp [hsplit]
    rw [ScopeNames.node_mem_declare_iff] at hn
    obtain ⟨front, back, hnodes, hwithin | htaken⟩ | ⟨hn, hlexical⟩ := hn
    · exact .inr ⟨t, ht, front, back, hnodes, hwithin⟩
    · have hn : n ∈ t.lexicalNodes := by simp [hnodes]
      exact .inl (.lexical hsplit hn ((hclashes ht hn).mp htaken))
    · rw [ScopeNames.mem_through_lexical] at hlexical
      exact .inl (.function hsplit hn (hlexical.resolve_right List.not_mem_nil))
  · intro h
    obtain (⟨hsplit, hn, hclash⟩ | ⟨hsplit, hn, hlexical⟩) |
      ⟨t, ht, front, back, hnodes, hwithin⟩ := h
    · have ht := hsplit ▸ List.mem_append_right _ List.mem_cons_self
      obtain ⟨front, back, hnodes⟩ := List.append_of_mem hn
      refine ⟨_, _, _, hsplit, ?_⟩
      rw [ScopeNames.node_mem_declare_iff]
      exact .inl ⟨front, back, hnodes, .inr ((hclashes ht hn).mpr hclash)⟩
    · refine ⟨_, _, _, hsplit, ?_⟩
      rw [ScopeNames.node_mem_declare_iff, ScopeNames.mem_through_lexical]
      exact .inr ⟨hn, .inl hlexical⟩
    · obtain ⟨before, after, hsplit⟩ := List.append_of_mem ht
      refine ⟨t, before, after, hsplit, ?_⟩
      rw [ScopeNames.node_mem_declare_iff]
      exact .inl ⟨front, back, hnodes, .inl hwithin⟩

/-! ### All errors of a tree -/

def missingInitializers (source : List Char) (root : Node) : List EarlyError :=
  ((root.preorder.filter fun n => n.kind == .lexicalDeclaration).flatMap
    (·.uninitialized source)).map (⟨·, .missingInitializer⟩)

def redeclarations (source : List Char) (root : Node) : List EarlyError :=
  ((root.withParents none).filter fun v => v.2.kind.isScope).flatMap fun v =>
    (v.2.conflicts source v.1).map fun n => ⟨n, .redeclared (n.name source)⟩

theorem earlyErrors_eq (root : Node) :
    root.earlyErrors source = root.missingInitializers source ++
      root.redeclarations source := rfl

theorem mem_uninitialized_iff {decl : Node} :
    d ∈ decl.uninitialized source ↔
      decl.IsConst source ∧ d ∈ decl.declarators ∧ d.child? .value = none := by
  unfold uninitialized IsConst
  cases decl.child? .kind with
  | none => simp
  | some word =>
      by_cases hword : word.text source = "const".toList <;> simp [hword]

variable {root : Node} {e : EarlyError}

theorem mem_missingInitializers_iff {Wrong : Option Node → Node → Node → Prop} :
    e ∈ root.missingInitializers source ↔
      root.Violation source Wrong e ∧ e.fault = .missingInitializer := by
  rw [missingInitializers, List.mem_map]
  simp only [List.mem_flatMap, List.mem_filter, beq_iff_eq, mem_uninitialized_iff]
  constructor
  · rintro ⟨d, ⟨decl, ⟨hdecl, hkind⟩, hconst, hd, hvalue⟩, rfl⟩
    exact ⟨.uninitialized hdecl hkind hconst hd hvalue, rfl⟩
  · rintro ⟨h, hfault⟩
    cases h with
    | uninitialized hdecl hkind hconst hd hvalue =>
        exact ⟨_, ⟨_, ⟨hdecl, hkind⟩, hconst, hd, hvalue⟩, rfl⟩
    | redeclared => cases hfault

theorem mem_redeclarations_iff (hloop : root.LoopFree source) :
    e ∈ root.redeclarations source ↔
      root.Violation source (Redeclared source) e ∧ e.fault ≠ .missingInitializer := by
  rw [redeclarations, List.mem_flatMap]
  simp only [Prod.exists, List.mem_filter, mem_withParents, List.mem_map]
  constructor
  · rintro ⟨parent, scope, ⟨hplace, hkind⟩, n, hn, rfl⟩
    have hscope : root.HasScope parent scope := ⟨hkind, hplace⟩
    rw [mem_conflicts_iff_redeclared (hloop parent scope hscope)] at hn
    exact ⟨.redeclared hscope hn, nofun⟩
  · rintro ⟨h, hfault⟩
    cases h with
    | uninitialized => exact absurd rfl hfault
    | redeclared hscope hn =>
        rw [← mem_conflicts_iff_redeclared (hloop _ _ hscope)] at hn
        exact ⟨_, _, ⟨hscope.2, hscope.1⟩, _, hn, rfl⟩

/-! ### Names are words -/

theorem isWord_of_mem_bound (hd : d ∈ n.bound) : d.IsWord := by
  induction n using induct with
  | h n ih =>
      rw [bound_eq_targets] at hd
      split at hd
      · next hword =>
          obtain rfl := List.mem_singleton.mp hd
          exact hword
      · obtain ⟨c, hc, hd⟩ := List.mem_flatMap.mp hd
        exact ih c (mem_children_of_mem_targets hc) hd

theorem isWord_of_mem_declared (hd : d ∈ n.declared) : d.IsWord := by
  obtain ⟨declarator, -, hd⟩ := List.mem_flatMap.mp hd
  cases hname : declarator.child? .name with
  | none => simp [hname] at hd
  | some name => exact isWord_of_mem_bound (n := name) (by simpa [hname] using hd)

theorem Worded.isWord {t : Node} (h : root.Worded) (ht : t ∈ root.preorderAll)
    (hn : n ∈ t.lexicalNodes ∨ n ∈ t.functionNodes) : n.IsWord := by
  have hcalled (hkind : t.IsNaming) (hname : n ∈ (t.child? .name).toList) : n.IsWord :=
    .inl (h.names t ht hkind n (Option.mem_toList.mp hname))
  unfold lexicalNodes functionNodes lexicallyDeclared at hn
  cases hk : t.kind with
  | lexicalDeclaration => exact isWord_of_mem_declared (by simpa [hk] using hn)
  | classDeclaration => exact hcalled (.inl hk) (by simpa [hk] using hn)
  | functionDeclaration => exact hcalled (.inr (.inl hk)) (by simpa [hk] using hn)
  | generatorFunctionDeclaration => exact hcalled (.inr (.inr hk)) (by simpa [hk] using hn)
  | _ => simp [hk] at hn

theorem Redeclared.exists_statement (h : Redeclared source parent scope n) :
    ∃ t ∈ scope.scopeStatements, n ∈ t.lexicalNodes ∨ n ∈ t.functionNodes := by
  obtain (⟨hsplit, hn, -⟩ | ⟨hsplit, hn, -⟩) | ⟨t, ht, front, back, hnodes, -⟩ := h
  · exact ⟨_, hsplit ▸ List.mem_append_right _ List.mem_cons_self, .inl hn⟩
  · exact ⟨_, hsplit ▸ List.mem_append_right _ List.mem_cons_self, .inr hn⟩
  · exact ⟨t, ht, .inl (hnodes ▸ List.mem_append_right front List.mem_cons_self)⟩

theorem HasScope.mem_preorder (h : root.HasScope parent scope) :
    scope ∈ root.preorder := by
  obtain ⟨-, hplace⟩ := h
  rw [← map_snd_withParents none root, List.mem_map]
  exact ⟨(parent, scope), mem_withParents.mpr hplace, rfl⟩

/-- What is wrong and no constant without a value is a word. -/
theorem Violation.isWord (h : root.Violation source (Redeclared source) e)
    (hworded : root.Worded) (hfault : e.fault ≠ .missingInitializer) :
    e.node.IsWord ∧ e.fault = .redeclared (e.node.name source) := by
  cases h with
  | uninitialized => exact absurd rfl hfault
  | redeclared hscope hn =>
      obtain ⟨t, ht, hmem⟩ := hn.exists_statement
      have hstatement := mem_preorderAll_trans (mem_preorderAll_of_mem_scopeStatements ht)
        (mem_preorderAll_of_mem_preorder hscope.mem_preorder)
      exact ⟨hworded.isWord hstatement hmem, rfl⟩

theorem Violation.node_mem_preorderAll (h : root.Violation source (Redeclared source) e)
    (hloop : root.LoopFree source) : e.node ∈ root.preorderAll := by
  have hmem : e ∈ root.earlyErrors source := by
    rw [earlyErrors_eq, List.mem_append, mem_missingInitializers_iff,
      mem_redeclarations_iff hloop, ← and_or_left]
    exact ⟨h, eq_or_ne _ _⟩
  exact EarlyError.node_mem_preorderAll hmem

end Node

/-! ### The error that leads -/

namespace EarlyError

variable {P : EarlyError → Prop} {constants names : List EarlyError} {e e' : EarlyError}

/-- Of errors in any order, constants without a value before all others, one that leads is
taken. -/
theorem leads_of_first?
    (hconstants : ∀ e, e ∈ constants ↔ P e ∧ e.fault = .missingInitializer)
    (hnames : ∀ e, e ∈ names ↔ P e ∧ e.fault ≠ .missingInitializer)
    (h : first? (constants ++ names) = some e) : Leads P e := by
  have hmem (e : EarlyError) : e ∈ constants ++ names ↔ P e := by
    rw [List.mem_append, hconstants, hnames, ← and_or_left]
    exact and_iff_left (eq_or_ne _ _)
  obtain ⟨hearliest, front, back, hsplit, hfront⟩ := first?_eq_some_iff.mp h
  refine ⟨?_, ?_, ?_⟩
  · rw [← hmem, hsplit]
    exact List.mem_append_right front List.mem_cons_self
  · intro e' he'
    exact hearliest e' ((hmem e').mpr he')
  · intro e' he' hstart hfault
    have hbefore : e' ∉ front := by
      intro hin
      exact hfront e' hin (fun f hf => hstart ▸ hearliest f hf)
    have hconstant := (hconstants e').mpr ⟨he', hfault⟩
    -- The constant begins as early, so `e` does not stand behind the last of them.
    obtain ⟨rest, rfl, -⟩ | ⟨rest, hrest, hback⟩ := List.append_eq_append_iff.mp hsplit
    · exact absurd (List.mem_append_left rest hconstant) hbefore
    · cases rest with
      | nil =>
          rw [List.append_nil] at hrest
          exact absurd (hrest ▸ hconstant) hbefore
      | cons f rest =>
          obtain ⟨rfl, -⟩ := List.cons.inj hback
          exact ((hconstants e).mp
            (hrest ▸ List.mem_append_right front List.mem_cons_self)).2

end EarlyError

def Violates (s : Script) : EarlyError → Prop :=
  s.root.Violation s.source (Node.Redeclared s.source)

variable {s : Script} {e e' : EarlyError}

/-- Where words are words, errors that lead say the same of the same place. -/
theorem LaidOut.leads_unique (hs : s.LaidOut) (hloop : s.root.LoopFree s.source)
    (h : EarlyError.Leads s.Violates e) (h' : EarlyError.Leads s.Violates e') :
    e.fault = e'.fault ∧ e.node.location s.source = e'.node.location s.source := by
  have hstart : e.node.start.byte = e'.node.start.byte :=
    Nat.le_antisymm (h.least e' h'.holds) (h'.least e h.holds)
  have hmem := h.holds.node_mem_preorderAll hloop
  have hmem' := h'.holds.node_mem_preorderAll hloop
  refine ⟨?_, (hs.location_eq_iff hmem hmem').mpr hstart⟩
  by_cases hfault : e.fault = .missingInitializer
  · rw [hfault, h'.initializer e h.holds hstart hfault]
  · have hfault' : e'.fault ≠ .missingInitializer := fun hmissing =>
      hfault (h.initializer e' h'.holds hstart.symm hmissing)
    obtain ⟨hword, hname⟩ := h.holds.isWord hs.worded hfault
    obtain ⟨hword', hname'⟩ := h'.holds.isWord hs.worded hfault'
    rw [hname, hname', hs.eq_of_isWord hmem hmem' hword hword' hstart]

/-- In a tree without repairs whose declarations are wrong, what begins first is reported:
a name that is wrong, or a constant without a value, which goes before a name at its place.
The order in which the errors are gathered does not count. -/
theorem rejection?_leads (hflawed : s.flawed = false) (hs : s.LaidOut)
    (hloop : s.root.LoopFree s.source) (hwrong : ∃ e, s.Violates e) :
    (∃ r, s.rejection? = some r) ∧
    (∀ r, s.rejection? = some r ↔
      ∃ e, EarlyError.Leads s.Violates e ∧
      r = ⟨.early e.fault, e.node.location s.source⟩) ∧
    ∀ constants names, (∀ e, e ∈ constants ↔
      s.Violates e ∧ e.fault = .missingInitializer) →
      (∀ e, e ∈ names ↔ s.Violates e ∧ e.fault ≠ .missingInitializer) →
      s.rejection? = (EarlyError.first? (constants ++ names)).map fun e =>
        ⟨.early e.fault, e.node.location s.source⟩ := by
  have hconstants (e : EarlyError) : e ∈ s.root.missingInitializers s.source ↔
      s.Violates e ∧ e.fault = .missingInitializer := Node.mem_missingInitializers_iff
  have hnames (e : EarlyError) : e ∈ s.root.redeclarations s.source ↔
      s.Violates e ∧ e.fault ≠ .missingInitializer := Node.mem_redeclarations_iff hloop
  have herrors : s.root.earlyErrors s.source ≠ [] := by
    obtain ⟨e, he⟩ := hwrong
    apply List.ne_nil_of_mem (a := e)
    rw [Node.earlyErrors_eq, List.mem_append, hconstants, hnames, ← and_or_left]
    exact ⟨he, eq_or_ne _ _⟩
  obtain ⟨e, hfirst, hreported⟩ := rejection?_early hflawed herrors
  have hleads := EarlyError.leads_of_first? hconstants hnames
    (EarlyError.first?_eq_some_iff.mpr hfirst)
  have hreport {e' : EarlyError} (h : EarlyError.Leads s.Violates e') :
      s.rejection? = some ⟨.early e'.fault, e'.node.location s.source⟩ := by
    obtain ⟨hfault, hlocation⟩ := hs.leads_unique hloop hleads h
    rw [hreported, hfault, hlocation]
  refine ⟨⟨_, hreported⟩, ?_, ?_⟩
  · intro r
    constructor
    · intro hr
      exact ⟨e, hleads, Option.some.inj (hr.symm.trans hreported)⟩
    · intro ⟨e', he', hr⟩
      exact hr ▸ hreport he'
  · intro constants names hconstants' hnames'
    cases hgathered : EarlyError.first? (constants ++ names) with
    | none =>
        obtain ⟨hnoConstants, hnoNames⟩ :=
          List.append_eq_nil_iff.mp ((EarlyError.first?_eq_none_iff _).mp hgathered)
        obtain ⟨e, he⟩ := hwrong
        by_cases hfault : e.fault = .missingInitializer
        · exact absurd (hnoConstants ▸ (hconstants' e).mpr ⟨he, hfault⟩) List.not_mem_nil
        · exact absurd (hnoNames ▸ (hnames' e).mpr ⟨he, hfault⟩) List.not_mem_nil
    | some e' => exact hreport (EarlyError.leads_of_first? hconstants' hnames' hgathered)

/-! ### Trees without loops over collections -/

namespace Node

theorem not_loopsTo_of_forall {name : String}
    (h : ∀ d ∈ n.preorder, d.loopNames source = []) : ¬ n.LoopsTo source name := by
  intro ⟨d, hd, hname⟩
  rw [h d hd.mem_preorder] at hname
  exact List.not_mem_nil hname

theorem loopFree_of_forall {root : Node}
    (h : ∀ d ∈ root.preorder, d.loopNames source = []) : root.LoopFree source := by
  intro parent scope hscope name _
  apply not_loopsTo_of_forall
  intro d hd
  exact h d (mem_preorder_trans hd hscope.mem_preorder)

end Node

/-- A script with a constant without a value whose name is taken. -/
def unset : Script where
  source := "let b = 1; const b;".toList
  root := .mk .program none ⟨0, 0, 0⟩ 19 false [
    .mk .lexicalDeclaration none ⟨0, 0, 0⟩ 10 false [
      .mk (.token "let") (some .kind) ⟨0, 0, 0⟩ 3 false [],
      .mk .variableDeclarator none ⟨4, 0, 4⟩ 9 false [
        .mk .identifier (some .name) ⟨4, 0, 4⟩ 5 false [],
        .mk (.token "=") none ⟨6, 0, 6⟩ 7 false [],
        .mk (.other "number") (some .value) ⟨8, 0, 8⟩ 9 false []],
      .mk (.token ";") none ⟨9, 0, 9⟩ 10 false []],
    .mk .lexicalDeclaration none ⟨11, 0, 11⟩ 19 false [
      .mk (.token "const") (some .kind) ⟨11, 0, 11⟩ 16 false [],
      .mk .variableDeclarator none ⟨17, 0, 17⟩ 18 false [
        .mk .identifier (some .name) ⟨17, 0, 17⟩ 18 false []],
      .mk (.token ";") none ⟨18, 0, 18⟩ 19 false []]]
  flawed := false

theorem unset_laidOut : unset.LaidOut := .of_take (by decide) (by decide) (by decide)

/-- Two errors begin at the last name, and the missing value is what leads. -/
theorem rejection?_leads_to_unset :
    unset.rejection? = some ⟨.early .missingInitializer, ⟨1, 18⟩⟩ ∧
      ∃ e, EarlyError.Leads unset.Violates e ∧
        ⟨.early .missingInitializer, ⟨1, 18⟩⟩ =
          (⟨.early e.fault, e.node.location unset.source⟩ : Rejection) := by
  have hrejected : unset.rejection? = some ⟨.early .missingInitializer, ⟨1, 18⟩⟩ := rfl
  have hloop : unset.root.LoopFree unset.source := Node.loopFree_of_forall (by decide)
  have hwrong : ∃ e, unset.Violates e :=
    ⟨_, (Node.mem_missingInitializers_iff.mp (List.mem_of_getElem? (i := 0) rfl)).1⟩
  obtain ⟨-, hleads, -⟩ := rejection?_leads rfl unset_laidOut hloop hwrong
  exact ⟨hrejected, (hleads _).mp hrejected⟩

/-- A script that declares `a` twice in one statement, before a constant without a
value. -/
def repeating : Script where
  source := "let a = 1, a = 2; const b;".toList
  root := .mk .program none ⟨0, 0, 0⟩ 26 false [
    .mk .lexicalDeclaration none ⟨0, 0, 0⟩ 17 false [
      .mk (.token "let") (some .kind) ⟨0, 0, 0⟩ 3 false [],
      .mk .variableDeclarator none ⟨4, 0, 4⟩ 9 false [
        .mk .identifier (some .name) ⟨4, 0, 4⟩ 5 false [],
        .mk (.token "=") none ⟨6, 0, 6⟩ 7 false [],
        .mk (.other "number") (some .value) ⟨8, 0, 8⟩ 9 false []],
      .mk (.token ",") none ⟨9, 0, 9⟩ 10 false [],
      .mk .variableDeclarator none ⟨11, 0, 11⟩ 16 false [
        .mk .identifier (some .name) ⟨11, 0, 11⟩ 12 false [],
        .mk (.token "=") none ⟨13, 0, 13⟩ 14 false [],
        .mk (.other "number") (some .value) ⟨15, 0, 15⟩ 16 false []],
      .mk (.token ";") none ⟨16, 0, 16⟩ 17 false []],
    .mk .lexicalDeclaration none ⟨18, 0, 18⟩ 26 false [
      .mk (.token "const") (some .kind) ⟨18, 0, 18⟩ 23 false [],
      .mk .variableDeclarator none ⟨24, 0, 24⟩ 25 false [
        .mk .identifier (some .name) ⟨24, 0, 24⟩ 25 false []],
      .mk (.token ";") none ⟨25, 0, 25⟩ 26 false []]]
  flawed := false

namespace Node

theorem repeating_declares_once_across {parent : Option Node} {scope n : Node}
    (hscope : repeating.root.HasScope parent scope) :
    ¬ RedeclaredAcross repeating.source parent scope n := by
  have hinner : ∀ p ∈ repeating.root.preorder, ∀ c ∈ p.namedChildren,
      c.kind.isScope = false := by
    decide
  have hloops (name : String) : ¬ repeating.root.LoopsTo repeating.source name :=
    not_loopsTo_of_forall (by decide)
  have hhoists (name : String) : ¬ repeating.root.HoistsTo repeating.source name := by
    rw [← mem_hoistedBelow_iff]
    exact List.not_mem_nil
  obtain ⟨hkind, ⟨rfl, rfl⟩ | ⟨p, hp, -, hc⟩⟩ := hscope
  · have hstatements : repeating.root.scopeStatements.Pairwise fun t t' =>
        ∀ n ∈ t'.lexicalNodes, n.name repeating.source ∉ t.lexicalNames repeating.source ∧
          n.name repeating.source ∉ t.functionNames repeating.source := by
      decide
    have hfunctions : ∀ t ∈ repeating.root.scopeStatements, t.functionNodes = [] := by
      decide
    intro h
    cases h with
    | lexical ht hn hclash =>
        rw [ht, List.pairwise_append] at hstatements
        cases hclash with
        | parameter hf => cases hf
        | hoisted h => exact h.elim (hhoists _) (hloops _)
        | earlier ht' h =>
            obtain ⟨hlexical, hfunction⟩ := hstatements.2.2 _ ht' _ List.mem_cons_self _ hn
            exact h.elim hlexical hfunction
    | function ht hn =>
        rw [hfunctions _ (ht ▸ List.mem_append_right _ List.mem_cons_self)] at hn
        exact List.not_mem_nil hn
  · rw [hinner p hp scope hc] at hkind
    cases hkind

end Node

/-- The name repeated in its statement is reported, and not the constant behind it, which
leads among what names of several statements have wrong. -/
theorem repeating_reported_within :
    repeating.flawed = false ∧ repeating.LaidOut ∧
    repeating.root.LoopFree repeating.source ∧
      (∃ e, EarlyError.Leads
        (repeating.root.Violation repeating.source
          (Node.RedeclaredAcross repeating.source)) e) ∧
      repeating.rejection? = some ⟨.early (.redeclared "a"), ⟨1, 12⟩⟩ ∧
      ¬ ∃ e, EarlyError.Leads
          (repeating.root.Violation repeating.source
            (Node.RedeclaredAcross repeating.source)) e ∧
        repeating.rejection? =
          some ⟨.early e.fault, e.node.location repeating.source⟩ := by
  have hmissing {e : EarlyError} (h : repeating.root.Violation repeating.source
      (Node.RedeclaredAcross repeating.source) e) : e.fault = .missingInitializer := by
    cases h with
    | uninitialized => rfl
    | redeclared hscope hn => exact absurd hn (Node.repeating_declares_once_across hscope)
  have hlaid : repeating.LaidOut := .of_take (by decide) (by decide) (by decide)
  have hrejected : repeating.rejection? = some ⟨.early (.redeclared "a"), ⟨1, 12⟩⟩ := rfl
  refine ⟨rfl, hlaid, Node.loopFree_of_forall (by decide), ?_, hrejected, ?_⟩
  · obtain ⟨e, he⟩ : ∃ e, repeating.root.missingInitializers repeating.source = [e] :=
      ⟨_, rfl⟩
    have hwrong : repeating.root.Violation repeating.source
        (Node.RedeclaredAcross repeating.source) e :=
      (Node.mem_missingInitializers_iff.mp (he ▸ List.mem_singleton_self e)).1
    refine ⟨e, hwrong, ?_, ?_⟩
    · intro e' he'
      have hmem := Node.mem_missingInitializers_iff.mpr ⟨he', hmissing he'⟩
      rw [he, List.mem_singleton] at hmem
      rw [hmem]
    · intro _ _ _ _
      exact hmissing hwrong
  · intro ⟨e, he, hreported⟩
    rw [hrejected, hmissing he.holds] at hreported
    cases hreported

end Script

end ScriptLint
