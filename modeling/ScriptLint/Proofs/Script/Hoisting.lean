import Mathlib.Data.List.Count
import ScriptLint.Proofs.Script.Rejection

namespace ScriptLint

open ScriptLint.Script

/-! Which names of a scope are reported, one by one, and what becomes of a script that has
one. -/

namespace Script

variable {source : List Char} {outer : List String} {name : String}

section Count

variable {α : Type} [DecidableEq α] {a b : α} {as bs : List α}

theorem two_le_count_cons : 2 ≤ (b :: as).count a ↔ 2 ≤ as.count a ∨ (b = a ∧ a ∈ as) := by
  rw [← List.count_pos_iff]
  by_cases h : b = a
  · rw [h, List.count_cons_self, eq_self, true_and]
    omega
  · rw [List.count_cons_of_ne h]
    exact (or_iff_left fun ha => h ha.1).symm

theorem two_le_count_append :
    2 ≤ (as ++ bs).count a ↔ 2 ≤ as.count a ∨ 2 ≤ bs.count a ∨ (a ∈ as ∧ a ∈ bs) := by
  rw [List.count_append, ← List.count_pos_iff, ← List.count_pos_iff]
  omega

end Count

namespace ScopeNames

/-! ### The names of one statement -/

theorem node_mem_declareName_iff {acc : ScopeNames × List Node} {n d : Node} :
    d ∈ (declareName source outer acc n).2 ↔
      d ∈ acc.2 ∨ (n = d ∧ ¬ acc.1.Free outer (d.name source)) := by
  have htaken :
      (acc.1.lexical.contains (n.name source) || acc.1.functions.contains (n.name source)
      || outer.contains (n.name source)) = true ↔ ¬ acc.1.Free outer (n.name source) := by
    simp only [Free, Bool.or_eq_true, List.contains_iff_mem]
    grind
  simp only [declareName]
  split
  · next h =>
      rw [htaken] at h
      rw [List.mem_append, List.mem_singleton]
      constructor
      · intro hd
        obtain hd | rfl := hd
        · exact .inl hd
        · exact .inr ⟨rfl, h⟩
      · intro hd
        exact hd.imp_right fun heq => heq.1.symm
  · next h =>
      rw [htaken, not_not] at h
      constructor
      · exact .inl
      · intro hd
        obtain hd | ⟨rfl, hfree⟩ := hd
        · exact hd
        · exact absurd h hfree

theorem mem_declareName_iff {acc : ScopeNames × List Node} {n : Node} :
    name ∈ (declareName source outer acc n).2.map (·.name source) ↔
      name ∈ acc.2.map (·.name source) ∨
        (n.name source = name ∧ ¬ acc.1.Free outer name) := by
  simp only [List.mem_map, node_mem_declareName_iff, or_and_right, exists_or]
  apply or_congr_right
  constructor
  · rintro ⟨d, ⟨rfl, hfree⟩, rfl⟩
    exact ⟨rfl, hfree⟩
  · rintro ⟨rfl, hfree⟩
    exact ⟨n, ⟨rfl, hfree⟩, rfl⟩

theorem free_declareName_iff {acc : ScopeNames × List Node} {n : Node} :
    (declareName source outer acc n).1.Free outer name ↔
      name ≠ n.name source ∧ acc.1.Free outer name := by
  rw [declareName, Free, Free, List.mem_cons, not_or, and_assoc]

/-- A lexical statement finds a name taken if it declares it twice or finds it not free. -/
theorem mem_foldl_declareName_iff (ns : List Node) (acc : ScopeNames × List Node) :
    name ∈ (ns.foldl (declareName source outer) acc).2.map (·.name source) ↔
      name ∈ acc.2.map (·.name source) ∨ 2 ≤ (ns.map (·.name source)).count name ∨
        (name ∈ ns.map (·.name source) ∧ ¬ acc.1.Free outer name) := by
  induction ns generalizing acc with
  | nil => simp
  | cons n ns ih =>
      rw [List.foldl_cons, ih, mem_declareName_iff, free_declareName_iff, List.map_cons,
        two_le_count_cons, List.mem_cons, eq_comm (a := name)]
      grind

theorem mem_declare_iff (names : ScopeNames) (statement : Node) :
    name ∈ (names.declare source outer statement).2.map (·.name source) ↔
      2 ≤ (statement.lexicalNames source).count name ∨
        (name ∈ statement.lexicalNames source ∧ ¬ names.Free outer name) ∨
        (name ∈ statement.functionNames source ∧ name ∈ names.lexical) := by
  obtain ⟨hl, hf, hd⟩ | ⟨n, hl, hf, hd⟩ | ⟨hl, hf, hd⟩ :=
    declare_cases source outer names statement
  · rw [hl, hf, hd, mem_foldl_declareName_iff]
    simp
  · rw [hl, hf, hd]
    simp only [List.count_nil, Nat.reduceLeDiff, List.not_mem_nil, List.mem_singleton,
      false_and, false_or]
    split
    · next hmem =>
        rw [List.contains_iff_mem] at hmem
        rw [List.map_singleton, List.mem_singleton]
        constructor
        · intro hname
          exact ⟨hname, hname ▸ hmem⟩
        · exact And.left
    · next hmem =>
        rw [List.contains_iff_mem] at hmem
        constructor
        · intro hname
          exact absurd hname List.not_mem_nil
        · intro hname
          exact absurd (hname.1 ▸ hname.2) hmem
  · simp [hl, hf, hd]

/-! ### The names of many statements -/

theorem free_declare_iff (names : ScopeNames) (statement : Node) :
    (names.declare source outer statement).1.Free outer name ↔
      name ∉ statement.lexicalNames source ∧ name ∉ statement.functionNames source ∧
        names.Free outer name := by
  simp only [Free, mem_declare_lexical, mem_declare_functions]
  grind

/-- Statements find a name taken if they declare it twice as lexical, declare it as lexical
where it is not free or is a function of theirs, or have a function of a lexical name met
before. -/
theorem mem_conflicts_iff (names : ScopeNames) (statements : List Node) :
    name ∈ (conflicts source outer names statements).map (·.name source) ↔
      2 ≤ (statements.flatMap (Node.lexicalNames source)).count name ∨
        (name ∈ statements.flatMap (Node.lexicalNames source) ∧
          (¬ names.Free outer name ∨
            name ∈ statements.flatMap (Node.functionNames source))) ∨
        (name ∈ statements.flatMap (Node.functionNames source) ∧
          name ∈ names.lexical) := by
  induction statements generalizing names with
  | nil => simp [conflicts]
  | cons s rest ih =>
      -- The lexical names of `s` are not free for the rest; its functions come before it.
      have hexcl : name ∈ s.lexicalNames source → name ∉ s.functionNames source :=
        not_mem_functionNames
      have hbound : name ∈ names.lexical → ¬ names.Free outer name :=
        fun hl hfree => hfree.1 hl
      rw [conflicts, List.map_append, List.mem_append, mem_declare_iff, ih,
        free_declare_iff, mem_declare_lexical, List.flatMap_cons, List.flatMap_cons,
        two_le_count_append, List.mem_append, List.mem_append]
      grind

end ScopeNames

/-! ### The names of a scope -/

namespace Node

/-- Why a lexical name of a scope is not its own. Of the variables below the scope only
those of statements count. -/
inductive Taken (source : List Char) (parent : Option Node) (scope : Node)
    (name : String) : Prop
  | twice (h : 2 ≤ (scope.scopeStatements.flatMap (lexicalNames source)).count name)
  | parameter {f : Node} (hf : parent = some f) (h : name ∈ f.paramNames source)
  | hoisted (h : scope.HoistsTo source name)
  | function (h : name ∈ scope.scopeStatements.flatMap (functionNames source))

theorem taken_iff {parent : Option Node} {scope : Node} :
    scope.Taken source parent name ↔
      2 ≤ (scope.scopeStatements.flatMap (lexicalNames source)).count name ∨
        ((∃ f, parent = some f ∧ name ∈ f.paramNames source) ∨
          scope.HoistsTo source name) ∨
        name ∈ scope.scopeStatements.flatMap (functionNames source) := by
  constructor
  · intro h
    cases h with
    | twice h => exact .inl h
    | parameter hf h => exact .inr (.inl (.inl ⟨_, hf, h⟩))
    | hoisted h => exact .inr (.inl (.inr h))
    | function h => exact .inr (.inr h)
  · rintro (h | (⟨f, hf, h⟩ | h) | h)
    · exact .twice h
    · exact .parameter hf h
    · exact .hoisted h
    · exact .function h

theorem conflicts_eq (parent : Option Node) (scope : Node) :
    scope.conflicts source parent =
      ScopeNames.conflicts source
        (parent.toList.flatMap (paramNames source) ++ hoistedBelow source scope.children)
          ⟨[], []⟩
        scope.scopeStatements := by
  cases parent with
  | none => rfl
  | some f => simp [conflicts, paramNames]

theorem mem_conflicts_iff_taken (parent : Option Node) {scope : Node}
    (hname : name ∈ scope.scopeStatements.flatMap (lexicalNames source)) :
    name ∈ (scope.conflicts source parent).map (·.name source) ↔
      scope.Taken source parent name := by
  have hfree : ScopeNames.Free
      (parent.toList.flatMap (paramNames source) ++ hoistedBelow source scope.children)
        ⟨[], []⟩
      name ↔ ¬ ((∃ f, parent = some f ∧ name ∈ f.paramNames source) ∨
        scope.HoistsTo source name) := by
    rw [ScopeNames.Free, List.mem_append, mem_hoistedBelow_iff, List.mem_flatMap]
    simp only [Option.mem_toList, List.not_mem_nil, not_false_eq_true, true_and]
  rw [conflicts_eq, ScopeNames.mem_conflicts_iff, taken_iff, hfree, not_not]
  simp only [hname, List.not_mem_nil, true_and, and_false, or_false]

theorem mem_earlyErrors_of_mem_conflicts {root : Node} {parent : Option Node}
    {scope n : Node} (hscope : root.HasScope parent scope)
    (hn : n ∈ scope.conflicts source parent) :
    ⟨n, .redeclared (n.name source)⟩ ∈ root.earlyErrors source := by
  obtain ⟨hkind, hplace⟩ := hscope
  apply List.mem_append_right
  apply List.mem_flatMap.mpr
  refine ⟨(parent, scope), ?_, List.mem_map_of_mem hn⟩
  rw [List.mem_filter, mem_withParents]
  exact ⟨hplace, hkind⟩

end Node

variable {s : Script}

/-- Wrong declarations in a tree without repairs reject the script, at the first of
them. -/
theorem rejection?_early (hflawed : s.flawed = false)
    (h : s.root.earlyErrors s.source ≠ []) :
    ∃ e, FirstOf (EarlyError.Earliest (s.root.earlyErrors s.source))
        (s.root.earlyErrors s.source) e ∧
      s.rejection? = some ⟨.early e.fault, e.node.location s.source⟩ := by
  cases hfirst : EarlyError.first? (s.root.earlyErrors s.source) with
  | none => exact absurd ((EarlyError.first?_eq_none_iff _).mp hfirst) h
  | some e =>
      refine ⟨e, EarlyError.first?_eq_some_iff.mp hfirst, ?_⟩
      unfold rejection?
      rw [hflawed, if_neg Bool.false_ne_true, hfirst]
      rfl

/-- In a tree without repairs a lexical name of a scope is reported exactly if it is taken,
and then the script is rejected for its declarations. -/
theorem taken_name_rejected (hflawed : s.flawed = false) {parent : Option Node}
    {scope : Node} (hscope : s.root.HasScope parent scope)
    (hname : name ∈ scope.scopeStatements.flatMap (Node.lexicalNames s.source)) :
    (name ∈ (scope.conflicts s.source parent).map (·.name s.source) ↔
      scope.Taken s.source parent name) ∧
    (scope.Taken s.source parent name →
      ∃ e, FirstOf (EarlyError.Earliest (s.root.earlyErrors s.source))
          (s.root.earlyErrors s.source) e ∧
        s.rejection? = some ⟨.early e.fault, e.node.location s.source⟩) := by
  have htaken := Node.mem_conflicts_iff_taken parent hname
  refine ⟨htaken, ?_⟩
  intro h
  obtain ⟨n, hn, -⟩ := List.mem_map.mp (htaken.mpr h)
  apply rejection?_early hflawed
  exact List.ne_nil_of_mem (Node.mem_earlyErrors_of_mem_conflicts hscope hn)

/-- A script that declares `v` as lexical and, in a block, as a variable. -/
def hoisting : Script where
  source := "let v;\x7bvar v\x7d".toList
  root := .mk .program none ⟨0, 0, 0⟩ 13 false [
    .mk .lexicalDeclaration none ⟨0, 0, 0⟩ 6 false [
      .mk (.token "let") (some .kind) ⟨0, 0, 0⟩ 3 false [],
      .mk .variableDeclarator none ⟨4, 0, 4⟩ 5 false [
        .mk .identifier (some .name) ⟨4, 0, 4⟩ 5 false []],
      .mk (.token ";") none ⟨5, 0, 5⟩ 6 false []],
    .mk .statementBlock none ⟨6, 0, 6⟩ 13 false [
      .mk (.token "\x7b") none ⟨6, 0, 6⟩ 7 false [],
      .mk .variableDeclaration none ⟨7, 0, 7⟩ 12 false [
        .mk (.token "var") none ⟨7, 0, 7⟩ 10 false [],
        .mk .variableDeclarator none ⟨11, 0, 11⟩ 12 false [
          .mk .identifier (some .name) ⟨11, 0, 11⟩ 12 false []]],
      .mk (.token "\x7d") none ⟨12, 0, 12⟩ 13 false []]]
  flawed := false

theorem hoisting_rejected :
    hoisting.root.HoistsTo hoisting.source "v" ∧
      ∃ e, FirstOf (EarlyError.Earliest (hoisting.root.earlyErrors hoisting.source))
          (hoisting.root.earlyErrors hoisting.source) e ∧
        hoisting.rejection? = some ⟨.early e.fault, e.node.location hoisting.source⟩ := by
  have hscope : hoisting.root.HasScope none hoisting.root := ⟨rfl, .inl ⟨rfl, rfl⟩⟩
  have hname :
      "v" ∈ hoisting.root.scopeStatements.flatMap (Node.lexicalNames hoisting.source) := by
    decide
  have hhoists : hoisting.root.HoistsTo hoisting.source "v" := by
    rw [← Node.mem_hoistedBelow_iff]
    decide
  exact ⟨hhoists, (taken_name_rejected rfl hscope hname).2 (.hoisted hhoists)⟩

/-! ### Variables in the heads of loops -/

namespace Node

/-- The names that the head of a loop over a collection declares as variables. -/
def loopNames (source : List Char) (n : Node) : List String :=
  if n.kind = .other "for_in_statement" ∧
    (n.child? .kind).map kind = some (.token "var") then
    (((n.child? .left).map bound).getD []).map (·.name source)
  else []

/-- A variable declared in the head of a loop below a scope, with no function in
between. -/
def LoopsTo (source : List Char) (scope : Node) (name : String) : Prop :=
  ∃ d, Within scope d ∧ name ∈ d.loopNames source

end Node

/-- A script that declares `v` as lexical and, in the head of a loop, as a variable. -/
def looping : Script where
  source := "let v = 1; for (var v of xs) \x7b\x7d".toList
  root := .mk .program none ⟨0, 0, 0⟩ 31 false [
    .mk .lexicalDeclaration none ⟨0, 0, 0⟩ 10 false [
      .mk (.token "let") (some .kind) ⟨0, 0, 0⟩ 3 false [],
      .mk .variableDeclarator none ⟨4, 0, 4⟩ 9 false [
        .mk .identifier (some .name) ⟨4, 0, 4⟩ 5 false [],
        .mk (.token "=") none ⟨6, 0, 6⟩ 7 false [],
        .mk (.other "number") (some .value) ⟨8, 0, 8⟩ 9 false []],
      .mk (.token ";") none ⟨9, 0, 9⟩ 10 false []],
    .mk (.other "for_in_statement") none ⟨11, 0, 11⟩ 31 false [
      .mk (.token "for") none ⟨11, 0, 11⟩ 14 false [],
      .mk (.token "(") none ⟨15, 0, 15⟩ 16 false [],
      .mk (.token "var") (some .kind) ⟨16, 0, 16⟩ 19 false [],
      .mk .identifier (some .left) ⟨20, 0, 20⟩ 21 false [],
      .mk (.token "of") (some (.other "operator")) ⟨22, 0, 22⟩ 24 false [],
      .mk .identifier (some (.other "right")) ⟨25, 0, 25⟩ 27 false [],
      .mk (.token ")") none ⟨27, 0, 27⟩ 28 false [],
      .mk .statementBlock (some .body) ⟨29, 0, 29⟩ 31 false [
        .mk (.token "\x7b") none ⟨29, 0, 29⟩ 30 false [],
        .mk (.token "\x7d") none ⟨30, 0, 30⟩ 31 false []]]]
  flawed := false

/-- The variable of the loop is overlooked: the script is accepted. -/
theorem looping_accepted :
    looping.flawed = false ∧ (∀ n ∈ looping.root.preorderAll, n.isFault = false) ∧
      looping.root.HasScope none looping.root ∧
      "v" ∈ looping.root.scopeStatements.flatMap (Node.lexicalNames looping.source) ∧
      looping.root.LoopsTo looping.source "v" ∧ looping.rejection? = none := by
  have hloops : looping.root.LoopsTo looping.source "v" := by
    refine ⟨_, .child (List.mem_of_getElem? (i := 1) rfl), ?_⟩
    decide
  have haccepted : looping.rejection? = none := by
    rw [rejection?, Node.find?_eq]
    rfl
  exact ⟨rfl, by decide, ⟨rfl, .inl ⟨rfl, rfl⟩⟩, by decide, hloops, haccepted⟩

end Script

end ScriptLint
