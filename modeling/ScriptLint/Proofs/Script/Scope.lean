import Mathlib.Data.List.Nodup
import Mathlib.Tactic.MkIffOfInductiveProp
import ScriptLint.Proofs.Script.Tree

namespace ScriptLint.Script

/-! Declarations that agree with one another, said without an order of visiting. -/

variable {source : List Char}

/-! ### What a scope declares -/

namespace Node

/-- The names that a statement binds in its scope for good. -/
def lexicalNames (source : List Char) (statement : Node) : List String :=
  match statement.kind with
  | .lexicalDeclaration | .classDeclaration =>
      statement.lexicallyDeclared.map (·.name source)
  | _ => []

/-- The name of the function that a statement declares. -/
def functionNames (source : List Char) (statement : Node) : List String :=
  match statement.kind with
  | .functionDeclaration | .generatorFunctionDeclaration =>
      (statement.child? .name).toList.map (·.name source)
  | _ => []

/-- `Within n d`: `d` lies below `n`, and no function lies between them. -/
inductive Within : Node → Node → Prop
  | child {n c : Node} (hc : c ∈ n.namedChildren) : Within n c
  | deeper {n c d : Node} (hc : c ∈ n.namedChildren)
      (hfun : c.kind.isFunctionBoundary = false)
      (hd : Within c d) : Within n d

/-- A variable declared below a scope that comes up to it. -/
def HoistsTo (source : List Char) (scope : Node) (name : String) : Prop :=
  ∃ d, Within scope d ∧ d.kind = .variableDeclaration ∧
    name ∈ d.declared.map (·.name source)

def paramNames (source : List Char) (f : Node) : List String :=
  if f.kind.isFunctionBoundary then f.boundParams.map (·.name source) else []

/-- `root.HasScope parent scope`: a scope of the tree, with the node around it. If this is
a function, the scope is its body. -/
def HasScope (root : Node) (parent : Option Node) (scope : Node) : Prop :=
  scope.kind.isScope = true ∧
    (parent = none ∧ scope = root ∨
      ∃ p ∈ root.preorder, parent = some p ∧ scope ∈ p.namedChildren)

def IsConst (source : List Char) (decl : Node) : Prop :=
  ∃ word, decl.child? .kind = some word ∧ word.text source = "const".toList

/-- No lexical name of a scope is declared again: not by another lexical declaration, nor
by a function of the scope, a variable below it or a parameter of the function whose body
it is. -/
@[mk_iff]
structure ScopeAgrees (source : List Char) (parent : Option Node)
    (scope : Node) : Prop where
  lexical : (scope.scopeStatements.flatMap (lexicalNames source)).Nodup
  others : ∀ name ∈ scope.scopeStatements.flatMap (lexicalNames source),
    name ∉ scope.scopeStatements.flatMap (functionNames source) ∧
      ¬ scope.HoistsTo source name ∧
      ∀ f, parent = some f → name ∉ f.paramNames source

/-- A tree whose constants have values and whose scopes each declare a name once. -/
structure Agrees (source : List Char) (root : Node) : Prop where
  constants : ∀ decl ∈ root.preorder, decl.kind = .lexicalDeclaration →
  decl.IsConst source →
    ∀ d ∈ decl.declarators, (d.child? .value).isSome = true
  scopes : ∀ parent scope, root.HasScope parent scope → scope.ScopeAgrees source parent

theorem Within.mem_preorder {n d : Node} (h : Within n d) : d ∈ n.preorder := by
  induction h with
  | child hc => exact mem_preorder_of_child hc (self_mem_preorder _)
  | deeper hc _ _ ih => exact mem_preorder_of_child hc ih

/-! ### Variables that come up -/

theorem hoisted_eq (n : Node) :
    n.hoisted source =
      (if n.kind == .variableDeclaration then n.declared.map (·.name source) else []) ++
        (if n.kind.isFunctionBoundary then [] else hoistedBelow source n.children) := by
  cases n with
  | mk => rfl

theorem hoistedBelow_eq (cs : List Node) :
    hoistedBelow source cs = (cs.filter isNamed).flatMap (hoisted source) := by
  induction cs with
  | nil => rfl
  | cons c cs ih =>
      by_cases hc : c.isNamed <;> simp [hoistedBelow, hc, ih]

theorem mem_hoistedBelow_iff {n : Node} {name : String} :
    name ∈ hoistedBelow source n.children ↔ n.HoistsTo source name := by
  rw [hoistedBelow_eq, List.mem_flatMap]
  constructor
  · induction n using induct with
    | h n ih =>
        rintro ⟨c, hc, hname⟩
        rw [hoisted_eq, List.mem_append] at hname
        rcases hname with hname | hname
        · by_cases hk : c.kind = .variableDeclaration
          · rw [if_pos (beq_iff_eq.mpr hk)] at hname
            exact ⟨c, .child hc, hk, hname⟩
          · simp [hk] at hname
        · by_cases hfun : c.kind.isFunctionBoundary
          · simp [hfun] at hname
          · rw [if_neg hfun, hoistedBelow_eq, List.mem_flatMap] at hname
            obtain ⟨d, hd, hk, hmem⟩ := ih c (mem_namedChildren.mp hc).1 hname
            exact ⟨d, .deeper hc (by simpa using hfun) hd, hk, hmem⟩
  · rintro ⟨d, hd, hk, hmem⟩
    induction hd with
    | child hc => exact ⟨_, hc, by simp [hoisted_eq, hk, hmem]⟩
    | deeper hc hfun _ ih =>
        refine ⟨_, hc, ?_⟩
        rw [hoisted_eq, hfun, hoistedBelow_eq, List.mem_append]
        exact .inr (List.mem_flatMap.mpr (ih hk hmem))

end Node

/-! ### Statement by statement -/

namespace ScopeNames

variable {outer : List String}

/-- Whether a lexical declaration may take a name. -/
def Free (outer : List String) (names : ScopeNames) (name : String) : Prop :=
  name ∉ names.lexical ∧ name ∉ names.functions ∧ name ∉ outer

def declareName (source : List Char) (outer : List String) (acc : ScopeNames × List Node)
    (n : Node) : ScopeNames × List Node :=
  let name := n.name source
  let taken :=
    acc.1.lexical.contains name || acc.1.functions.contains name || outer.contains name
  ({ acc.1 with lexical := name :: acc.1.lexical }, if taken then acc.2 ++ [n] else acc.2)

theorem declareName_snd_eq_nil_iff {acc : ScopeNames × List Node} {n : Node} :
    (declareName source outer acc n).2 = [] ↔
      acc.2 = [] ∧ acc.1.Free outer (n.name source) := by
  simp only [declareName, Free]
  split
  · rename_i h
    simp only [Bool.or_eq_true, List.contains_iff_mem] at h
    simp
    tauto
  · rename_i h
    simp only [Bool.or_eq_true, List.contains_iff_mem, not_or] at h
    tauto

theorem foldl_declareName_fst (ns : List Node) (acc : ScopeNames × List Node) :
    (ns.foldl (declareName source outer) acc).1 =
      { acc.1 with lexical := (ns.map (·.name source)).reverse ++ acc.1.lexical } := by
  induction ns generalizing acc with
  | nil => simp
  | cons n ns ih => simp [ih, declareName]

/-- A lexical statement finds its names free exactly if they are, and differ from one
another. -/
theorem foldl_declareName_snd_eq_nil_iff (ns : List Node) (acc : ScopeNames × List Node) :
    (ns.foldl (declareName source outer) acc).2 = [] ↔
      acc.2 = [] ∧ (ns.map (·.name source)).Nodup ∧
        ∀ name ∈ ns.map (·.name source), acc.1.Free outer name := by
  induction ns generalizing acc with
  | nil => simp
  | cons n ns ih =>
      rw [List.foldl_cons, ih, declareName_snd_eq_nil_iff, List.map_cons, List.nodup_cons,
        List.forall_mem_cons]
      have hfree : (∀ name ∈ ns.map (·.name source),
            (declareName source outer acc n).1.Free outer name) ↔
          n.name source ∉ ns.map (·.name source) ∧
            ∀ name ∈ ns.map (·.name source), acc.1.Free outer name := by
        simp only [declareName, Free, List.mem_cons, not_or]
        constructor
        · intro h
          exact ⟨fun hn => (h _ hn).1.1 rfl, fun x hx => ⟨(h x hx).1.2, (h x hx).2⟩⟩
        · rintro ⟨hn, h⟩ x hx
          exact ⟨⟨fun hxn => hn (hxn ▸ hx), (h x hx).1⟩, (h x hx).2⟩
      rw [hfree]
      tauto

/-- What a statement can be to its scope: lexical, a function with a name, or neither. -/
theorem declare_cases (source : List Char) (outer : List String) (names : ScopeNames)
    (statement : Node) :
    (statement.lexicalNames source = statement.lexicallyDeclared.map (·.name source) ∧
      statement.functionNames source = [] ∧
      names.declare source outer statement =
        statement.lexicallyDeclared.foldl (declareName source outer) (names, [])) ∨
    (∃ n, statement.lexicalNames source = [] ∧
      statement.functionNames source = [n.name source] ∧
      names.declare source outer statement =
        ({ names with functions := n.name source :: names.functions },
          if names.lexical.contains (n.name source) then [n] else [])) ∨
    (statement.lexicalNames source = [] ∧ statement.functionNames source = [] ∧
      names.declare source outer statement = (names, [])) := by
  unfold Node.lexicalNames Node.functionNames declare
  cases statement.kind with
  | lexicalDeclaration | classDeclaration => exact .inl ⟨rfl, rfl, rfl⟩
  | functionDeclaration | generatorFunctionDeclaration =>
      cases statement.child? .name with
      | some n => exact .inr (.inl ⟨n, rfl, rfl, rfl⟩)
      | none => exact .inr (.inr ⟨rfl, rfl, rfl⟩)
  | _ => exact .inr (.inr ⟨rfl, rfl, rfl⟩)

theorem not_mem_functionNames {statement : Node} {name : String}
    (h : name ∈ statement.lexicalNames source) :
    name ∉ statement.functionNames source := by
  rcases declare_cases source [] ⟨[], []⟩ statement with
    ⟨-, hf, -⟩ | ⟨-, hl, -, -⟩ | ⟨hl, -, -⟩
  · simp [hf]
  · simp [hl] at h
  · simp [hl] at h

theorem declare_snd_eq_nil_iff (names : ScopeNames) (statement : Node) :
    (names.declare source outer statement).2 = [] ↔
      (statement.lexicalNames source).Nodup ∧
        (∀ name ∈ statement.lexicalNames source, names.Free outer name) ∧
        ∀ name ∈ statement.functionNames source, name ∉ names.lexical := by
  rcases declare_cases source outer names statement with
    ⟨hl, hf, hd⟩ | ⟨n, hl, hf, hd⟩ | ⟨hl, hf, hd⟩
  · simp [hl, hf, hd, foldl_declareName_snd_eq_nil_iff]
  · simp [hl, hf, hd]
  · simp [hl, hf, hd]

theorem mem_declare_lexical (names : ScopeNames) (statement : Node) (name : String) :
    name ∈ (names.declare source outer statement).1.lexical ↔
      name ∈ statement.lexicalNames source ∨ name ∈ names.lexical := by
  rcases declare_cases source outer names statement with
    ⟨hl, hf, hd⟩ | ⟨n, hl, hf, hd⟩ | ⟨hl, hf, hd⟩
  · simp [hl, hd, foldl_declareName_fst]
  · simp [hl, hd]
  · simp [hl, hd]

theorem mem_declare_functions (names : ScopeNames) (statement : Node) (name : String) :
    name ∈ (names.declare source outer statement).1.functions ↔
      name ∈ statement.functionNames source ∨ name ∈ names.functions := by
  rcases declare_cases source outer names statement with
    ⟨hl, hf, hd⟩ | ⟨n, hl, hf, hd⟩ | ⟨hl, hf, hd⟩
  · simp [hf, hd, foldl_declareName_fst]
  · simp [hf, hd]
  · simp [hf, hd]

/-- Statements find no name taken exactly if their lexical names are free, differ from one
another and from those of their functions. The names met so far come from both sides. -/
theorem conflicts_eq_nil_iff (names : ScopeNames) (statements : List Node) :
    conflicts source outer names statements = [] ↔
      (statements.flatMap (Node.lexicalNames source)).Nodup ∧
        (∀ name ∈ statements.flatMap (Node.lexicalNames source), names.Free outer name ∧
          name ∉ statements.flatMap (Node.functionNames source)) ∧
        ∀ name ∈ statements.flatMap (Node.functionNames source), name ∉ names.lexical := by
  induction statements generalizing names with
  | nil => simp [conflicts]
  | cons s rest ih =>
      simp only [conflicts, List.append_eq_nil_iff, ih, declare_snd_eq_nil_iff,
        List.flatMap_cons, List.nodup_append, List.mem_append, Free, mem_declare_lexical,
        mem_declare_functions]
      constructor
      · rintro ⟨⟨hs, hfree, hfun⟩, hrest, hfrees, hfuns⟩
        refine ⟨⟨hs, hrest, ?_⟩, ?_, ?_⟩
        · rintro x hx y hy rfl
          exact (hfrees x hy).1.1 (.inl hx)
        · rintro x (hx | hx)
          · refine ⟨hfree x hx, ?_⟩
            rintro (hf | hf)
            · exact not_mem_functionNames hx hf
            · exact hfuns x hf (.inl hx)
          · obtain ⟨⟨hl, hf, ho⟩, hr⟩ := hfrees x hx
            exact ⟨⟨fun h => hl (.inr h), fun h => hf (.inr h), ho⟩,
              fun h => h.elim (fun h => hf (.inl h)) hr⟩
        · rintro x (hx | hx)
          · exact hfun x hx
          · exact fun h => hfuns x hx (.inr h)
      · rintro ⟨⟨hs, hrest, hne⟩, hfree, hfun⟩
        refine ⟨⟨hs, fun x hx => (hfree x (.inl hx)).1, fun x hx => hfun x (.inl hx)⟩,
          hrest, ?_, ?_⟩
        · intro x hx
          obtain ⟨⟨hl, hf, ho⟩, hr⟩ := hfree x (.inr hx)
          refine ⟨⟨fun h => h.elim (fun h => hne x h x hx rfl) hl,
            fun h => h.elim (fun h => hr (.inl h)) hf, ho⟩, fun h => hr (.inr h)⟩
        · rintro x hx (h | h)
          · exact (hfree x (.inl h)).2 (.inr hx)
          · exact hfun x (.inr hx) h

end ScopeNames

/-! ### Whole trees -/

namespace Node

theorem conflicts_eq_nil_iff (parent : Option Node) (scope : Node) :
    scope.conflicts source parent = [] ↔ scope.ScopeAgrees source parent := by
  unfold conflicts
  rw [ScopeNames.conflicts_eq_nil_iff]
  constructor
  · rintro ⟨hlexical, hothers, -⟩
    refine ⟨hlexical, fun name hname => ?_⟩
    obtain ⟨⟨-, -, houter⟩, hfun⟩ := hothers name hname
    rw [List.mem_append, not_or, mem_hoistedBelow_iff] at houter
    refine ⟨hfun, houter.2, ?_⟩
    rintro f rfl
    exact houter.1
  · rintro ⟨hlexical, hothers⟩
    refine ⟨hlexical, fun name hname => ?_, by simp⟩
    obtain ⟨hfun, hvar, hparam⟩ := hothers name hname
    refine ⟨⟨by simp, by simp, ?_⟩, hfun⟩
    rw [List.mem_append, not_or, mem_hoistedBelow_iff]
    refine ⟨?_, hvar⟩
    cases parent with
    | none => simp
    | some f => exact hparam f rfl

theorem uninitialized_eq_nil_iff (decl : Node) :
    decl.uninitialized source = [] ↔
      (decl.IsConst source → ∀ d ∈ decl.declarators, (d.child? .value).isSome = true) := by
  unfold uninitialized IsConst
  cases decl.child? .kind with
  | none => simp
  | some word =>
      by_cases hword : word.text source = "const".toList <;>
        simp [hword, Option.isSome_iff_ne_none]

theorem agrees_iff_forall (root : Node) :
    root.Agrees source ↔
      (∀ decl ∈ root.preorder, decl.kind = .lexicalDeclaration →
        decl.uninitialized source = []) ∧
        ∀ v ∈ root.withParents none, v.2.kind.isScope = true →
          v.2.ScopeAgrees source v.1 := by
  simp only [uninitialized_eq_nil_iff, Prod.forall, mem_withParents]
  constructor
  · rintro ⟨hconst, hscope⟩
    exact ⟨hconst, fun parent scope h hk => hscope parent scope ⟨hk, h⟩⟩
  · rintro ⟨hconst, hscope⟩
    exact ⟨hconst, fun parent scope h => hscope parent scope h.2 h.1⟩

theorem earlyErrors_eq_nil_iff (root : Node) :
    root.earlyErrors source = [] ↔ root.Agrees source := by
  rw [agrees_iff_forall]
  simp [earlyErrors, conflicts_eq_nil_iff]

end Node

theorem EarlyError.first?_eq_none_iff (es : List EarlyError) :
    first? es = none ↔ es = [] := by
  cases es with
  | nil => simp [first?]
  | cons e es =>
      cases h : first? es with
      | none => simp [first?, h]
      | some f =>
          by_cases hf : f.node.start.byte < e.node.start.byte <;> simp [first?, h, hf]

end ScriptLint.Script
