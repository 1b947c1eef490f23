import ScriptLint.Proofs.Check.BareName
import ScriptLint.Proofs.Check.Standard
import ScriptLint.Proofs.Script.Rejection

namespace ScriptLint

open ScriptLint.Script ScriptLint.Text

/-! When a script is warned that nothing defines `outputs`. -/

namespace Script.Node

variable {source : List Char} {name : String} {b d f : Node}

def IsPlain (source : List Char) (name : String) (b : Node) : Prop :=
  b.kind = .identifier ∧ b.name source = name

def Binds (source : List Char) (name : String) (b : Node) : Prop :=
  name ∈ b.bound.map (·.name source)

theorem construct_eq_binding_iff :
    d.construct source = .binding name ↔
      d.kind = .variableDeclarator ∧ ∃ b, d.child? .name = some b ∧
        b.IsPlain source name := by
  unfold construct IsPlain
  cases d.kind with
  | variableDeclarator =>
      cases d.child? .name with
      | none => simp
      | some b => by_cases hb : b.kind = .identifier <;> simp [hb]
  | _ => simp

theorem paramName?_eq_some_iff {i : Nat} :
    f.paramName? source i = some name ↔
      ∃ p, f.params[i]? = some p ∧ p.IsPlain source name := by
  rw [paramName?, Option.map_eq_some_iff]
  simp only [Option.filter_eq_some_iff, beq_iff_eq, and_assoc, IsPlain]

end Script.Node

/-- What a script binds in its declarators and as the parameters of its function. -/
def Context.Binds (c : Context) (P : Node → Prop) : Prop :=
  (∃ d ∈ c.script.root.preorder, d.kind = .variableDeclarator ∧
      ∃ b, d.child? .name = some b ∧ P b) ∨
    ∃ f, c.function? = some f ∧ ∃ p ∈ f.params, P p

namespace Check.Heuristics

variable {c : Context} {f : Node} {x : Finding} {source : List Char} {name : String}
  {k : Nat}

theorem binds_iff :
    binds c name = true ↔ ∃ d ∈ c.script.root.preorder, d.kind = .variableDeclarator ∧
      ∃ b, d.child? .name = some b ∧ b.IsPlain c.source name := by
  rw [binds, List.any_eq_true]
  simp only [beq_iff_eq, Node.construct_eq_binding_iff]

theorem hasParam_iff :
    hasParam source name f = true ↔ ∃ p ∈ f.params, p.IsPlain source name := by
  rw [hasParam, List.any_eq_true]
  simp only [beq_iff_eq, Node.paramName?_eq_some_iff, List.mem_range]
  constructor
  · intro h
    obtain ⟨i, -, p, hp, hplain⟩ := h
    exact ⟨p, List.mem_of_getElem? hp, hplain⟩
  · intro h
    obtain ⟨p, hp, hplain⟩ := h
    obtain ⟨i, hi, hget⟩ := List.mem_iff_getElem.mp hp
    exact ⟨i, hi, p, by rw [List.getElem?_eq_getElem hi, hget], hplain⟩

theorem binds_or_hasParam_iff :
    (binds c name || (c.function?.map (hasParam c.source name)).getD false) = true ↔
      c.Binds (Node.IsPlain c.source name) := by
  rw [Bool.or_eq_true, binds_iff, Context.Binds]
  apply or_congr_right
  cases c.function? with
  | none => simp
  | some f => simp [hasParam_iff]

def IsCode (line : List Char) : Prop := isCommentLine line = false

theorem head?_codeMatches_eq_some_iff {p : Pattern} :
    (codeMatches source p).head? = some k ↔
      ∃ line, FirstOf (fun l => IsCode l.1 ∧ p.matchesIn isWord l.1 = true)
        ((lines source).zipIdx 1) (line, k) := by
  rw [codeMatches, codeLines, List.head?_map, List.head?_filter, List.find?_filter,
    Option.map_eq_some_iff]
  simp only [Prod.exists, exists_eq_right]
  apply exists_congr
  intro line
  apply find?_eq_some_iff_firstOf
  intro l
  simp [IsCode]

def ambientFinding (entryName : String) (line : Nat) : Finding :=
  { kind := .bestPractice, severity := .warning
    message := "\x60outputs\x60 is not defined in the custom node runtime. "
      ++ s!"Return your values from \x60{entryName}\x60 instead: "
      ++ "\x60return \x7b OutputName: value \x7d\x60"
    line := some line }

theorem mem_ambientOutputs_iff :
    x ∈ ambientOutputs c ↔ ¬ c.Binds (Node.IsPlain c.source "outputs") ∧
      ∃ k, (codeMatches c.source outputsUse).head? = some k ∧
        x = ambientFinding c.entryName k := by
  unfold ambientOutputs
  cases (codeMatches c.source outputsUse).head? with
  | none => simp
  | some k =>
      rw [← binds_or_hasParam_iff]
      cases binds c "outputs" ||
        (c.function?.map (hasParam c.source "outputs")).getD false with
      | true => simp
      | false => simp [ambientFinding]

/-- All other findings of the check are notes. -/
theorem mem_findings_and_warning_iff :
    x ∈ findings c ∧ x.severity = .warning ↔ x ∈ ambientOutputs c := by
  constructor
  · intro ⟨hx, hwarning⟩
    have hnote (h : x.severity = .info) : x ∈ ambientOutputs c := by
      cases hwarning.symm.trans h
    rw [findings_eq, List.mem_append, List.mem_append, List.mem_append] at hx
    obtain ((hambient | hresult) | hstring) | hinputs := hx
    · exact hambient
    · cases hf : c.function? with
      | none => simp [hf] at hresult
      | some f =>
          rw [hf] at hresult
          exact hnote (mem_unusedResult hresult).2.1
    · exact hnote (mem_stringTypes hstring).2.1
    · cases hf : c.function? with
      | none => simp [hf] at hinputs
      | some f =>
          rw [hf] at hinputs
          exact hnote (mem_undeclaredInputs hinputs).2.1
  · intro hx
    refine ⟨?_, (mem_ambientOutputs hx).2⟩
    rw [findings_eq, List.append_assoc, List.append_assoc]
    exact List.mem_append_left _ hx

/-- The check warns only of `outputs`, at the first line of code with a use of the name by
itself, and it does so unless a declarator or a parameter of the function is that name and
no pattern. -/
theorem warning_iff_not_plainly_bound (c : Context) :
    ∃ fs, heuristics.run c = .ok fs ∧ ∀ x,
      (x ∈ fs ∧ x.severity = .warning) ↔
        ¬ c.Binds (Node.IsPlain c.source "outputs") ∧
          ∃ line k, FirstOf
              (fun l => IsCode l.1 ∧ Bare "outputs".toList (PastBlanks 0 ObjectUse) l.1)
              ((lines c.source).zipIdx 1) (line, k) ∧
            x = ambientFinding c.entryName k := by
  refine ⟨findings c, rfl, ?_⟩
  intro x
  rw [mem_findings_and_warning_iff, mem_ambientOutputs_iff]
  simp only [head?_codeMatches_eq_some_iff, matchesIn_outputsUse]
  apply and_congr_right'
  constructor
  · intro ⟨k, ⟨line, hfirst⟩, hx⟩
    exact ⟨line, k, hfirst, hx⟩
  · intro ⟨line, k, hfirst, hx⟩
    exact ⟨k, ⟨line, hfirst⟩, hx⟩

end Check.Heuristics

namespace Script

/-- A script that takes `outputs` out of an object and uses it. -/
def unpacking : Script where
  source := "let \x7boutputs\x7d = a; outputs.b = 1;".toList
  root := .mk .program none ⟨0, 0, 0⟩ 33 false [
    .mk .lexicalDeclaration none ⟨0, 0, 0⟩ 18 false [
      .mk (.token "let") (some .kind) ⟨0, 0, 0⟩ 3 false [],
      .mk .variableDeclarator none ⟨4, 0, 4⟩ 17 false [
        .mk .objectPattern (some .name) ⟨4, 0, 4⟩ 13 false [
          .mk (.token "\x7b") none ⟨4, 0, 4⟩ 5 false [],
          .mk .shorthandPattern none ⟨5, 0, 5⟩ 12 false [],
          .mk (.token "\x7d") none ⟨12, 0, 12⟩ 13 false []],
        .mk (.token "=") none ⟨14, 0, 14⟩ 15 false [],
        .mk .identifier (some .value) ⟨16, 0, 16⟩ 17 false []],
      .mk (.token ";") none ⟨17, 0, 17⟩ 18 false []],
    .mk (.other "expression_statement") none ⟨19, 0, 19⟩ 33 false [
      .mk (.other "assignment_expression") none ⟨19, 0, 19⟩ 32 false [
        .mk .memberExpression (some .left) ⟨19, 0, 19⟩ 28 false [
          .mk .identifier (some .object) ⟨19, 0, 19⟩ 26 false [],
          .mk (.token ".") none ⟨26, 0, 26⟩ 27 false [],
          .mk .propertyIdentifier (some .property) ⟨27, 0, 27⟩ 28 false []],
        .mk (.token "=") none ⟨29, 0, 29⟩ 30 false [],
        .mk (.other "number") (some (.other "right")) ⟨31, 0, 31⟩ 32 false []],
      .mk (.token ";") none ⟨32, 0, 32⟩ 33 false []]]
  flawed := false

end Script

namespace Check.Heuristics

def unpackingContext : Context := .ofScript .unpacking "processData" [] none

/-- A name bound in a pattern is taken for one that nothing defines. -/
theorem unpacking_warned :
    Script.unpacking.rejection? = none ∧
      unpackingContext.Binds (Node.Binds unpackingContext.source "outputs") ∧
      ∃ fs, heuristics.run unpackingContext = .ok fs ∧
        ambientFinding "processData" 1 ∈ fs := by
  have haccepted : Script.unpacking.rejection? = none := by
    rw [Script.rejection?, Node.find?_eq]
    rfl
  have hbinds : unpackingContext.Binds (Node.Binds unpackingContext.source "outputs") := by
    refine .inl ⟨_, List.mem_of_getElem? (i := 2) rfl, rfl, _, rfl, ?_⟩
    unfold Node.Binds
    decide
  have hplain :
      ¬ unpackingContext.Binds (Node.IsPlain unpackingContext.source "outputs") := by
    rw [← binds_or_hasParam_iff]
    decide
  have huse : (codeMatches unpackingContext.source outputsUse).head? = some 1 := by
    decide +kernel
  refine ⟨haccepted, hbinds, findings unpackingContext, rfl, ?_⟩
  exact (mem_findings_and_warning_iff.mpr
    (mem_ambientOutputs_iff.mpr ⟨hplain, 1, huse, rfl⟩)).1

end Check.Heuristics

end ScriptLint
