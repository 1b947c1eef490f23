import ScriptLint.Proofs.Script.Blame
import ScriptLint.Proofs.Script.Construct

namespace ScriptLint

open ScriptLint.Script

/-! What keeps a tree from being a script, and which of several obstacles is reported. -/

/-! ### First entries -/

/-- The first entry of a list with a property. -/
def FirstOf {α : Type} (p : α → Prop) (l : List α) (a : α) : Prop :=
  p a ∧ ∃ front back, l = front ++ a :: back ∧ ∀ b ∈ front, ¬ p b

section FirstOf

variable {α : Type} {p : α → Prop} {q : α → Bool} {l : List α} {a b : α}

theorem find?_eq_some_iff_firstOf (hq : ∀ a, q a = true ↔ p a) :
    l.find? q = some a ↔ FirstOf p l a := by
  rw [List.find?_eq_some_iff_append, FirstOf, hq]
  simp only [Bool.not_eq_true', ← Bool.not_eq_true, hq]

theorem find?_eq_none_iff_forall (hq : ∀ a, q a = true ↔ p a) :
    l.find? q = none ↔ ¬ ∃ a ∈ l, p a := by
  rw [List.find?_eq_none]
  simp only [hq, not_exists, not_and]

theorem FirstOf.unique (ha : FirstOf p l a) (hb : FirstOf p l b) : a = b := by
  classical
  have hq (a : α) : decide (p a) = true ↔ p a := decide_eq_true_iff
  have hfind := (find?_eq_some_iff_firstOf hq).mpr ha
  rw [(find?_eq_some_iff_firstOf hq).mpr hb] at hfind
  exact (Option.some.inj hfind).symm

/-- The first entry with a property is found as well where only entries of a kind are kept
that all those with the property are of. -/
theorem firstOf_filter_iff (hq : ∀ a, p a → q a = true) :
    FirstOf p (l.filter q) a ↔ FirstOf p l a := by
  classical
  have hp (a : α) : decide (p a) = true ↔ p a := decide_eq_true_iff
  have hboth (a : α) : decide (q a = true ∧ decide (p a) = true) = true ↔ p a := by
    rw [decide_eq_true_iff, hp, and_iff_right_of_imp (hq a)]
  rw [← find?_eq_some_iff_firstOf hp, List.find?_filter, find?_eq_some_iff_firstOf hboth]

theorem exists_mem_filter_iff (hq : ∀ a, p a → q a = true) :
    (∃ a ∈ l.filter q, p a) ↔ ∃ a ∈ l, p a := by
  simp only [List.mem_filter, and_assoc]
  exact exists_congr fun a => and_congr_right' ⟨And.right, fun ha => ⟨hq a ha, ha⟩⟩

theorem FirstOf.mem (h : FirstOf p l a) : a ∈ l := by
  obtain ⟨-, front, back, rfl, -⟩ := h
  exact List.mem_append_right _ List.mem_cons_self

end FirstOf

namespace Script

namespace EarlyError

/-- No error of a list begins before this one. -/
def Earliest (es : List EarlyError) (e : EarlyError) : Prop :=
  ∀ f ∈ es, e.node.start.byte ≤ f.node.start.byte

theorem firstOf_of_first? {es : List EarlyError} {e : EarlyError}
    (h : first? es = some e) : FirstOf (Earliest es) es e := by
  induction es generalizing e with
  | nil => cases h
  | cons x rest ih =>
      cases hrest : first? rest with
      | none =>
          obtain rfl : x = e := by simpa [first?, hrest] using h
          obtain rfl := (first?_eq_none_iff rest).mp hrest
          refine ⟨fun f hf => ?_, [], [], rfl, List.forall_mem_nil _⟩
          obtain rfl := List.mem_singleton.mp hf
          exact Nat.le_refl _
      | some f =>
          obtain ⟨hearliest, front, back, hsplit, hfront⟩ := ih hrest
          by_cases hbefore : f.node.start.byte < x.node.start.byte
          · obtain rfl : f = e := by simpa [first?, hrest, hbefore] using h
            refine ⟨?_, x :: front, back, by rw [hsplit]; rfl, ?_⟩
            · exact List.forall_mem_cons.mpr ⟨Nat.le_of_lt hbefore, hearliest⟩
            · intro b hb hbearliest
              rcases List.mem_cons.mp hb with rfl | hb
              · have hmem : f ∈ rest := by simp [hsplit]
                exact absurd (hbearliest f (List.mem_cons_of_mem _ hmem))
                  (Nat.not_le.mpr hbefore)
              · exact hfront b hb fun g hg => hbearliest g (List.mem_cons_of_mem _ hg)
          · obtain rfl : x = e := by simpa [first?, hrest, hbefore] using h
            refine ⟨?_, [], rest, rfl, List.forall_mem_nil _⟩
            have hle := Nat.not_lt.mp hbefore
            exact List.forall_mem_cons.mpr
              ⟨Nat.le_refl _, fun g hg => Nat.le_trans hle (hearliest g hg)⟩

/-- Of several early errors, the first of those that begin earliest is taken. -/
theorem first?_eq_some_iff {es : List EarlyError} {e : EarlyError} :
    first? es = some e ↔ FirstOf (Earliest es) es e := by
  constructor
  · exact firstOf_of_first?
  · intro h
    cases hfirst : first? es with
    | none =>
        obtain ⟨-, front, back, hsplit, -⟩ := h
        rw [(first?_eq_none_iff es).mp hfirst] at hsplit
        simp at hsplit
    | some f => rw [(firstOf_of_first? hfirst).unique h]

end EarlyError

/-! ### Obstacles -/

/-- What can keep a tree from being a script. -/
inductive Obstacle where
  | brokenSyntax
  | earlyError
  | moduleStatement
  | jsx

namespace Obstacle

/-- An obstacle counts before all those of higher rank. -/
def rank : Obstacle → Nat
  | brokenSyntax => 0
  | earlyError => 1
  | moduleStatement => 2
  | jsx => 3

theorem forall_iff {P : Obstacle → Prop} :
    (∀ o, P o) ↔ P brokenSyntax ∧ P earlyError ∧ P moduleStatement ∧ P jsx := by
  constructor
  · intro h
    exact ⟨h _, h _, h _, h _⟩
  · rintro ⟨hbroken, hearly, hmodule, hjsx⟩ (_ | _ | _ | _)
    · exact hbroken
    · exact hearly
    · exact hmodule
    · exact hjsx

theorem exists_iff {P : Obstacle → Prop} :
    (∃ o, P o) ↔ P brokenSyntax ∨ P earlyError ∨ P moduleStatement ∨ P jsx := by
  rw [← not_iff_not, not_exists, forall_iff]
  simp only [not_or]

end Obstacle

def Shows (s : Script) : Obstacle → Prop
  | .brokenSyntax => ∃ n ∈ s.root.preorderAll, n.isFault = true
  | .earlyError => ¬ s.root.Agrees s.source
  | .moduleStatement => ∃ n ∈ s.topLevel, n.IsModule
  | .jsx => ∃ n ∈ s.root.preorder, n.IsJsx

/-- What is said of an obstacle: the first node at which it shows, and where this is. Of
early errors the first of those that begin earliest is taken. -/
def Reports (s : Script) : Obstacle → Rejection → Prop
  | .brokenSyntax, r =>
      ∃ n, FirstOf (fun n => n.isFault = true) s.root.preorderAll n ∧ s.describe n = r
  | .earlyError, r =>
      ∃ e, FirstOf (EarlyError.Earliest (s.root.earlyErrors s.source))
          (s.root.earlyErrors s.source) e ∧
        ⟨.early e.fault, e.node.location s.source⟩ = r
  | .moduleStatement, r =>
      ∃ n, FirstOf Node.IsModule s.topLevel n ∧ ⟨.moduleSyntax, n.location s.source⟩ = r
  | .jsx, r =>
      ∃ n, FirstOf Node.IsJsx s.root.preorder n ∧ ⟨.jsxSyntax, n.location s.source⟩ = r

/-- What is said of an obstacle if there is no other. -/
def reportOf? (s : Script) : Obstacle → Option Rejection
  | .brokenSyntax => (s.root.findAny? Node.isFault).map s.describe
  | .earlyError =>
      (EarlyError.first? (s.root.earlyErrors s.source)).map fun e =>
        s.reject e.node (.early e.fault)
  | .moduleStatement =>
      (s.topLevel.find? fun n => n.construct s.source == .module).map
        (s.reject · .moduleSyntax)
  | .jsx =>
      (s.root.find? fun n => n.construct s.source == .jsx).map (s.reject · .jsxSyntax)

variable {s : Script} {r : Rejection} {o : Obstacle}

theorem reportOf?_eq_some_iff :
    s.reportOf? o = some r ↔ s.Reports o r := by
  cases o with
  | brokenSyntax =>
      rw [reportOf?, Option.map_eq_some_iff, Node.findAny?_eq]
      exact exists_congr fun n =>
        and_congr_left' (find?_eq_some_iff_firstOf fun _ => Iff.rfl)
  | earlyError =>
      rw [reportOf?, Option.map_eq_some_iff]
      exact exists_congr fun e => and_congr_left' EarlyError.first?_eq_some_iff
  | moduleStatement =>
      rw [reportOf?, Option.map_eq_some_iff]
      refine exists_congr fun n => and_congr_left' (find?_eq_some_iff_firstOf fun m => ?_)
      rw [beq_iff_eq, Node.construct_eq_module_iff]
  | jsx =>
      rw [reportOf?, Option.map_eq_some_iff, Node.find?_eq]
      refine exists_congr fun n => and_congr_left' (find?_eq_some_iff_firstOf fun m => ?_)
      rw [beq_iff_eq, Node.construct_eq_jsx_iff]

theorem reportOf?_eq_none_iff :
    s.reportOf? o = none ↔ ¬ s.Shows o := by
  cases o with
  | brokenSyntax =>
      rw [reportOf?, Option.map_eq_none_iff, Node.findAny?_eq]
      exact find?_eq_none_iff_forall fun n => Iff.rfl
  | earlyError =>
      rw [reportOf?, Option.map_eq_none_iff, EarlyError.first?_eq_none_iff,
        Node.earlyErrors_eq_nil_iff, Shows, not_not]
  | moduleStatement =>
      rw [reportOf?, Option.map_eq_none_iff]
      exact find?_eq_none_iff_forall
        fun n => by rw [beq_iff_eq, Node.construct_eq_module_iff]
  | jsx =>
      rw [reportOf?, Option.map_eq_none_iff, Node.find?_eq]
      exact find?_eq_none_iff_forall fun n => by rw [beq_iff_eq, Node.construct_eq_jsx_iff]

/-! ### Precedence -/

theorem rejection?_eq_or (hflag : s.flawed = true ↔ s.Shows .brokenSyntax) :
    s.rejection? = (s.reportOf? .brokenSyntax).or ((s.reportOf? .earlyError).or
      ((s.reportOf? .moduleStatement).or (s.reportOf? .jsx))) := by
  unfold rejection?
  cases hs : s.flawed with
  | true =>
      obtain ⟨n, hn, hfault⟩ := hflag.mp hs
      cases hfind : s.root.findAny? Node.isFault with
      | none =>
          rw [Node.findAny?_eq, List.find?_eq_none] at hfind
          exact absurd hfault (hfind n hn)
      | some m => simp [reportOf?, hfind]
  | false =>
      have hnone : s.root.findAny? Node.isFault = none := by
        rw [Node.findAny?_eq, List.find?_eq_none]
        intro n hn hfault
        rw [hflag.mpr ⟨n, hn, hfault⟩] at hs
        cases hs
      simp only [reportOf?, hnone, Option.map_none, Option.none_or,
        if_neg Bool.false_ne_true]
      cases EarlyError.first? (s.root.earlyErrors s.source) with
      | some e => rfl
      | none =>
          cases s.topLevel.find? fun n => n.construct s.source == .module with
          | some n => rfl
          | none => rfl

theorem rejection?_eq_some_iff (hflag : s.flawed = true ↔ s.Shows .brokenSyntax) :
    s.rejection? = some r ↔
      ∃ o, s.reportOf? o = some r ∧ ∀ o', o'.rank < o.rank → s.reportOf? o' = none := by
  rw [rejection?_eq_or hflag]
  simp only [Option.or_eq_some_iff, Obstacle.exists_iff, Obstacle.forall_iff,
    Obstacle.rank, Nat.lt_irrefl, IsEmpty.forall_iff, Nat.not_lt_zero, and_self, and_true,
    Nat.lt_add_one, forall_const, Nat.lt_one_iff, reduceCtorEq, Nat.zero_lt_succ,
    Nat.reduceLT]
  tauto

theorem location_describe (s : Script) (n : Node) :
    ∃ t ∈ n.preorderAll, (s.describe n).location = t.location s.source := by
  unfold describe
  split
  · exact ⟨n, n.self_mem_preorderAll, rfl⟩
  · cases htoken : n.findAny? fun t => t.children.isEmpty && t.start.byte < t.stop with
    | none => exact ⟨n, n.self_mem_preorderAll, rfl⟩
    | some t =>
        rw [Node.findAny?_eq] at htoken
        exact ⟨t, List.mem_of_find?_eq_some htoken, rfl⟩

theorem exists_location_of_reports (h : s.Reports o r) :
    ∃ n ∈ s.root.preorderAll, r.location = n.location s.source := by
  cases o with
  | brokenSyntax =>
      obtain ⟨n, hn, rfl⟩ := h
      obtain ⟨t, ht, hlocation⟩ := s.location_describe n
      exact ⟨t, Node.mem_preorderAll_trans ht hn.mem, hlocation⟩
  | earlyError =>
      obtain ⟨e, he, rfl⟩ := h
      exact ⟨e.node, EarlyError.node_mem_preorderAll he.mem, rfl⟩
  | moduleStatement =>
      obtain ⟨n, hn, rfl⟩ := h
      exact ⟨n,
        Node.mem_preorderAll_of_mem_namedChildren (List.mem_of_mem_filter hn.mem), rfl⟩
  | jsx =>
      obtain ⟨n, hn, rfl⟩ := h
      exact ⟨n, Node.mem_preorderAll_of_mem_preorder hn.mem, rfl⟩

/-- Where tokens are bare, JSX shows wherever it stands, and it is reported where it stands
first. -/
theorem jsx_anywhere (htokens : s.root.TokensBare) :
    (s.Shows .jsx ↔ ∃ n ∈ s.root.preorderAll, n.IsJsx) ∧
      ∀ r, s.Reports .jsx r ↔
        ∃ n, FirstOf Node.IsJsx s.root.preorderAll n ∧
          ⟨.jsxSyntax, n.location s.source⟩ = r := by
  have hnamed (n : Node) (hn : n.IsJsx) : n.isNamed = true := hn.isNamed
  have hvisited := htokens.filter_isNamed
  constructor
  · rw [Shows, ← exists_mem_filter_iff hnamed, ← hvisited, exists_mem_filter_iff hnamed]
  · intro r
    refine exists_congr fun n => and_congr_left' ?_
    rw [← firstOf_filter_iff hnamed, ← hvisited, firstOf_filter_iff hnamed]

/-- A tree is a script unless it shows an obstacle, and of several obstacles the one that
counts before the others is reported. Where tokens are bare, JSX counts wherever it stands
in the tree, not only where the visit of named nodes comes to it. -/
theorem rejection?_by_precedence
    (hflag : s.flawed = true ↔ ∃ n ∈ s.root.preorderAll, n.isFault = true) :
    (s.rejection? = none ↔ ∀ o, ¬ s.Shows o) ∧
      (∀ r, s.rejection? = some r ↔
        ∃ o, s.Reports o r ∧ ∀ o', o'.rank < o.rank → ¬ s.Shows o') ∧
      (∀ r, s.rejection? = some r → r.message = "Syntax error: " ++ r.fault.message ∧
        ∃ n ∈ s.root.preorderAll, r.location = n.location s.source) ∧
      (s.root.TokensBare →
        (s.Shows .jsx ↔ ∃ n ∈ s.root.preorderAll, n.IsJsx) ∧
        ∀ r, s.Reports .jsx r ↔ ∃ n, FirstOf Node.IsJsx s.root.preorderAll n ∧
          ⟨.jsxSyntax, n.location s.source⟩ = r) := by
  have hsome (r : Rejection) : s.rejection? = some r ↔
      ∃ o, s.Reports o r ∧ ∀ o', o'.rank < o.rank → ¬ s.Shows o' := by
    simp only [rejection?_eq_some_iff hflag, reportOf?_eq_some_iff, reportOf?_eq_none_iff]
  refine ⟨?_, hsome, fun r hr => ⟨rfl, ?_⟩, jsx_anywhere⟩
  · simp only [rejection?_eq_or hflag, Option.or_eq_none_iff, reportOf?_eq_none_iff,
      Obstacle.forall_iff]
  · obtain ⟨o, hreports, -⟩ := (hsome r).mp hr
    exact exists_location_of_reports hreports

/-- A script that declares `a` twice and then uses JSX. -/
def redeclaring : Script where
  source := "let a,a;<a/>".toList
  root := .mk .program none ⟨0, 0, 0⟩ 12 false [
    .mk .lexicalDeclaration none ⟨0, 0, 0⟩ 8 false [
      .mk (.token "let") (some .kind) ⟨0, 0, 0⟩ 3 false [],
      .mk .variableDeclarator none ⟨4, 0, 4⟩ 5 false [
        .mk .identifier (some .name) ⟨4, 0, 4⟩ 5 false []],
      .mk (.token ",") none ⟨5, 0, 5⟩ 6 false [],
      .mk .variableDeclarator none ⟨6, 0, 6⟩ 7 false [
        .mk .identifier (some .name) ⟨6, 0, 6⟩ 7 false []],
      .mk (.token ";") none ⟨7, 0, 7⟩ 8 false []],
    .mk (.other "expression_statement") none ⟨8, 0, 8⟩ 12 false [
      .mk (.jsx "jsx_self_closing_element") none ⟨8, 0, 8⟩ 12 false [
        .mk (.token "<") none ⟨8, 0, 8⟩ 9 false [],
        .mk .identifier (some .name) ⟨9, 0, 9⟩ 10 false [],
        .mk (.token "/>") none ⟨10, 0, 10⟩ 12 false []]]]
  flawed := false

theorem redeclaring_flag :
    redeclaring.flawed = true ↔ ∃ n ∈ redeclaring.root.preorderAll, n.isFault = true := by
  decide

theorem redeclaring_tokensBare : redeclaring.root.TokensBare := by
  unfold Node.TokensBare
  decide

/-- Its JSX stands below no token, and the second `a` is reported in its place. -/
theorem redeclaring_reports_redeclared :
    (redeclaring.flawed = true ↔ ∃ n ∈ redeclaring.root.preorderAll, n.isFault = true) ∧
      redeclaring.root.TokensBare ∧
      (∃ o, redeclaring.Reports o ⟨.early (.redeclared "a"), ⟨1, 7⟩⟩ ∧
        ∀ o', o'.rank < o.rank → ¬ redeclaring.Shows o') ∧
      (redeclaring.Shows .jsx ↔ ∃ n ∈ redeclaring.root.preorderAll, n.IsJsx) := by
  have h := rejection?_by_precedence redeclaring_flag
  exact ⟨redeclaring_flag, redeclaring_tokensBare, (h.2.1 _).mp rfl,
    (h.2.2.2 redeclaring_tokensBare).1⟩

end Script

end ScriptLint
