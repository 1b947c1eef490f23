import ScriptLint.Proofs.Check.Anchor
import ScriptLint.Proofs.Script.Layout

namespace ScriptLint

open ScriptLint.Script ScriptLint.Text

/-! Which return statements are reported, of those that a tree has outside of functions. -/

namespace Script

variable {s : Script} {n m f : Node}

/-! ### Returns and their places -/

theorem mem_topLevel_of_return (hkind : n.kind = .returnStatement) :
    n ∈ s.topLevel ↔ n ∈ s.root.namedChildren := by
  rw [topLevel, Node.statements, List.mem_filter, hkind]
  exact and_iff_left rfl

/-- No two return statements stand at one place. -/
theorem LaidOut.eq_of_return (hs : s.LaidOut) (hn : n ∈ s.root.preorder)
    (hm : m ∈ s.root.preorder)
    (hnkind : n.kind = .returnStatement) (hmkind : m.kind = .returnStatement)
    (hlocation : n.location s.source = m.location s.source) : n = m := by
  have hstart := (hs.location_eq_iff (Node.mem_preorderAll_of_mem_preorder hn)
    (Node.mem_preorderAll_of_mem_preorder hm)).mp hlocation
  exact (hs.worded.steps_return hs.laid).eq_of_start_eq hs.laid hn hm hnkind hmkind hstart

/-- A return statement in a function does not stand directly at the top level. -/
theorem LaidOut.not_direct_of_inside (hs : s.LaidOut)
    (hroot : s.root.kind.isFunctionBoundary = false) (hf : f ∈ s.root.preorder)
    (hboundary : f.kind.isFunctionBoundary = true) (hn : n ∈ f.preorder)
    (hkind : n.kind = .returnStatement) : n ∉ s.root.namedChildren := by
  intro hdirect
  have hsteps := hs.worded.steps_return hs.laid
  have htop : n ∈ s.root.preorder :=
    Node.mem_preorder_of_child hdirect (Node.self_mem_preorder n)
  have htext := (hsteps n htop hkind).1
  obtain rfl | ⟨c, hc, hf⟩ := Node.mem_preorder_iff.mp hf
  · rw [hroot] at hboundary
    cases hboundary
  have hbelow : n ∈ c.preorder := Node.mem_preorder_trans hn hf
  by_cases hne : c = n
  · subst hne
    -- The function lies below the statement, so the statement would start behind itself.
    obtain rfl | ⟨d, hd, hf⟩ := Node.mem_preorder_iff.mp hf
    · rw [hkind] at hboundary
      cases hboundary
    · exact Nat.lt_irrefl _
        ((hsteps _ htop hkind).2 d hd _ (Node.mem_preorder_trans hn hf) hkind)
  · exact hs.laid.not_mem_preorder hc hdirect hne htext hbelow

end Script

namespace Finding

def isSyntaxError (x : Finding) : Bool := x.kind == .syntaxError && x.severity == .error

def pointsTo (l : Location) (x : Finding) : Bool :=
  x.line == some l.line && x.column == some l.column

end Finding

/-- How often a syntax error is found at the place of a node. -/
def Script.reports (s : Script) (n : Node) (fs : List Finding) : Nat :=
  fs.countP fun x => x.isSyntaxError && x.pointsTo (n.location s.source)

namespace Check.Structure

variable {c : Context} {s : Script} {n m : Node} {x : Finding}

theorem not_isSyntaxError_of_mem_entryFindings (hx : x ∈ entryFindings c) :
    ¬ x.isSyntaxError = true := by
  have hkind : x.kind ≠ .syntaxError := by
    cases hf : c.function? with
    | none =>
        rw [entryFindings, hf, List.mem_singleton] at hx
        subst hx
        intro hkind
        cases hkind
    | some f =>
        rw [(mem_entryFindings_of_some hf hx).1]
        decide
  simp [Finding.isSyntaxError, hkind]

theorem filter_isSyntaxError_findings (c : Context) :
    (findings c).filter Finding.isSyntaxError =
      (topLevelReturns c).map (returnFinding c) := by
  have hentry : (entryFindings c).filter Finding.isSyntaxError = [] :=
    List.filter_eq_nil_iff.mpr fun x hx => not_isSyntaxError_of_mem_entryFindings hx
  rw [findings, List.filter_append, hentry, List.nil_append, List.filter_eq_self]
  intro x hx
  obtain ⟨n, -, rfl⟩ := List.mem_map.mp hx
  rfl

theorem mem_topLevelReturns_iff :
    n ∈ topLevelReturns c ↔
      n ∈ c.script.root.namedChildren ∧ n.kind = .returnStatement := by
  rw [topLevelReturns, List.mem_filter, beq_iff_eq, Node.construct_eq_return_iff]
  exact and_congr_left mem_topLevel_of_return

theorem pointsTo_returnFinding (l : Location) :
    (returnFinding c m).pointsTo l = (m.location c.source == l) := by
  rw [Bool.eq_iff_iff, beq_iff_eq]
  simp only [Finding.pointsTo, returnFinding, Finding.atLocation, Context.location,
    Bool.and_eq_true, beq_iff_eq, Option.some.injEq]
  generalize m.location c.source = l'
  cases l
  cases l'
  rw [Location.mk.injEq]

theorem reports_findings (c : Context) (n : Node) :
    c.script.reports n (findings c) =
      ((topLevelReturns c).map (·.location c.source)).count (n.location c.source) := by
  have hsplit : c.script.reports n (findings c) =
      ((findings c).filter Finding.isSyntaxError).countP
        (Finding.pointsTo (n.location c.source)) := by
    rw [List.countP_filter]
    simp only [Script.reports, Context.source, Bool.and_comm]
  rw [hsplit, filter_isSyntaxError_findings, List.countP_map, List.count, List.countP_map]
  apply List.countP_congr
  intro m _
  rw [Function.comp_apply, pointsTo_returnFinding, Function.comp_apply]

theorem nodup_locations (hs : c.script.LaidOut) :
    ((topLevelReturns c).map (·.location c.source)).Nodup := by
  have hordered : (topLevelReturns c).Pairwise fun n m => n.stop ≤ m.start.byte :=
    (hs.laid.ordered _ (Node.self_mem_preorderAll _)).sublist
      (List.filter_sublist.trans (List.filter_sublist.trans List.filter_sublist))
  rw [List.Nodup, List.pairwise_map]
  apply hordered.imp_of_mem
  intro n m hn hm hstop heq
  obtain ⟨hn, hnkind⟩ := mem_topLevelReturns_iff.mp hn
  obtain ⟨hm, hmkind⟩ := mem_topLevelReturns_iff.mp hm
  have htop := Node.mem_preorder_of_child hn (Node.self_mem_preorder n)
  have htop' := Node.mem_preorder_of_child hm (Node.self_mem_preorder m)
  obtain rfl := hs.eq_of_return htop htop' hnkind hmkind heq
  have htext := (hs.worded.steps_return hs.laid n htop hnkind).1
  omega

theorem reports_eq_one_of_direct (hs : c.script.LaidOut)
    (hkind : n.kind = .returnStatement) (hn : n ∈ c.script.root.namedChildren) :
    c.script.reports n (findings c) = 1 := by
  rw [reports_findings]
  apply List.count_eq_one_of_mem (nodup_locations hs)
  exact List.mem_map_of_mem (mem_topLevelReturns_iff.mpr ⟨hn, hkind⟩)

theorem reports_eq_zero_of_not_direct (hs : c.script.LaidOut)
    (hkind : n.kind = .returnStatement) (hroot : n ∈ c.script.root.preorder)
    (hn : n ∉ c.script.root.namedChildren) : c.script.reports n (findings c) = 0 := by
  rw [reports_findings, List.count_eq_zero]
  intro hmem
  obtain ⟨m, hm, hlocation⟩ := List.mem_map.mp hmem
  obtain ⟨hdirect, hmkind⟩ := mem_topLevelReturns_iff.mp hm
  have htop := Node.mem_preorder_of_child hdirect (Node.self_mem_preorder m)
  obtain rfl := hs.eq_of_return htop hroot hmkind hkind hlocation
  exact hn hdirect

/-- A return statement is reported once if it stands directly at the top level, and else
not at all; so none in a function is, and all outside of functions are only where none of
them is nested. -/
theorem return_reported_iff_direct (entryName : String) (outputs : List Socket)
    (inputs : Option (List Socket)) (hs : s.LaidOut)
    (hroot : s.root.kind.isFunctionBoundary = false) :
    ∃ fs, entryFunction.run (.ofScript s entryName outputs inputs) = .ok fs ∧
      (∀ n ∈ s.root.preorder, n.kind = .returnStatement →
        (n ∈ s.root.namedChildren → s.reports n fs = 1) ∧
        (n ∉ s.root.namedChildren → s.reports n fs = 0)) ∧
      (∀ f ∈ s.root.preorder, f.kind.isFunctionBoundary = true →
        ∀ n ∈ f.preorder, n.kind = .returnStatement → s.reports n fs = 0) ∧
      ((∀ n, s.root.Within n → n.kind = .returnStatement → s.reports n fs = 1) ↔
        ∀ n, s.root.Within n → n.kind = .returnStatement → n ∈ s.root.namedChildren) := by
  have hdirect {n : Node} (hkind : n.kind = .returnStatement)
      (hn : n ∈ s.root.namedChildren) :
      s.reports n (findings (.ofScript s entryName outputs inputs)) = 1 :=
    reports_eq_one_of_direct (c := .ofScript s entryName outputs inputs) hs hkind hn
  have hnested {n : Node} (hkind : n.kind = .returnStatement) (hmem : n ∈ s.root.preorder)
      (hn : n ∉ s.root.namedChildren) :
      s.reports n (findings (.ofScript s entryName outputs inputs)) = 0 :=
    reports_eq_zero_of_not_direct
      (c := .ofScript s entryName outputs inputs) hs hkind hmem hn
  refine ⟨findings (.ofScript s entryName outputs inputs), rfl, ?_, ?_, ?_, ?_⟩
  · intro n hn hkind
    exact ⟨hdirect hkind, hnested hkind hn⟩
  · intro f hf hboundary n hn hkind
    apply hnested hkind (Node.mem_preorder_trans hn hf)
    exact hs.not_direct_of_inside hroot hf hboundary hn hkind
  · intro hall n hwithin hkind
    by_contra hn
    have hone := hall n hwithin hkind
    rw [hnested hkind hwithin.mem_preorder hn] at hone
    cases hone
  · intro hall n hwithin hkind
    exact hdirect hkind (hall n hwithin hkind)

end Check.Structure

namespace Script

def innerReturn (start : Nat) : Node :=
  .onLine .returnStatement none start (start + 10) [
    .onLine (.token "return") none start (start + 6) [],
    .onLine .object none (start + 7) (start + 9) [
      .onLine (.token "\x7b") none (start + 7) (start + 8) [],
      .onLine (.token "\x7d") none (start + 8) (start + 9) []],
    .onLine (.token ";") none (start + 9) (start + 10) []]

def emptyEntry (start : Nat) : Node :=
  .onLine .functionDeclaration none start (start + 41) [
    .onLine (.token "function") none start (start + 8) [],
    .onLine .identifier (some .name) (start + 9) (start + 20) [],
    .onLine (.other "formal_parameters") (some .parameters) (start + 20) (start + 26) [
      .onLine (.token "(") none (start + 20) (start + 21) [],
      .onLine .identifier none (start + 21) (start + 22) [],
      .onLine (.token ",") none (start + 22) (start + 23) [],
      .onLine .identifier none (start + 24) (start + 25) [],
      .onLine (.token ")") none (start + 25) (start + 26) []],
    .onLine .statementBlock (some .body) (start + 27) (start + 41) [
      .onLine (.token "\x7b") none (start + 27) (start + 28) [],
      innerReturn (start + 29),
      .onLine (.token "\x7d") none (start + 40) (start + 41) []]]

def outerReturn (start : Nat) : Node :=
  .onLine .returnStatement none start (start + 9) [
    .onLine (.token "return") none start (start + 6) [],
    .onLine (.other "number") none (start + 7) (start + 8) [],
    .onLine (.token ";") none (start + 8) (start + 9) []]

/-- A script that returns at the top level, before its function. -/
def leaving : Script where
  source := "return 1; function processData(i, p) \x7b return \x7b\x7d; \x7d".toList
  root := .onLine .program none 0 51 [outerReturn 0, emptyEntry 10]
  flawed := false

/-- The same return in a block. -/
def leavingBlock : Script where
  source :=
    "\x7b return 1; \x7d function processData(i, p) \x7b return \x7b\x7d; \x7d".toList
  root := .onLine .program none 0 55 [
    .onLine .statementBlock none 0 13 [
      .onLine (.token "\x7b") none 0 1 [],
      outerReturn 2,
      .onLine (.token "\x7d") none 12 13 []],
    emptyEntry 14]
  flawed := false

end Script

namespace Check.Structure

theorem return_reported_in_leaving :
    ∃ fs, entryFunction.run (.ofScript .leaving "processData" [] none) = .ok fs ∧
      Script.leaving.reports (Script.outerReturn 0) fs = 1 ∧
      Script.leaving.reports (Script.innerReturn 39) fs = 0 := by
  have hlaid : Script.leaving.LaidOut := .of_take (by decide) (by decide) (by decide)
  obtain ⟨fs, hrun, hdirect, hinside, -⟩ :=
    return_reported_iff_direct "processData" [] none hlaid rfl
  have houter : Script.outerReturn 0 ∈ Script.leaving.root.namedChildren :=
    List.mem_cons_self
  have hentry : Script.emptyEntry 10 ∈ Script.leaving.root.preorder :=
    Node.mem_preorder_of_child (List.mem_of_getElem? (i := 1) rfl)
      (Node.self_mem_preorder _)
  refine ⟨fs, hrun, ?_, ?_⟩
  · exact (hdirect _ (Node.mem_preorder_of_child houter (Node.self_mem_preorder _))
      rfl).1 houter
  · exact hinside _ hentry rfl _ (List.mem_of_getElem? (i := 6) rfl) rfl

/-- Nothing is said of the return statement in the block, although it stands in no
function. -/
theorem return_in_block_overlooked :
    Script.leavingBlock.rejection? = none ∧
      Script.leavingBlock.root.Within (Script.outerReturn 2) ∧
      (Script.outerReturn 2).kind = .returnStatement ∧
      entryFunction.run (.ofScript .leavingBlock "processData" [] none) = .ok [] ∧
      Script.leavingBlock.reports (Script.outerReturn 2) [] ≠ 1 := by
  have haccepted : Script.leavingBlock.rejection? = none := by
    rw [rejection?_eq_none_iff rfl]
    exact ⟨rfl, by decide, by decide⟩
  have hwithin : Script.leavingBlock.root.Within (Script.outerReturn 2) :=
    .deeper (List.mem_of_getElem? (i := 0) rfl) rfl
      (.child (List.mem_of_getElem? (i := 0) rfl))
  exact ⟨haccepted, hwithin, rfl, rfl, by decide⟩

end Check.Structure

end ScriptLint
