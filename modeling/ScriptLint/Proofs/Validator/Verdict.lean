import Mathlib.Logic.ExistsUnique
import ScriptLint.Proofs.Check.Run
import ScriptLint.Proofs.Script.Tree

namespace ScriptLint

open ScriptLint.Script

/-! The three ways in which a validation ends, whatever its checks do. -/

/-- A text that is no script, the findings of each check, or a check that failed. -/
inductive Verdict where
  | rejected (r : Rejection)
  | judged (parts : List (List Finding))
  | failed

def Verdict.findings : Verdict → List Finding
  | rejected r =>
      [{ kind := .syntaxError, severity := .error, message := r.message
         line := some r.location.line, column := some r.location.column }]
  | judged parts => parts.flatten
  | failed =>
      [{ kind := .syntaxError, severity := .error
         message :=
           "Validation failed unexpectedly: an internal error occurred while analyzing "
          ++ "the script"
         line := none, column := none }]

namespace Script

theorem parse_eq_error_iff {text : List Char} {r : Rejection} :
    parse text = .error r ↔ (ofText text).rejection? = some r := by
  unfold parse
  cases h : (ofText text).rejection? <;> simp [h]

theorem parse_eq_ok_iff {text : List Char} {s : Script} :
    parse text = .ok s ↔
      (ofText text).rejection? = none ∧ s = ofText text := by
  unfold parse
  cases h : (ofText text).rejection? <;> simp [h, eq_comm]

/-- A text that fits the grammar is a script unless its declarations are out of order or it
uses modules or JSX. -/
theorem rejection?_eq_none_iff {s : Script} (hs : s.flawed = false) :
    s.rejection? = none ↔
      EarlyError.first? (s.root.earlyErrors s.source) = none ∧
        (∀ n ∈ s.topLevel, n.construct s.source ≠ .module) ∧
          ∀ n ∈ s.root.preorder, n.construct s.source ≠ .jsx := by
  rw [rejection?, hs, if_neg Bool.false_ne_true]
  cases hearly : EarlyError.first? (s.root.earlyErrors s.source) with
  | some e => simp
  | none =>
      cases hmodule : s.topLevel.find? fun n => n.construct s.source == .module with
      | some n =>
          have hn : n.construct s.source = .module := by
            simpa using List.find?_some hmodule
          simp only [reduceCtorEq, true_and, false_iff, not_and]
          exact fun h => absurd hn (h n (List.mem_of_find?_eq_some hmodule))
      | none =>
          have htop : ∀ n ∈ s.topLevel, n.construct s.source ≠ .module := by
            simpa using hmodule
          simp only [Option.map_eq_none_iff, Node.find?_eq, List.find?_eq_none, beq_iff_eq,
            true_and]
          exact (and_iff_right htop).symm

end Script

namespace Validator

variable {v : Validator} {text : List Char} {outputs : List Socket}
  {inputs : Option (List Socket)}

/-- The verdict on a text. The checks have no say in a rejection; a failure does not tell
which check failed, nor how, nor what the others found. -/
inductive Reaches (v : Validator) (text : List Char) (outputs : List Socket)
    (inputs : Option (List Socket)) : Verdict → Prop
  | rejected {r : Rejection} (hparse : Script.parse text = .error r) :
      Reaches v text outputs inputs (.rejected r)
  | judged {s : Script} {parts : List (List Finding)} (hparse : Script.parse text = .ok s)
      (hparts : List.Forall₂
        (fun (k : Check) part => k.run (v.context s outputs inputs) = .ok part)
          v.checks parts) :
      Reaches v text outputs inputs (.judged parts)
  | failed {s : Script} {k : Check} {e : CheckFault} (hparse : Script.parse text = .ok s)
      (hk : k ∈ v.checks) (hfault : k.run (v.context s outputs inputs) = .error e) :
      Reaches v text outputs inputs .failed

theorem judge_of_rejection {s : Script} {r : Rejection} (hs : s.rejection? = some r) :
    v.judge s outputs inputs = ⟨[r.finding]⟩ := by
  simp [judge, hs]

theorem judge_of_runAll_ok {s : Script} {fs : List Finding} (hs : s.rejection? = none)
    (hrun : Check.runAll (v.context s outputs inputs) v.checks = .ok fs) :
    v.judge s outputs inputs = ⟨fs⟩ := by
  simp [judge, hs, hrun]

theorem judge_of_runAll_error {s : Script} {e : CheckFault} (hs : s.rejection? = none)
    (hrun : Check.runAll (v.context s outputs inputs) v.checks = .error e) :
    v.judge s outputs inputs = ⟨[internalFault]⟩ := by
  simp [judge, hs, hrun]

theorem exists_reaches (v : Validator) (text : List Char) (outputs : List Socket)
    (inputs : Option (List Socket)) : ∃ d, v.Reaches text outputs inputs d := by
  cases hparse : Script.parse text with
  | error r => exact ⟨_, .rejected hparse⟩
  | ok s =>
      cases hrun : Check.runAll (v.context s outputs inputs) v.checks with
      | error e =>
          obtain ⟨k, hk, fault, hfault⟩ := Check.runAll_eq_error_iff.mp ⟨e, hrun⟩
          exact ⟨_, .failed hparse hk hfault⟩
      | ok fs =>
          obtain ⟨parts, hparts, -⟩ := Check.runAll_eq_ok_iff.mp hrun
          exact ⟨_, .judged hparse hparts⟩

theorem Reaches.validate_eq {d : Verdict} (h : v.Reaches text outputs inputs d) :
    v.validate text outputs inputs = ⟨d.findings⟩ := by
  cases h with
  | rejected hparse => exact judge_of_rejection (Script.parse_eq_error_iff.mp hparse)
  | judged hparse hparts =>
      obtain ⟨hs, rfl⟩ := Script.parse_eq_ok_iff.mp hparse
      exact judge_of_runAll_ok hs (Check.runAll_eq_ok_iff.mpr ⟨_, hparts, rfl⟩)
  | failed hparse hk hfault =>
      obtain ⟨hs, rfl⟩ := Script.parse_eq_ok_iff.mp hparse
      obtain ⟨e, hrun⟩ := Check.runAll_eq_error_iff.mpr ⟨_, hk, _, hfault⟩
      exact judge_of_runAll_error hs hrun

theorem Reaches.unique {d d' : Verdict} (h : v.Reaches text outputs inputs d)
    (h' : v.Reaches text outputs inputs d') : d' = d := by
  cases h with
  | rejected hparse =>
      cases h' <;> simp_all
  | judged hparse hparts =>
      cases h' with
      | rejected hparse' => simp_all
      | judged hparse' hparts' =>
          obtain rfl := Except.ok.inj (hparse.symm.trans hparse')
          rw [(Check.run_rightUnique _).forall₂ hparts hparts']
      | failed hparse' hk hfault =>
          obtain rfl := Except.ok.inj (hparse.symm.trans hparse')
          exact absurd hfault (Check.run_ne_error hparts hk _)
  | failed hparse hk hfault =>
      cases h' with
      | rejected hparse' => simp_all
      | judged hparse' hparts =>
          obtain rfl := Except.ok.inj (hparse.symm.trans hparse')
          exact absurd hfault (Check.run_ne_error hparts hk _)
      | failed => rfl

/-- Every validation ends with one verdict, and reports what the verdict says. -/
theorem validate_verdict (v : Validator) (text : List Char) (outputs : List Socket)
    (inputs : Option (List Socket)) :
    (∃! d, v.Reaches text outputs inputs d) ∧
      ∀ d, v.Reaches text outputs inputs d →
        v.validate text outputs inputs = ⟨d.findings⟩ := by
  obtain ⟨d, hd⟩ := exists_reaches v text outputs inputs
  exact ⟨⟨d, hd, fun _ hd' => hd.unique hd'⟩, fun _ hd' => hd'.validate_eq⟩

end Validator

end ScriptLint
