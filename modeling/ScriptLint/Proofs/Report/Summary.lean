import Mathlib.Data.List.Basic
import ScriptLint.Finding

namespace ScriptLint

/-! What a summary and the most serious severity say about the findings. -/

def tally (s : Severity) (fs : List Finding) : Nat := fs.countP fun f => f.severity == s

theorem tally_cons (s : Severity) (f : Finding) (fs : List Finding) :
    tally s (f :: fs) = tally s fs + if f.severity = s then 1 else 0 := by
  simp [tally, List.countP_cons]

theorem tally_eq_zero_iff {s : Severity} {fs : List Finding} :
    tally s fs = 0 ↔ ∀ f ∈ fs, f.severity ≠ s := by
  simp [tally, List.countP_eq_zero]

/-- Every finding is of one severity. -/
theorem tally_add (fs : List Finding) :
    tally .error fs + tally .warning fs + tally .info fs = fs.length := by
  induction fs with
  | nil => rfl
  | cons f fs ih =>
      simp only [tally_cons, List.length_cons]
      cases hs : f.severity <;> simp <;> omega

namespace Summary

theorem foldl_count (s : Summary) (fs : List Finding) :
    fs.foldl count s = ⟨s.error + tally .error fs, s.warning + tally .warning fs,
      s.info + tally .info fs, s.total + fs.length⟩ := by
  induction fs generalizing s with
  | nil => rfl
  | cons f fs ih =>
      rw [List.foldl_cons, ih]
      cases hs : f.severity <;> simp [count, tally_cons, hs] <;> omega

theorem ofFindings_eq (fs : List Finding) :
    ofFindings fs = ⟨tally .error fs, tally .warning fs, tally .info fs, fs.length⟩ := by
  simp [ofFindings, foldl_count, zero]

end Summary

namespace Severity

theorem le_max_iff (least a b : Severity) : least ≤ a.max b ↔ least ≤ a ∨ least ≤ b := by
  cases least <;> cases a <;> cases b <;> decide

theorem le_trans {a b c : Severity} (hab : a ≤ b) (hbc : b ≤ c) : a ≤ c :=
  Nat.le_trans hab hbc

theorem error_le_iff {s : Severity} : .error ≤ s ↔ s = .error := by
  cases s <;> decide

end Severity

namespace Result

theorem tally_eq_length (r : Result) (s : Severity) :
    tally s r.findings = (r.withSeverity s).length :=
  List.countP_eq_length_filter

theorem foldl_max_reaches_iff (least : Severity) (fs : List Finding)
    (acc : Option Severity) :
    (∃ s, fs.foldl (fun acc f => some ((acc.map (·.max f.severity)).getD f.severity))
      acc = some s ∧
        least ≤ s) ↔
      (∃ s, acc = some s ∧ least ≤ s) ∨ ∃ f ∈ fs, least ≤ f.severity := by
  induction fs generalizing acc with
  | nil => simp
  | cons f fs ih =>
      have hstep : least ≤ (acc.map (·.max f.severity)).getD f.severity ↔
          (∃ s, acc = some s ∧ least ≤ s) ∨ least ≤ f.severity := by
        cases acc <;> simp [Severity.le_max_iff]
      rw [List.foldl_cons, ih]
      simp only [Option.some.injEq, exists_eq_left', hstep, or_assoc,
        List.exists_mem_cons_iff]

/-- The most serious severity reaches a threshold when some finding does. -/
theorem exists_le_maxSeverity?_iff {r : Result} {least : Severity} :
    (∃ s, r.maxSeverity? = some s ∧ least ≤ s) ↔ ∃ f ∈ r.findings, least ≤ f.severity := by
  rw [maxSeverity?, foldl_max_reaches_iff]
  simp

theorem maxSeverity?_eq_error_iff {r : Result} :
    r.maxSeverity? = some .error ↔ ∃ f ∈ r.findings, f.severity = .error := by
  simpa [Severity.error_le_iff] using @exists_le_maxSeverity?_iff r .error

theorem summary_error_eq_zero_iff {r : Result} :
    r.summary.error = 0 ↔ ∀ f ∈ r.findings, f.severity ≠ .error := by
  rw [summary, Summary.ofFindings_eq, tally_eq_zero_iff]

theorem hasErrors_eq_false_iff {r : Result} :
    r.hasErrors = false ↔ ∀ f ∈ r.findings, f.severity ≠ .error := by
  simp [hasErrors, errors, withSeverity]

end Result

end ScriptLint
