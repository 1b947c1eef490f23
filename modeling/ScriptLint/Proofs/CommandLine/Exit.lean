import Mathlib.Algebra.Ring.Nat
import ScriptLint.CommandLine.Run
import ScriptLint.Proofs.Report.Json

namespace ScriptLint

open ScriptLint.Data ScriptLint.CommandLine

/-! The exit code of a run and the counts that it prints, against what its JSON report
says. -/

/-! ### What the JSON report says of each result -/

namespace Data.Value

def member? (key : String) : Value → Option Value
  | record members => members.lookup key
  | _ => none

end Data.Value

def reportEntries (rs : List (String × Result)) : List Value :=
  match Json.ofText? (renderMany rs .json).toList with
  | some (.list entries) => entries
  | some report => [report]
  | none => []

/-- What a report says of a result. -/
structure Describes (entry : Value) (r : Result) : Prop where
  valid : entry.member? "valid" = some (.bool !r.hasErrors)
  summary : entry.member? "summary" = some r.summary.toValue

theorem Result.describes_reportValue (r : Result) : Describes r.reportValue r :=
  ⟨rfl, rfl⟩

theorem Result.describes_labelledValue (p : String × Result) :
    Describes (labelledValue p) p.2 :=
  ⟨rfl, rfl⟩

theorem reportEntries_singleton (p : String × Result) :
    reportEntries [p] = [p.2.reportValue] := by
  have hread : Json.ofText? (renderMany [p] .json).toList = some p.2.reportValue :=
    p.2.ofText?_toJson
  rw [reportEntries, hread]
  rfl

theorem reportEntries_of_length_ne {rs : List (String × Result)} (h : rs.length ≠ 1) :
    reportEntries rs = rs.map Result.labelledValue := by
  rw [reportEntries, renderMany_of_length_ne h, Result.ofText?_manyToJson]

theorem reportEntries_describe (rs : List (String × Result)) :
    List.Forall₂ (fun entry p => Describes entry p.2) (reportEntries rs) rs := by
  by_cases h : rs.length = 1
  · obtain ⟨p, rfl⟩ := List.length_eq_one_iff.mp h
    rw [reportEntries_singleton]
    exact .cons p.2.describes_reportValue .nil
  · rw [reportEntries_of_length_ne h, List.forall₂_map_left_iff, List.forall₂_same]
    intro p _
    exact Result.describes_labelledValue p

theorem entries_valid_iff {entries : List Value} {rs : List (String × Result)}
    (h : List.Forall₂ (fun entry p => Describes entry p.2) entries rs) :
    (∀ entry ∈ entries, entry.member? "valid" = some (.bool true)) ↔
      ∀ p ∈ rs, p.2.hasErrors = false := by
  induction h with
  | nil => simp
  | cons hentry _ ih =>
      rw [List.forall_mem_cons, List.forall_mem_cons, ih, hentry.valid]
      simp

namespace CommandLine

variable {least : Severity} {r : Result} {rs : List (String × Result)}

/-! ### The exit code -/

theorem fails_iff : fails least r = true ↔ ∃ x ∈ r.findings, least ≤ x.severity := by
  rw [← Result.exists_le_maxSeverity?_iff, fails]
  cases r.maxSeverity? <;> simp

theorem exists_fails_iff :
    (rs.any fun p => fails least p.2) = true ↔
      ∃ p ∈ rs, ∃ x ∈ p.2.findings, least ≤ x.severity := by
  simp only [List.any_eq_true, fails_iff]

theorem status_eq_one_iff (s : Settings) :
    (finish s rs).status = 1 ↔ ∃ p ∈ rs, ∃ x ∈ p.2.findings, s.failOn ≤ x.severity := by
  rw [← exists_fails_iff]
  cases h : rs.any fun p => fails s.failOn p.2 <;> simp [finish, h]

theorem status_eq_zero_iff (s : Settings) :
    (finish s rs).status = 0 ↔ ∀ p ∈ rs, ∀ x ∈ p.2.findings, ¬ s.failOn ≤ x.severity := by
  have hone : (finish s rs).status = 1 ↔ _ := status_eq_one_iff s
  have hstatus : (finish s rs).status = 0 ↔ ¬ (finish s rs).status = 1 := by
    cases h : rs.any fun p => fails s.failOn p.2 <;> simp [finish, h]
  rw [hstatus, hone]
  simp only [not_exists, not_and]

/-! ### The summary -/

theorem foldl_add_summary (rs : List (String × Result)) (s : Summary) :
    rs.foldl (fun s r => s + r.2.summary) s =
      ⟨s.error + (rs.map (·.2.summary.error)).sum,
        s.warning + (rs.map (·.2.summary.warning)).sum,
        s.info + (rs.map (·.2.summary.info)).sum,
        s.total + (rs.map (·.2.summary.total)).sum⟩ := by
  induction rs generalizing s with
  | nil => rfl
  | cons p rs ih =>
      rw [List.foldl_cons, ih]
      simp only [List.map_cons, List.sum_cons, ← Nat.add_assoc]
      rfl

theorem total_eq (rs : List (String × Result)) :
    total rs = ⟨(rs.map (·.2.summary.error)).sum, (rs.map (·.2.summary.warning)).sum,
      (rs.map (·.2.summary.info)).sum, (rs.map (·.2.summary.total)).sum⟩ := by
  rw [total, foldl_add_summary]
  simp [Summary.zero]

/-- A run fails exactly when some finding is as serious as the threshold, in every format,
and more so the lower the threshold is. With errors as the threshold it succeeds exactly
when the JSON report calls every result valid, and the counts that it prints are the sums
of those in that report. -/
theorem finish_exit (v : Validator) (rs : List (String × Result)) :
    (∀ format least,
      ((finish ⟨v, format, least⟩ rs).status = 1 ↔
        ∃ p ∈ rs, ∃ x ∈ p.2.findings, least ≤ x.severity) ∧
      ((finish ⟨v, format, least⟩ rs).status = 0 ↔
        ∀ p ∈ rs, ∀ x ∈ p.2.findings, ¬ least ≤ x.severity)) ∧
    (∀ format format' least lower, lower ≤ least →
      (finish ⟨v, format, least⟩ rs).status = 1 →
        (finish ⟨v, format', lower⟩ rs).status = 1) ∧
    (reportEntries rs).length = rs.length ∧
    (∀ format, (finish ⟨v, format, .error⟩ rs).status = 0 ↔
      ∀ entry ∈ reportEntries rs, entry.member? "valid" = some (.bool true)) ∧
    ∃ (summaries : List Summary) (sum : Summary),
      List.Forall₂ (fun entry s => entry.member? "summary" = some s.toValue)
        (reportEntries rs)
        summaries ∧
      sum.error = (summaries.map (·.error)).sum ∧
      sum.warning = (summaries.map (·.warning)).sum ∧
      sum.info = (summaries.map (·.info)).sum ∧
      ∀ format least, ∃ rest,
        (finish ⟨v, format, least⟩ rs).messages =
          s!"{Summary.mark sum} {rs.length} " ++
            (if rs.length = 1 then "script" else "scripts") ++
            s!" checked: {sum.error} errors, {sum.warning} warnings, {sum.info} notes\n" ++
              rest := by
  have hentries := reportEntries_describe rs
  have htotal := total_eq rs
  refine ⟨fun format least => ⟨status_eq_one_iff _, status_eq_zero_iff _⟩, ?_,
    hentries.length_eq,
    ?_, rs.map (·.2.summary), total rs, ?_, ?_, ?_, ?_, ?_⟩
  · intro format format' least lower hlower hfailed
    obtain ⟨p, hp, x, hx, hleast⟩ := (status_eq_one_iff _).mp hfailed
    exact (status_eq_one_iff _).mpr ⟨p, hp, x, hx, Severity.le_trans hlower hleast⟩
  · intro format
    rw [entries_valid_iff hentries, status_eq_zero_iff]
    simp only [Result.hasErrors_eq_false_iff, Severity.error_le_iff, ne_eq]
  · rw [List.forall₂_map_right_iff]
    exact hentries.imp fun _ _ h => h.summary
  · rw [htotal, List.map_map]
    rfl
  · rw [htotal, List.map_map]
    rfl
  · rw [htotal, List.map_map]
    rfl
  · intro format least
    exact ⟨_, by simp only [finish, summaryLine, String.append_assoc]; rfl⟩

end CommandLine

end ScriptLint
