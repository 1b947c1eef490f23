import ScriptLint.Proofs.Data.Record
import ScriptLint.Proofs.Report.Summary
import ScriptLint.Report.Basic

namespace ScriptLint

open ScriptLint.Data

/-! What is read back from the JSON reports of one or several results. -/

/-! ### Reports of one result -/

namespace Result

theorem isPlain_reportValue (r : Result) : r.reportValue.isPlain = true := by
  simp [reportValue, reportMembers, Value.isPlain, Value.membersArePlain, Summary.toValue,
    isPlain_toValue]

theorem ofText?_toJson (r : Result) :
    Json.ofText? r.toJson.toList = some r.reportValue := by
  rw [toJson, Json.toPretty, String.toList_ofList]
  exact Json.ofText?_print _ r.isPlain_reportValue

theorem ofText?_toCompactJson (r : Result) :
    Json.ofText? r.toCompactJson.toList = some r.reportValue := by
  rw [toCompactJson, Json.toCompact, String.toList_ofList]
  exact Json.ofText?_print _ r.isPlain_reportValue

theorem ofText?_toCompact_toValue (r : Result) :
    Json.ofText? (Json.toCompact r.toValue).toList = some r.toValue := by
  rw [Json.toCompact, String.toList_ofList]
  exact Json.ofText?_print _ r.isPlain_toValue

/-! ### Reports of several results -/

def labelledValue (p : String × Result) : Value :=
  .record (("file", .text p.1) :: p.2.reportMembers)

theorem manyValue_eq (rs : List (String × Result)) :
    manyValue rs = .list (rs.map labelledValue) := rfl

theorem isPlain_manyValue (rs : List (String × Result)) :
    (manyValue rs).isPlain = true := by
  rw [manyValue_eq, Value.isPlain]
  induction rs with
  | nil => rfl
  | cons p rs ih =>
      have hp : (labelledValue p).isPlain = true := by
        have hreport := p.2.isPlain_reportValue
        rw [reportValue, Value.isPlain] at hreport
        rw [labelledValue, Value.isPlain, Value.membersArePlain, hreport]
        rfl
      rw [List.map_cons, Value.arePlain, hp, ih, Bool.and_self]

theorem ofText?_manyToJson (rs : List (String × Result)) :
    Json.ofText? (manyToJson rs).toList = some (.list (rs.map labelledValue)) := by
  rw [manyToJson, Json.toPretty, String.toList_ofList, ← manyValue_eq]
  exact Json.ofText?_print _ (isPlain_manyValue rs)

end Result

theorem renderMany_of_length_ne {rs : List (String × Result)} (h : rs.length ≠ 1) :
    renderMany rs .json = Result.manyToJson rs := by
  rcases rs with _ | ⟨p, _ | ⟨q, rs⟩⟩
  · rfl
  · exact absurd rfl h
  · rfl

/-- All JSON reports describe the results alike. On one line or on many, the report of a
result holds the result as it is written on its own, with counts that add up, and is valid
when there is no error among them, that is, unless the most serious severity is error. A
single result is reported without its label; otherwise the report is a list with the
members of each result's own report behind its label. -/
theorem renderMany_describes (rs : List (String × Result)) :
    (∀ label r, (label, r) ∈ rs → ∃ valid error warning info total findings,
      let report := Value.record [("valid", .bool valid),
        ("summary", .record [("error", .natural error), ("warning", .natural warning),
          ("info", .natural info), ("total", .natural total)]),
        ("findings", findings)]
      Json.ofText? r.toJson.toList = some report ∧
      Json.ofText? r.toCompactJson.toList = some report ∧
      Json.ofText? (Json.toCompact r.toValue).toList = some findings ∧
      r.summary = ⟨error, warning, info, total⟩ ∧
      (error = r.errors.length ∧ warning = r.warnings.length ∧ info = r.notes.length) ∧
      error + warning + info = total ∧ total = r.findings.length ∧
      (valid = true ↔ error = 0) ∧ (valid = true ↔ r.maxSeverity? ≠ some .error)) ∧
    (∀ label r, rs = [(label, r)] → ∀ format, renderMany rs format = r.render format) ∧
    (rs.length ≠ 1 → ∃ entries, Json.ofText? (renderMany rs .json).toList =
      some (.list entries) ∧
      List.Forall₂ (fun entry p => ∃ members,
        Json.ofText? p.2.toJson.toList = some (.record members) ∧
          entry = .record (("file", .text p.1) :: members)) entries rs) := by
  refine ⟨?_, ?_, ?_⟩
  · intro label r _
    have hsummary := Summary.ofFindings_eq r.findings
    refine ⟨!r.hasErrors, r.summary.error, r.summary.warning, r.summary.info,
      r.summary.total,
      r.toValue, r.ofText?_toJson, r.ofText?_toCompactJson,
      r.ofText?_toCompact_toValue, rfl,
      ?_, ?_, ?_, ?_, ?_⟩
    · rw [Result.summary, hsummary]
      exact ⟨r.tally_eq_length .error, r.tally_eq_length .warning, r.tally_eq_length .info⟩
    · rw [Result.summary, hsummary]
      exact tally_add r.findings
    · rw [Result.summary, hsummary]
    · rw [Bool.not_eq_true', Result.hasErrors_eq_false_iff,
        Result.summary_error_eq_zero_iff]
    · rw [Bool.not_eq_true', Result.hasErrors_eq_false_iff, Ne,
        Result.maxSeverity?_eq_error_iff]
      simp
  · rintro label r rfl format
    rfl
  · intro hlength
    rw [renderMany_of_length_ne hlength]
    refine ⟨_, Result.ofText?_manyToJson rs, ?_⟩
    rw [List.forall₂_map_left_iff, List.forall₂_same]
    intro p _
    exact ⟨p.2.reportMembers, p.2.ofText?_toJson, rfl⟩

end ScriptLint
