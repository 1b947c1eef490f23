import Mathlib.Data.List.Basic
import Mathlib.Data.List.Flatten
import ScriptLint.Report.Text

namespace ScriptLint

/-! The lines of a report as plain text. A message that is a line of text takes one line of
the report; a message with line feeds in it takes several, which may look like anything. -/

/-! ### Texts in lines -/

namespace Text

variable {rows : List (List Char)} {line : List Char}

def ended (rows : List (List Char)) : List Char := rows.flatMap (· ++ ['\n'])

@[simp] theorem ended_cons (row : List Char) (rows : List (List Char)) :
    ended (row :: rows) = row ++ '\n' :: ended rows := by
  simp [ended]

theorem ended_append (rows rows' : List (List Char)) :
    ended (rows ++ rows') = ended rows ++ ended rows' :=
  List.flatMap_append

theorem splitOn_ended (h : ∀ row ∈ rows, '\n' ∉ row) :
    (ended rows).splitOn '\n' = rows ++ [[]] := by
  induction rows with
  | nil => rfl
  | cons row rows ih =>
      rw [List.forall_mem_cons] at h
      rw [ended_cons, List.splitOn_append_cons_self, List.splitOn_eq_singleton h.1, ih h.2]
      rfl

theorem feed_not_mem_of_mem_splitOn {text : List Char} (h : line ∈ text.splitOn '\n') :
    '\n' ∉ line := by
  induction text generalizing line with
  | nil =>
      rw [List.splitOn_nil, List.mem_singleton] at h
      rw [h]
      exact List.not_mem_nil
  | cons c text ih =>
      have hsplit : (c :: text).splitOn '\n' = _ :=
        List.splitOnP_cons_eq_if_modifyHead c text
      rw [hsplit] at h
      by_cases hc : c = '\n'
      · rw [if_pos (by simp [hc]), List.mem_cons] at h
        rcases h with rfl | h
        · exact List.not_mem_nil
        · exact ih h
      · rw [if_neg (by simp [hc])] at h
        cases htext : text.splitOn '\n' with
        | nil => simp [List.splitOn] at htext
        | cons first rest =>
            rw [htext] at ih
            rw [List.splitOn] at htext
            rw [htext, List.modifyHead_cons, List.mem_cons] at h
            rcases h with rfl | h
            · rw [List.mem_cons, not_or]
              exact ⟨Ne.symm hc, ih List.mem_cons_self⟩
            · exact ih (List.mem_cons_of_mem _ h)

theorem intercalate_ended (blocks : List (List (List Char))) :
    ['\n'].intercalate (blocks.map ended) = ended ([[]].intercalate blocks) := by
  induction blocks with
  | nil => rfl
  | cons block blocks ih =>
      cases blocks with
      | nil => simp [List.intercalate]
      | cons next rest =>
          rw [List.map_cons, List.map_cons, List.intercalate_cons_cons, ← List.map_cons,
            ih, List.intercalate_cons_cons, ended_append, ended_append]
          rfl

theorem filter_intercalate_blank {p : List Char → Bool} (hp : p [] = false)
    (blocks : List (List (List Char))) :
    ([[]].intercalate blocks).filter p = blocks.flatMap (List.filter p) := by
  induction blocks with
  | nil => rfl
  | cons block blocks ih =>
      cases blocks with
      | nil => simp [List.intercalate]
      | cons next rest =>
          rw [List.intercalate_cons_cons, List.filter_append, List.filter_append, ih,
            List.filter_cons_of_neg (by simp [hp]), List.filter_nil, List.append_nil]
          rfl

theorem mem_intercalate_blank {blocks : List (List (List Char))} :
    line ∈ [[]].intercalate blocks → line = [] ∨ ∃ block ∈ blocks, line ∈ block := by
  intro h
  by_cases hline : line = []
  · exact .inl hline
  · have hmem : line ∈ ([[]].intercalate blocks).filter (· ≠ []) :=
      List.mem_filter.mpr ⟨h, by simpa using hline⟩
    rw [filter_intercalate_blank (by simp), List.mem_flatMap] at hmem
    obtain ⟨block, hblock, hmem⟩ := hmem
    exact .inr ⟨block, hblock, (List.mem_filter.mp hmem).1⟩

end Text

/-! ### Texts of one line -/

def IsLine (s : String) : Prop := '\n' ∉ s.toList

/-- For literals, which need not be taken apart this way. -/
theorem isLine_ofList {cs : List Char} (h : cs.all (· != '\n') = true) :
    IsLine (String.ofList cs) := by
  intro hmem
  rw [String.toList_ofList] at hmem
  simpa using List.all_eq_true.mp h _ hmem

@[simp] theorem isLine_append {a b : String} : IsLine (a ++ b) ↔ IsLine a ∧ IsLine b := by
  simp [IsLine]

@[simp] theorem isLine_toString (s : String) : IsLine (toString s) ↔ IsLine s := Iff.rfl

@[simp] theorem isLine_repr (n : Nat) : IsLine n.repr := by
  intro h
  have hdigits : n.repr.toList = Nat.toDigits 10 n := by
    rw [← Nat.toString_eq_repr, Nat.toString_eq_ofList_toDigits, String.toList_ofList]
  rw [hdigits] at h
  cases Nat.isDigit_of_mem_toDigits (by omega) (by omega) h

/-! ### The lines of a report -/

namespace Result

variable {r : Result} {x : Finding}

/-- The report in lines; behind its last line feed stands an empty one. -/
def textLines (r : Result) : List (List Char) := r.toText.toList.splitOn '\n'

def isItem (line : List Char) : Bool := "- ".toList.isPrefixOf line

def headings : List (List Char) := ["Errors:".toList, "Warnings:".toList, "Notes:".toList]

/-- A report with one line for each finding and no others but headings and blank ones. -/
structure OneLineEach (r : Result) : Prop where
  items : r.textLines.filter isItem =
    (r.errors ++ r.warnings ++ r.notes).map fun x => x.toLine.toList
  others : ∀ line ∈ r.textLines, isItem line = false → line ≠ [] → line ∈ headings
  once : ∀ heading ∈ headings, r.textLines.count heading ≤ 1

def groupRows (g : String × List Finding) : List (List Char) :=
  (g.1 ++ ":").toList :: g.2.map fun x => x.toLine.toList

def rows (r : Result) : List (List Char) :=
  [[]].intercalate ((r.groups.filter fun g => !g.2.isEmpty).map groupRows)

theorem toList_renderGroup (g : String × List Finding) :
    (renderGroup g.1 g.2).toList = Text.ended (groupRows g) := by
  simp [renderGroup, groupRows, Text.ended, String.toList_join, List.flatMap_map]

theorem toList_toText (h : r.findings ≠ []) :
    r.toText.toList = Text.ended r.rows := by
  have hclean : r.isClean = false := by simpa [isClean] using h
  rw [toText, hclean, rows, ← Text.intercalate_ended]
  simp only [Bool.false_eq_true, if_false, String.toList_intercalate, List.map_map]
  congr 1
  exact List.map_congr_left fun g _ => toList_renderGroup g

theorem isItem_toLine (x : Finding) : isItem x.toLine.toList = true := by
  unfold Finding.toLine
  split <;> simp [isItem, List.isPrefixOf]

theorem isLine_toLine (h : IsLine x.message) : IsLine x.toLine := by
  unfold Finding.toLine Finding.location?
  cases x.line <;> cases x.column <;>
    simp only [isLine_append, h, Nat.toString_eq_repr, isLine_repr, and_true]
  all_goals and_intros <;> exact isLine_ofList (by decide)

/-! ### Where the lines come from -/

theorem map_fst_groups (r : Result) :
    r.groups.map (·.1) = ["Errors", "Warnings", "Notes"] := rfl

theorem mem_findings_of_mem_groups {g : String × List Finding} (hg : g ∈ r.groups)
    (hx : x ∈ g.2) : x ∈ r.findings := by
  simp only [groups, List.mem_cons, List.not_mem_nil, or_false] at hg
  rcases hg with rfl | rfl | rfl <;> exact (List.mem_filter.mp hx).1

theorem heading_mem {g : String × List Finding} (hg : g ∈ r.groups) :
    (g.1 ++ ":").toList ∈ headings := by
  have hfst : g.1 ∈ r.groups.map (·.1) := List.mem_map_of_mem hg
  have hall :
      ∀ name ∈ ["Errors", "Warnings", "Notes"], (name ++ ":").toList ∈ headings := by
    decide
  exact hall g.1 (map_fst_groups r ▸ hfst)

theorem isItem_heading {heading : List Char} (h : heading ∈ headings) :
    isItem heading = false := by
  revert heading
  decide

theorem feed_not_mem_heading {heading : List Char} (h : heading ∈ headings) :
    '\n' ∉ heading := by
  revert heading
  decide

theorem mem_rows {line : List Char} (h : line ∈ r.rows) :
    line = [] ∨ line ∈ headings ∨ ∃ x ∈ r.findings, line = x.toLine.toList := by
  rcases Text.mem_intercalate_blank h with rfl | ⟨block, hblock, hline⟩
  · exact .inl rfl
  · obtain ⟨g, hg, rfl⟩ := List.mem_map.mp hblock
    have hgroup : g ∈ r.groups := (List.mem_filter.mp hg).1
    rcases List.mem_cons.mp hline with rfl | hline
    · exact .inr (.inl (heading_mem hgroup))
    · obtain ⟨x, hx, rfl⟩ := List.mem_map.mp hline
      exact .inr (.inr ⟨x, mem_findings_of_mem_groups hgroup hx, rfl⟩)

theorem textLines_eq (h : r.findings ≠ []) (hlines : ∀ x ∈ r.findings, IsLine x.message) :
    r.textLines = r.rows ++ [[]] := by
  rw [textLines, toList_toText h, Text.splitOn_ended]
  intro line hline
  rcases mem_rows hline with rfl | hheading | ⟨x, hx, rfl⟩
  · exact List.not_mem_nil
  · exact feed_not_mem_heading hheading
  · exact isLine_toLine (hlines x hx)

theorem filter_groupRows {g : String × List Finding} (hg : g ∈ r.groups) :
    (groupRows g).filter isItem = g.2.map fun x => x.toLine.toList := by
  rw [groupRows, List.filter_cons_of_neg, List.filter_eq_self]
  · intro line hline
    obtain ⟨x, -, rfl⟩ := List.mem_map.mp hline
    exact isItem_toLine x
  · rw [isItem_heading (heading_mem hg)]
    exact Bool.false_ne_true

theorem filter_rows (r : Result) :
    r.rows.filter isItem =
      (r.errors ++ r.warnings ++ r.notes).map fun x => x.toLine.toList := by
  rw [rows, Text.filter_intercalate_blank rfl, List.flatMap_map]
  calc (r.groups.filter fun g => !g.2.isEmpty).flatMap
        (fun g => (groupRows g).filter isItem)
      = (r.groups.filter fun g => !g.2.isEmpty).flatMap
          fun g => g.2.map fun x => x.toLine.toList :=
        List.flatMap_congr fun g hg => filter_groupRows (List.mem_filter.mp hg).1
    _ = (r.errors ++ r.warnings ++ r.notes).map fun x => x.toLine.toList := by
        -- an empty group adds no lines
        simp only [groups]
        cases r.errors <;> cases r.warnings <;> cases r.notes <;> simp

theorem count_groupRows {heading : List Char} (hheading : heading ∈ headings)
    (g : String × List Finding) :
    (groupRows g).count heading = if (g.1 ++ ":").toList = heading then 1 else 0 := by
  have hitems : (g.2.map fun x => x.toLine.toList).count heading = 0 := by
    rw [List.count_eq_zero]
    intro hmem
    obtain ⟨x, -, rfl⟩ := List.mem_map.mp hmem
    cases (isItem_toLine x).symm.trans (isItem_heading hheading)
  simp [groupRows, List.count_cons, hitems]

theorem count_rows_le {heading : List Char} (hheading : heading ∈ headings) (r : Result) :
    r.rows.count heading ≤ 1 := by
  have hblank : ([] == heading) = false := by
    revert heading
    decide
  have hsub : (r.groups.filter fun g => !g.2.isEmpty).Sublist r.groups :=
    List.filter_sublist
  have hnames : (["Errors", "Warnings", "Notes"].map fun name =>
      if (name ++ ":").toList = heading then 1 else 0).sum ≤ 1 := by
    revert heading
    decide
  calc r.rows.count heading
      = ((r.groups.filter fun g => !g.2.isEmpty).flatMap
          fun g => (groupRows g).filter (· == heading)).length := by
        rw [List.count_eq_length_filter, rows, Text.filter_intercalate_blank hblank,
          List.flatMap_map]
    _ ≤ (r.groups.flatMap fun g => (groupRows g).filter (· == heading)).length :=
        (hsub.flatMap _).length_le
    _ = ((r.groups.map (·.1)).map fun name =>
          if (name ++ ":").toList = heading then 1 else 0).sum := by
        rw [List.length_flatMap, List.map_map]
        congr 1
        refine List.map_congr_left fun g _ => ?_
        rw [← List.count_eq_length_filter, count_groupRows hheading]
        rfl
    _ ≤ 1 := by rw [map_fst_groups]; exact hnames

theorem isLine_message (h : IsLine x.toLine) : IsLine x.message := by
  unfold Finding.toLine at h
  split at h
  · simp only [isLine_append] at h
    exact h.1.1.1.2
  · exact (isLine_append.mp h).2

theorem oneLineEach_of_isLine (h : r.findings ≠ [])
    (hlines : ∀ x ∈ r.findings, IsLine x.message) : r.OneLineEach where
  items := by
    rw [textLines_eq h hlines, List.filter_append, filter_rows]
    simp [isItem]
  others := by
    intro line hline hitem hne
    rw [textLines_eq h hlines, List.mem_append, List.mem_singleton] at hline
    rcases hline with hline | rfl
    · rcases mem_rows hline with rfl | hheading | ⟨x, -, rfl⟩
      · exact absurd rfl hne
      · exact hheading
      · cases (isItem_toLine x).symm.trans hitem
    · exact absurd rfl hne
  once := by
    intro heading hheading
    have hblank : ([[]] : List (List Char)).count heading = 0 := by
      revert heading
      decide
    rw [textLines_eq h hlines, List.count_append, hblank]
    exact count_rows_le hheading r

theorem mem_groups_of_mem (hx : x ∈ r.findings) :
    x ∈ r.errors ++ r.warnings ++ r.notes := by
  simp only [errors, warnings, notes, withSeverity, List.mem_append, List.mem_filter,
    beq_iff_eq]
  cases hseverity : x.severity <;> simp [hx]

/-- Only findings whose messages are lines can have a line each. -/
theorem OneLineEach.isLine (h : r.OneLineEach) (hx : x ∈ r.findings) :
    IsLine x.message := by
  have hmem : x.toLine.toList ∈ r.textLines.filter isItem := by
    rw [h.items]
    exact List.mem_map_of_mem (mem_groups_of_mem hx)
  exact isLine_message (Text.feed_not_mem_of_mem_splitOn (List.mem_filter.mp hmem).1)

/-- A report without findings says so, in a line that is neither a finding nor a
heading. -/
theorem textLines_of_clean (h : r.findings = []) :
    r.textLines = [cleanMessage.toList, []] := by
  obtain ⟨findings⟩ := r
  obtain rfl : findings = [] := h
  rfl

end Result

end ScriptLint
