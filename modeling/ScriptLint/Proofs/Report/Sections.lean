import Mathlib.Data.List.Nodup
import ScriptLint.Proofs.Report.Text

namespace ScriptLint

/-! The sections of a report as plain text, one for each severity that findings have. They
can be read back from the report, whatever the messages look like. -/

namespace Text

theorem intercalate_blank_append {blocks : List (List (List Char))} (h : blocks ≠ []) :
    [[]].intercalate blocks ++ [[]] = blocks.flatMap (· ++ [[]]) := by
  induction blocks with
  | nil => exact absurd rfl h
  | cons block blocks ih =>
      cases blocks with
      | nil => simp [List.intercalate]
      | cons next rest =>
          rw [List.intercalate_cons_cons, List.append_assoc, ih (List.cons_ne_nil _ _)]
          rfl

end Text

/-- The lines behind a heading, up to the next blank one. -/
def under (heading : List Char) (lines : List (List Char)) : List (List Char) :=
  ((lines.dropWhile (· != heading)).drop 1).takeWhile (· != [])

section Under

variable {heading line : List Char} {lines body rest : List (List Char)}

theorem under_heading (hbody : ∀ line ∈ body, line ≠ []) :
    under heading (heading :: (body ++ [] :: rest)) = body := by
  rw [under, List.dropWhile_cons_of_neg (by simp), List.drop_one, List.tail_cons,
    List.takeWhile_append_of_pos fun line hline => by simpa using hbody line hline,
    List.takeWhile_cons_of_neg (by simp), List.append_nil]

theorem under_append (h : ∀ line ∈ lines, line ≠ heading) :
    under heading (lines ++ rest) = under heading rest := by
  rw [under, List.dropWhile_append_of_pos fun line hline => by simpa using h line hline,
    under]

theorem under_eq_nil (h : heading ∉ lines) : under heading lines = [] := by
  have hall : ∀ line ∈ lines, line ≠ heading := fun line hline heq => h (heq ▸ hline)
  rw [← List.append_nil lines, under_append hall]
  rfl

end Under

def Severity.plural : Severity → String
  | error => "Errors"
  | warning => "Warnings"
  | info => "Notes"

def Severity.heading (s : Severity) : List Char := (s.plural ++ ":").toList

theorem Severity.heading_injective {s t : Severity}
    (h : s.heading = t.heading) : s = t := by
  revert h
  cases s <;> cases t <;> decide

theorem Severity.heading_mem (s : Severity) : s.heading ∈ Result.headings := by
  cases s <;> decide

theorem Severity.heading_ne_nil (s : Severity) : s.heading ≠ [] := by
  cases s <;> decide

namespace Result

variable {r r' : Result} {s t : Severity}

/-! ### The report as its sections -/

def items (r : Result) (s : Severity) : List (List Char) :=
  (r.withSeverity s).map fun x => x.toLine.toList

def sectionLines (r : Result) (s : Severity) : List (List Char) :=
  s.heading :: (r.items s ++ [[]])

def severities (r : Result) : List Severity :=
  [.error, .warning, .info].filter fun s => r.withSeverity s ≠ []

theorem mem_severities : s ∈ r.severities ↔ r.withSeverity s ≠ [] := by
  rw [severities, List.mem_filter, decide_eq_true_iff]
  refine and_iff_right ?_
  cases s <;> decide

theorem nodup_severities (r : Result) : r.severities.Nodup :=
  List.filter_sublist.nodup (by decide)

theorem isItem_of_mem_items {line : List Char} (h : line ∈ r.items s) :
    isItem line = true := by
  obtain ⟨x, -, rfl⟩ := List.mem_map.mp h
  exact isItem_toLine x

theorem ne_heading_of_mem_items {line : List Char} (h : line ∈ r.items s) :
    line ≠ t.heading := by
  rintro rfl
  cases (isItem_of_mem_items h).symm.trans (isItem_heading t.heading_mem)

theorem ne_nil_of_mem_items {line : List Char} (h : line ∈ r.items s) : line ≠ [] := by
  rintro rfl
  cases isItem_of_mem_items h

theorem rows_eq (r : Result) :
    r.rows = [[]].intercalate (r.severities.map fun s => s.heading :: r.items s) := by
  have hgroups : r.groups =
      [Severity.error, .warning, .info].map fun s => (s.plural, r.withSeverity s) := rfl
  have hfilter : (r.groups.filter fun g => !g.2.isEmpty) =
      r.severities.map fun s => (s.plural, r.withSeverity s) := by
    rw [hgroups, List.filter_map, severities]
    congr 1
    refine List.filter_congr fun s _ => ?_
    rw [Bool.eq_iff_iff, Function.comp_apply, Bool.not_eq_true', List.isEmpty_eq_false_iff,
      decide_eq_true_iff]
  rw [rows, hfilter, List.map_map]
  rfl

theorem severities_ne_nil (h : r.findings ≠ []) : r.severities ≠ [] := by
  obtain ⟨x, rest, hx⟩ := List.exists_cons_of_ne_nil h
  have hmem : x ∈ r.withSeverity x.severity := by
    rw [withSeverity, hx]
    simp
  exact List.ne_nil_of_mem (mem_severities.mpr (List.ne_nil_of_mem hmem))

theorem textLines_eq_sections (h : r.findings ≠ [])
    (hlines : ∀ x ∈ r.findings, IsLine x.message) :
    r.textLines = r.severities.flatMap r.sectionLines := by
  have hblocks : r.severities.map (fun s => s.heading :: r.items s) ≠ [] :=
    fun hnil => severities_ne_nil h (List.map_eq_nil_iff.mp hnil)
  rw [textLines_eq h hlines, rows_eq, Text.intercalate_blank_append hblocks,
    List.flatMap_map]
  rfl

/-! ### Reading the sections back -/

theorem under_sections (r : Result) (s : Severity) (l : List Severity) :
    under s.heading (l.flatMap r.sectionLines) = if s ∈ l then r.items s else [] := by
  induction l with
  | nil => rfl
  | cons t l ih =>
      by_cases hst : s = t
      · subst hst
        rw [List.flatMap_cons, sectionLines, List.cons_append, List.append_assoc,
          List.singleton_append, under_heading fun line hline => ne_nil_of_mem_items hline,
          if_pos List.mem_cons_self]
      · -- Neither items nor blank lines nor other headings look like the heading.
        have hother : ∀ line ∈ r.sectionLines t, line ≠ s.heading := by
          intro line hline
          rw [sectionLines, List.mem_cons, List.mem_append, List.mem_singleton] at hline
          rcases hline with rfl | hline | rfl
          · exact fun heq => hst (Severity.heading_injective heq.symm)
          · exact ne_heading_of_mem_items hline
          · exact s.heading_ne_nil.symm
        rw [List.flatMap_cons, under_append hother, ih]
        simp only [List.mem_cons, hst, false_or]

theorem count_sectionLines (r : Result) (s t : Severity) :
    (r.sectionLines t).count s.heading = if t = s then 1 else 0 := by
  have hitems : (r.items t ++ [[]]).count s.heading = 0 := by
    rw [List.count_eq_zero, List.mem_append, List.mem_singleton, not_or]
    exact ⟨fun h => ne_heading_of_mem_items h rfl, s.heading_ne_nil⟩
  rw [sectionLines, List.count_cons, hitems, Nat.zero_add]
  by_cases hst : t = s
  · rw [if_pos (beq_iff_eq.mpr (congrArg Severity.heading hst)), if_pos hst]
  · rw [if_neg fun heq => hst (Severity.heading_injective (beq_iff_eq.mp heq)), if_neg hst]

theorem count_sections (r : Result) (s : Severity) (l : List Severity) :
    (l.flatMap r.sectionLines).count s.heading = l.count s := by
  induction l with
  | nil => rfl
  | cons t l ih =>
      rw [List.flatMap_cons, List.count_append, ih, count_sectionLines, List.count_cons,
        Nat.add_comm]
      simp only [beq_iff_eq]

structure Sectioned (r : Result) (s : Severity) : Prop where
  items : under s.heading r.textLines = r.items s
  heading : r.textLines.count s.heading = if r.withSeverity s = [] then 0 else 1

theorem withSeverity_of_clean (h : r.findings = []) : r.withSeverity s = [] := by
  rw [withSeverity, h, List.filter_nil]

theorem sectioned (hlines : ∀ x ∈ r.findings, IsLine x.message) (s : Severity) :
    r.Sectioned s := by
  by_cases h : r.findings = []
  · have hnone : s.heading ∉ [cleanMessage.toList, []] := by
      cases s <;> decide
    constructor
    · rw [textLines_of_clean h, under_eq_nil hnone, items, withSeverity_of_clean h,
        List.map_nil]
    · rw [textLines_of_clean h, List.count_eq_zero.mpr hnone,
        if_pos (withSeverity_of_clean h)]
  · constructor
    · rw [textLines_eq_sections h hlines, under_sections]
      by_cases hs : r.withSeverity s = []
      · rw [if_neg (fun hmem => mem_severities.mp hmem hs), items, hs, List.map_nil]
      · rw [if_pos (mem_severities.mpr hs)]
    · rw [textLines_eq_sections h hlines, count_sections]
      by_cases hs : r.withSeverity s = []
      · rw [if_pos hs, List.count_eq_zero]
        exact fun hmem => mem_severities.mp hmem hs
      · rw [if_neg hs]
        exact List.count_eq_one_of_mem r.nodup_severities (mem_severities.mpr hs)

/-! ### Equal reports -/

theorem findings_eq_nil_iff : r.findings = [] ↔ ∀ s, r.withSeverity s = [] := by
  constructor
  · exact fun h s => withSeverity_of_clean h
  · intro h
    by_contra hne
    obtain ⟨s, hs⟩ := List.exists_mem_of_ne_nil _ (severities_ne_nil hne)
    exact mem_severities.mp hs (h s)

theorem items_eq_iff :
    r.items s = r'.items s ↔
      (r.withSeverity s).map Finding.toLine = (r'.withSeverity s).map Finding.toLine := by
  have hitems (r : Result) :
      r.items s = ((r.withSeverity s).map Finding.toLine).map String.toList := by
    rw [List.map_map]
    rfl
  rw [hitems, hitems, List.map_inj_right fun _ _ => String.toList_inj.mp]

theorem withSeverity_eq_nil_iff : r.withSeverity s = [] ↔ r.items s = [] :=
  List.map_eq_nil_iff.symm

theorem toText_congr (h : ∀ s, r.items s = r'.items s) : r.toText = r'.toText := by
  have hnone (s : Severity) : r.withSeverity s = [] ↔ r'.withSeverity s = [] := by
    rw [withSeverity_eq_nil_iff, withSeverity_eq_nil_iff, h]
  by_cases hclean : r.findings = []
  · have hclean' : r'.findings = [] :=
      findings_eq_nil_iff.mpr fun s => (hnone s).mp (withSeverity_of_clean hclean)
    simp [toText, isClean, hclean, hclean']
  · have hclean' : r'.findings ≠ [] := fun hnil =>
      hclean (findings_eq_nil_iff.mpr fun s => (hnone s).mpr (withSeverity_of_clean hnil))
    have hseverities : r.severities = r'.severities :=
      List.filter_congr fun s _ => decide_eq_decide.mpr (not_congr (hnone s))
    rw [← String.toList_inj, toList_toText hclean, toList_toText hclean', rows_eq, rows_eq,
      hseverities]
    simp only [h]

theorem toText_eq_iff_items (hlines : ∀ x ∈ r.findings, IsLine x.message)
    (hlines' : ∀ x ∈ r'.findings, IsLine x.message) :
    r.toText = r'.toText ↔ ∀ s, r.items s = r'.items s := by
  refine ⟨fun h s => ?_, toText_congr⟩
  rw [← (sectioned hlines s).items, ← (sectioned hlines' s).items, textLines, textLines, h]

/-- The report of findings whose messages are lines tells the lines of each severity, in
order, and nothing else: each under the heading of its severity, of which there is one if
and only if there is such a finding. That there are no findings is said of none alone. -/
theorem toText_eq_iff_sections (hlines : ∀ x ∈ r.findings, IsLine x.message)
    (hlines' : ∀ x ∈ r'.findings, IsLine x.message) :
    (r.toText = r'.toText ↔ ∀ s,
        (r.withSeverity s).map Finding.toLine = (r'.withSeverity s).map Finding.toLine) ∧
      (∀ s, r.Sectioned s) ∧
      r.textLines.filter isItem =
        (r.errors ++ r.warnings ++ r.notes).map (fun x => x.toLine.toList) ∧
      (r.toText = cleanMessage ++ "\n" ↔ r.findings = []) := by
  refine ⟨?_, sectioned hlines, ?_, ?_⟩
  · rw [toText_eq_iff_items hlines hlines']
    exact forall_congr' fun s => items_eq_iff
  · by_cases h : r.findings = []
    · simp only [errors, warnings, notes, withSeverity_of_clean h, textLines_of_clean h]
      decide
    · exact (oneLineEach_of_isLine h hlines).items
  · -- The report without findings is the clean message.
    have hclean : cleanMessage ++ "\n" = (⟨[]⟩ : Result).toText := rfl
    rw [hclean, toText_eq_iff_items hlines (List.forall_mem_nil _), findings_eq_nil_iff]
    exact forall_congr' fun s => withSeverity_eq_nil_iff.symm

/-! ### Messages like lines of a report -/

def headingLike : Finding := { kind := .security, severity := .info, message := "Errors:" }

def cleanLike : Finding :=
  { kind := .security, severity := .info, message := cleanMessage }

def itemLike : Finding :=
  { kind := .security, severity := .warning, message := "- x (line 1)", line := some 1 }

def silent : Finding := { kind := .security, severity := .error, message := "" }

/-- Findings whose messages look like other lines of a report, or are empty. -/
def mimicking : Result := ⟨[headingLike, silent, cleanLike, itemLike]⟩

def mimickingSorted : Result := ⟨[silent, itemLike, headingLike, cleanLike]⟩

theorem mimicking_sections :
    mimicking.toText = mimickingSorted.toText ∧
      under Severity.info.heading mimicking.textLines =
        ["- Errors:".toList, "- No issues found.".toList] ∧
      under Severity.error.heading mimicking.textLines = ["- ".toList] ∧
      mimicking.textLines.count Severity.error.heading = 1 := by
  have hmessages : ∀ x ∈ [headingLike, silent, cleanLike, itemLike], IsLine x.message := by
    simp only [List.forall_mem_cons, headingLike, silent, cleanLike, itemLike,
      cleanMessage]
    exact ⟨isLine_ofList (by decide), isLine_ofList (by decide), isLine_ofList (by decide),
      isLine_ofList (by decide), List.forall_mem_nil _⟩
  have hlines : ∀ x ∈ mimicking.findings, IsLine x.message := hmessages
  have hlines' : ∀ x ∈ mimickingSorted.findings, IsLine x.message :=
    fun x hx => hmessages x (by simp [mimickingSorted] at hx ⊢; tauto)
  obtain ⟨hreport, hsections, -, -⟩ := toText_eq_iff_sections hlines hlines'
  refine ⟨hreport.mpr fun s => ?_, (hsections .info).items, (hsections .error).items,
    (hsections .error).heading⟩
  cases s <;> rfl

end Result

end ScriptLint
