import ScriptLint.Proofs.Check.Sockets
import ScriptLint.Proofs.Report.Text
import ScriptLint.Proofs.Text.Lines
import ScriptLint.Proofs.Validator.Errors

namespace ScriptLint

open ScriptLint.Script

/-! Which names the messages on a script take from the script itself. All else in them is
text of one line, so as long as no such name holds a line feed every finding has a line of
its own in a report. -/

/-! ### Why there is no script -/

namespace Script

def Fault.quoted : Fault → List String
  | missing kind => [kind.name]
  | early (.redeclared name) => [name]
  | _ => []

/-- A token that is unexpected is shown up to the end of its first line. -/
def Fault.Shown : Fault → Prop
  | unexpectedToken shown => IsLine shown
  | _ => True

variable {s : Script} {n : Node} {r : Rejection} {f : Fault}

theorem isLine_map {g : Char → Char} (hg : ∀ c, g c = '\n' → c = '\n') {t : String}
    (h : IsLine t) : IsLine (t.map g) := by
  intro hmem
  rw [String.toList_map, List.mem_map] at hmem
  obtain ⟨c, hc, hfeed⟩ := hmem
  exact h (hg c hfeed ▸ hc)

theorem isLine_message (hshown : f.Shown) (h : ∀ name ∈ f.quoted, IsLine name) :
    IsLine f.message := by
  unfold Fault.message
  split
  · next text =>
      have htext : IsLine text := h text List.mem_cons_self
      exact isLine_append.mpr
        ⟨isLine_append.mpr ⟨isLine_ofList (by decide), htext⟩, isLine_ofList (by decide)⟩
  · next kind _ =>
      have hkind : IsLine kind.name := h _ List.mem_cons_self
      refine isLine_append.mpr
        ⟨isLine_ofList (by decide), isLine_map (fun c hc => ?_) hkind⟩
      split at hc
      · cases hc
      · exact hc
  · next shown =>
      have hline : IsLine shown := hshown
      exact isLine_append.mpr
        ⟨isLine_append.mpr ⟨isLine_ofList (by decide), hline⟩, isLine_ofList (by decide)⟩
  · exact isLine_ofList (by decide)
  · next e =>
      cases e with
      | missingInitializer => exact isLine_ofList (by decide)
      | redeclared name =>
          have hname : IsLine name := h _ List.mem_cons_self
          exact isLine_append.mpr
            ⟨isLine_append.mpr ⟨isLine_ofList (by decide), hname⟩,
              isLine_ofList (by decide)⟩
  · exact isLine_ofList (by decide)
  · exact isLine_ofList (by decide)

theorem feed_not_mem_headD_lines (text : List Char) :
    '\n' ∉ (Text.lines text).headD text := by
  cases hlines : Text.lines text with
  | nil =>
      cases text with
      | nil => exact List.not_mem_nil
      | cons c cs =>
          unfold Text.lines at hlines
          split at hlines <;> cases hlines
  | cons line rest => exact Text.feed_not_mem_of_mem_lines (hlines ▸ List.mem_cons_self)

theorem shown_describe (s : Script) (n : Node) : (s.describe n).fault.Shown := by
  unfold describe
  split
  · trivial
  · simp only [reject]
    split
    · trivial
    · intro hmem
      rw [String.toList_ofList] at hmem
      exact feed_not_mem_headD_lines _ (List.mem_of_mem_take hmem)

theorem shown_of_rejection? (h : s.rejection? = some r) : r.fault.Shown := by
  unfold rejection? at h
  split at h
  · obtain ⟨n, -, rfl⟩ := Option.map_eq_some_iff.mp h
    exact shown_describe s n
  · split at h
    · obtain rfl := Option.some.inj h
      trivial
    · split at h
      · obtain rfl := Option.some.inj h
        trivial
      · obtain ⟨n, -, rfl⟩ := Option.map_eq_some_iff.mp h
        trivial

end Script

/-! ### What the checks say -/

namespace Check

variable {c : Context} {f : Node} {x : Finding}

namespace Structure

theorem isLine_missingEntry (hentry : IsLine c.entryName) :
    IsLine (missingEntry c).message := by
  unfold missingEntry
  cases c.entry.binding? <;>
    simp only [isLine_append, isLine_toString, Nat.toString_eq_repr, isLine_repr, hentry,
      and_true]
  all_goals and_intros <;> exact isLine_ofList (by decide)

theorem isLine_of_mem_repeated {line : Nat} (hentry : IsLine c.entryName)
    (hx : x ∈ repeated c line) : IsLine x.message := by
  by_cases hcount : c.entry.declarations.length > 1
  · rw [repeated, if_pos hcount] at hx
    obtain rfl := List.mem_singleton.mp hx
    simp only [isLine_append, isLine_toString, Nat.toString_eq_repr, isLine_repr, hentry,
      and_true]
    and_intros <;> exact isLine_ofList (by decide)
  · rw [repeated, if_neg hcount] at hx
    cases hx

theorem isLine_of_mem_fewParams {line : Nat} (hentry : IsLine c.entryName)
    (hx : x ∈ fewParams c f line) : IsLine x.message := by
  unfold fewParams at hx
  split at hx
  · obtain rfl := List.mem_singleton.mp hx
    simp only [isLine_append, isLine_toString, hentry, and_true]
    and_intros <;> exact isLine_ofList (by decide)
  · split at hx
    · obtain rfl := List.mem_singleton.mp hx
      simp only [isLine_append, isLine_toString, hentry, and_true]
      and_intros <;> exact isLine_ofList (by decide)
    · cases hx
  · cases hx

theorem isLine_of_mem (hentry : IsLine c.entryName) (hx : x ∈ findings c) :
    IsLine x.message := by
  rcases List.mem_append.mp hx with hx | hreturn
  · unfold entryFindings at hx
    split at hx
    · obtain rfl := List.mem_singleton.mp hx
      exact isLine_missingEntry hentry
    · rcases List.mem_append.mp hx with hrepeated | hfew
      · exact isLine_of_mem_repeated hentry hrepeated
      · exact isLine_of_mem_fewParams hentry hfew
  · obtain ⟨n, -, rfl⟩ := List.mem_map.mp hreturn
    simp only [returnFinding, Finding.atLocation, isLine_append, isLine_toString, hentry,
      and_true]
    and_intros <;> exact isLine_ofList (by decide)

end Structure

namespace Coverage

def quoted (c : Context) : List String :=
  match c.function? with
  | some f => if c.outputs.isEmpty then [] else (extra c f).map (·.1)
  | none => []

theorem isLine_of_mem (hentry : IsLine c.entryName)
    (houtputs : ∀ o ∈ c.outputs, IsLine o.name) (hquoted : ∀ name ∈ quoted c, IsLine name)
    (hx : x ∈ findings c) : IsLine x.message := by
  cases hf : c.function? with
  | none =>
      rw [findings_of_none hf] at hx
      cases hx
  | some f =>
      by_cases hempty : c.outputs = []
      · simp [findings, hf, hempty] at hx
      · have hkeys : quoted c = (extra c f).map (·.1) := by
          simp only [quoted, hf, List.isEmpty_iff, if_neg hempty]
        rw [findings_of_some hf hempty, List.mem_append] at hx
        rcases hx with hmissing | hextra
        · obtain ⟨o, ho, rfl⟩ := List.mem_map.mp hmissing
          have hname : IsLine o.name := houtputs o (List.mem_filter.mp ho).1
          simp only [missingFinding, isLine_append, isLine_toString, hentry, hname,
            and_true]
          and_intros <;> exact isLine_ofList (by decide)
        · obtain ⟨key, hkey, rfl⟩ := List.mem_map.mp hextra
          have hname : IsLine key.1 := hquoted _ (hkeys ▸ List.mem_map_of_mem hkey)
          simp only [extraFinding, isLine_append, isLine_toString, hentry, hname, and_true]
          and_intros <;> exact isLine_ofList (by decide)

end Coverage

end Check

theorem Rule.isLine_of_mem_scan {rules : List Rule} {source : List Char} {x : Finding}
    (hrules : ∀ r ∈ rules, IsLine r.message) (hx : x ∈ scan rules source) :
    IsLine x.message := by
  obtain ⟨⟨line, number⟩, -, hline⟩ := List.mem_flatMap.mp hx
  obtain ⟨r, hr, rfl⟩ := List.mem_map.mp hline
  exact hrules r (List.mem_filter.mp hr).1

theorem Rule.message_of_ofText? {text message : String} {r : Rule}
    (h : ofText? text message = some r) : r.message = message := by
  obtain ⟨p, -, rfl⟩ := Option.map_eq_some_iff.mp h
  rfl

theorem Rule.isLine_builtin : ∀ r ∈ Rule.builtin, IsLine r.message := by
  intro r hr
  obtain ⟨⟨text, message⟩, hmem, hr⟩ := List.mem_filterMap.mp hr
  have hall : ∀ t ∈ builtinTexts, IsLine t.2 := by
    simp only [builtinTexts, List.forall_mem_cons, List.not_mem_nil, IsEmpty.forall_iff,
      implies_true, isLine_append, and_true]
    and_intros <;> exact isLine_ofList (by decide)
  rw [message_of_ofText? hr]
  exact hall _ hmem

namespace Check

namespace Heuristics

variable {c : Context} {f : Node} {x : Finding}

theorem isLine_of_mem_ambientOutputs (hentry : IsLine c.entryName)
    (hx : x ∈ ambientOutputs c) : IsLine x.message := by
  unfold ambientOutputs at hx
  split at hx
  · cases hx
  · split at hx
    · cases hx
    · obtain rfl := List.mem_singleton.mp hx
      simp only [isLine_append, isLine_toString, hentry, and_true]
      and_intros <;> exact isLine_ofList (by decide)

/-- The parameter and the member of each access that is reported. -/
def quoted (c : Context) (f : Node) : List String :=
  match c.inputs, f.paramName? c.source 0, f.body? with
  | some inputs, some param, some body =>
      (firsts (inputs.map (·.name)) (reads c.source param body)).flatMap fun access =>
        [param, access.1]
  | _, _, _ => []

theorem isLine_of_mem_undeclaredInputs (hquoted : ∀ name ∈ quoted c f, IsLine name)
    (hx : x ∈ undeclaredInputs c f) : IsLine x.message := by
  unfold undeclaredInputs at hx
  unfold quoted at hquoted
  split at hx
  · next inputs param body hinputs hparam hbody =>
      obtain ⟨access, haccess, rfl⟩ := List.mem_map.mp hx
      rw [hinputs, hparam, hbody] at hquoted
      have hboth : ∀ name ∈ [param, access.1], IsLine name := fun name hname =>
        hquoted name (List.mem_flatMap.mpr ⟨access, haccess, hname⟩)
      simp only [List.forall_mem_cons] at hboth
      simp only [undeclaredFinding, Finding.atLocation, isLine_append, isLine_toString,
        hboth.1, hboth.2.1, and_true]
      and_intros <;> exact isLine_ofList (by decide)
  · cases hx

theorem isLine_of_mem (hentry : IsLine c.entryName)
    (hquoted : ∀ name ∈ (c.function?.map (quoted c)).getD [], IsLine name)
    (hx : x ∈ findings c) : IsLine x.message := by
  rcases List.mem_append.mp hx with hx | hinputs
  · rcases List.mem_append.mp hx with hx | hstring
    · rcases List.mem_append.mp hx with hambient | hresult
      · exact isLine_of_mem_ambientOutputs hentry hambient
      · cases hf : c.function? with
        | none => simp [hf] at hresult
        | some f =>
            have hmem : x ∈ unusedResult c f := by simpa [hf] using hresult
            rw [(mem_unusedResult hmem).2.2, isLine_append]
            exact ⟨isLine_ofList (by decide), isLine_ofList (by decide)⟩
    · rw [(mem_stringTypes hstring).2.2]
      exact isLine_ofList (by decide)
  · cases hf : c.function? with
    | none => simp [hf] at hinputs
    | some f =>
        have hmem : x ∈ undeclaredInputs c f := by simpa [hf] using hinputs
        rw [hf] at hquoted
        exact isLine_of_mem_undeclaredInputs hquoted hmem

end Heuristics

theorem isLine_of_mem_report {rules : List Rule} {c : Context} {x : Finding}
    (hentry : IsLine c.entryName) (houtputs : ∀ o ∈ c.outputs, IsLine o.name)
    (hrules : ∀ r ∈ Rule.withBuiltin rules, IsLine r.message)
    (hcoverage : ∀ name ∈ Coverage.quoted c, IsLine name)
    (hheuristics : ∀ name ∈ (c.function?.map (Heuristics.quoted c)).getD [], IsLine name)
    (hx : x ∈ report rules c (Coverage.findings c) (Heuristics.findings c)) :
    IsLine x.message := by
  rcases mem_report.mp hx with hstructure | hcover | hscan | hguess
  · exact Structure.isLine_of_mem hentry hstructure
  · exact Coverage.isLine_of_mem hentry houtputs hcoverage hcover
  · exact Rule.isLine_of_mem_scan hrules hscan
  · exact Heuristics.isLine_of_mem hentry hheuristics hguess

end Check

/-! ### The report -/

/-- The names that the messages on a script take from it. -/
def Script.quotedNames (s : Script) (outputs : List Socket)
    (inputs : Option (List Socket)) : List String :=
  match s.rejection? with
  | some r => r.fault.quoted
  | none =>
      let c := Validator.standard.context s outputs inputs
      Check.Coverage.quoted c ++ (c.function?.map (Check.Heuristics.quoted c)).getD []

namespace Validator

variable {s : Script} {outputs : List Socket} {inputs : Option (List Socket)} {x : Finding}

theorem isLine_of_mem_judge (houtputs : ∀ o ∈ outputs, IsLine o.name)
    (hquoted : ∀ name ∈ s.quotedNames outputs inputs, IsLine name)
    (hx : x ∈ (standard.judge s outputs inputs).findings) : IsLine x.message := by
  unfold Script.quotedNames at hquoted
  cases hs : s.rejection? with
  | some r =>
      rw [judge_of_rejection hs, List.mem_singleton] at hx
      rw [hs] at hquoted
      have hfault : IsLine r.fault.message :=
        Script.isLine_message (Script.shown_of_rejection? hs) hquoted
      have hmessage : r.finding.message = "Syntax error: " ++ r.fault.message := rfl
      rw [hx, hmessage]
      exact isLine_append.mpr ⟨isLine_ofList (by decide), hfault⟩
  | none =>
      rw [Check.judge_findings rfl hs] at hx
      simp only [hs, List.forall_mem_append] at hquoted
      have hentry : IsLine defaultEntryName := isLine_ofList (by decide)
      have hrules : ∀ r ∈ Rule.withBuiltin [], IsLine r.message := by
        rw [Rule.withBuiltin, List.append_nil]
        exact Rule.isLine_builtin
      exact Check.isLine_of_mem_report hentry houtputs hrules hquoted.1 hquoted.2 hx

/-- As long as the names that messages quote are lines, every finding has a line of the
report for itself, whatever else a script holds. -/
theorem judge_oneLineEach (houtputs : ∀ o ∈ outputs, IsLine o.name)
    (hquoted : ∀ name ∈ s.quotedNames outputs inputs, IsLine name) :
    ((standard.judge s outputs inputs).findings = [] →
      (standard.judge s outputs inputs).textLines = [cleanMessage.toList, []]) ∧
    ((standard.judge s outputs inputs).findings ≠ [] →
      (standard.judge s outputs inputs).OneLineEach) :=
  ⟨Result.textLines_of_clean, fun h =>
    Result.oneLineEach_of_isLine h fun _ hx => isLine_of_mem_judge houtputs hquoted hx⟩

end Validator

namespace Script

/-- A script that returns a key written as a string and reads `x`. The parts are those of
the string, which begins behind 35 characters. -/
def returningString (literal : String) (stop : Nat) (parts : List Node) : Script :=
  { source := "function processData(i) \x7b return \x7b ".toList ++ literal.toList ++
      ": i.x \x7d; \x7d".toList
    root := .onLine .program none 0 (stop + 10) [
      .onLine .functionDeclaration none 0 (stop + 10) [
        .onLine (.token "function") none 0 8 [],
        .onLine .identifier (some .name) 9 20 [],
        .onLine (.other "formal_parameters") (some .parameters) 20 23 [
          .onLine (.token "(") none 20 21 [],
          .onLine .identifier none 21 22 [],
          .onLine (.token ")") none 22 23 []],
        .onLine .statementBlock (some .body) 24 (stop + 10) [
          .onLine (.token "\x7b") none 24 25 [],
          .onLine .returnStatement none 26 (stop + 8) [
            .onLine (.token "return") none 26 32 [],
            .onLine .object none 33 (stop + 7) [
              .onLine (.token "\x7b") none 33 34 [],
              .onLine .pair none 35 (stop + 5) [
                .onLine .string (some .key) 35 stop parts,
                .onLine (.token ":") none stop (stop + 1) [],
                .onLine .memberExpression (some .value) (stop + 2) (stop + 5) [
                  .onLine .identifier (some .object) (stop + 2) (stop + 3) [],
                  .onLine (.token ".") none (stop + 3) (stop + 4) [],
                  .onLine .propertyIdentifier (some .property) (stop + 4) (stop + 5) []]],
              .onLine (.token "\x7d") none (stop + 6) (stop + 7) []],
            .onLine (.token ";") none (stop + 7) (stop + 8) []],
          .onLine (.token "\x7d") none (stop + 9) (stop + 10) []]]]
    flawed := false }

/-- The key looks like a finding and a heading, on one line. -/
def imitating : Script :=
  returningString "\"- Errors:\"" 46 [
    .onLine (.token "\"") none 35 36 [],
    .onLine .stringFragment none 36 45 [],
    .onLine (.token "\"") none 45 46 []]

/-- The key has an escaped line feed, with what looks like a finding behind it. -/
def splitting : Script :=
  returningString "\"b\\n- c\"" 43 [
    .onLine (.token "\"") none 35 36 [],
    .onLine .stringFragment none 36 37 [],
    .onLine .escapeSequence none 37 39 [],
    .onLine .stringFragment none 39 42 [],
    .onLine (.token "\"") none 42 43 []]

theorem imitating_rejection? : imitating.rejection? = none := by
  rw [rejection?_eq_none_iff rfl]
  exact ⟨rfl, by decide, by decide⟩

theorem splitting_rejection? : splitting.rejection? = none := by
  rw [rejection?_eq_none_iff rfl]
  exact ⟨rfl, by decide, by decide⟩

end Script

namespace Validator

theorem judge_oneLineEach_imitating :
    (∀ o ∈ [(⟨"a", .any⟩ : Socket)], IsLine o.name) ∧
      (∀ name ∈ Script.imitating.quotedNames [⟨"a", .any⟩] (some []), IsLine name) ∧
      (standard.judge .imitating [⟨"a", .any⟩] (some [])).findings ≠ [] ∧
      (standard.judge .imitating [⟨"a", .any⟩] (some [])).OneLineEach := by
  have houtputs : ∀ o ∈ [(⟨"a", .any⟩ : Socket)], IsLine o.name := by
    simp only [List.forall_mem_singleton]
    exact isLine_ofList (by decide)
  have hnames :
      Script.imitating.quotedNames [⟨"a", .any⟩] (some []) = ["- Errors:", "i", "x"] := by
    decide +kernel
  have hquoted : ∀ name ∈ Script.imitating.quotedNames [⟨"a", .any⟩] (some []),
      IsLine name := by
    simp only [hnames, List.forall_mem_cons, List.not_mem_nil, IsEmpty.forall_iff,
      implies_true, and_true]
    and_intros <;> exact isLine_ofList (by decide)
  have hne : (standard.judge .imitating [⟨"a", .any⟩] (some [])).findings ≠ [] := by
    have hmem : Check.Coverage.extraFinding "processData" ("- Errors:", 1) ∈
        Check.Coverage.findings (standard.context .imitating [⟨"a", .any⟩] (some [])) := by
      decide +kernel
    rw [Check.judge_findings rfl Script.imitating_rejection?]
    exact List.ne_nil_of_mem (Check.mem_report.mpr (.inr (.inl hmem)))
  exact ⟨houtputs, hquoted, hne, (judge_oneLineEach houtputs hquoted).2 hne⟩

/-- A name with a line feed in it takes two lines, and a report without findings has a line
too. -/
theorem judge_splitting_not_oneLineEach :
    (∀ o ∈ [(⟨"a", .any⟩ : Socket)], IsLine o.name) ∧
      Script.splitting.rejection? = none ∧
      ¬ (standard.judge .splitting [⟨"a", .any⟩] none).OneLineEach ∧
      ∀ r : Result, r.findings = [] → ¬ r.OneLineEach := by
  refine ⟨?_, Script.splitting_rejection?, fun h => ?_, fun r hr h => ?_⟩
  · simp only [List.forall_mem_singleton]
    exact isLine_ofList (by decide)
  · have hcoverage : Check.Coverage.extraFinding "processData" ("b\n- c", 1) ∈
        Check.Coverage.findings (standard.context .splitting [⟨"a", .any⟩] none) := by
      decide +kernel
    have hmem : Check.Coverage.extraFinding "processData" ("b\n- c", 1) ∈
        (standard.judge .splitting [⟨"a", .any⟩] none).findings := by
      rw [Check.judge_findings rfl Script.splitting_rejection?]
      exact Check.mem_report.mpr (.inr (.inl hcoverage))
    have hfeed : '\n' ∈
        (Check.Coverage.extraFinding "processData" ("b\n- c", 1)).message.toList := by
      decide +kernel
    exact h.isLine hmem hfeed
  · have hline : cleanMessage.toList ∈ r.textLines := by
      simp [Result.textLines_of_clean hr]
    have hheading := h.others _ hline (by decide) (by decide)
    revert hheading
    decide

end Validator

end ScriptLint
