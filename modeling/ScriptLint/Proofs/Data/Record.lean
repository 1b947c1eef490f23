import Mathlib.Tactic.MkIffOfInductiveProp
import Mathlib.Data.List.Forall2
import ScriptLint.Data.Record
import ScriptLint.Proofs.Data.Json.Value

namespace ScriptLint

open ScriptLint.Data

/-! Findings and results read back from what they are written as. -/

/-! ### Fields -/

/-- Each field of a record is the only member of its names. -/
theorem Data.Value.atMostOne?_of_fields? {strictness : Strictness}
    {fields : List (List String)} {ms : List (String × Value)}
    {values : List (Option Value)}
    (h : (record ms).fields? strictness fields = some values) (i : Nat)
    {names : List String} {v : Option Value} (hnames : fields[i]? = some names)
    (hv : values[i]? = some v) : atMostOne? (named names ms) = some v := by
  rw [fields?] at h
  induction fields generalizing values i with
  | nil => cases hnames
  | cons first fields ih =>
      simp only [List.mapM_cons, Option.bind_eq_bind, Option.bind_eq_some_iff,
        Option.pure_def, Option.some.injEq] at h
      obtain ⟨w, hw, ws, hws, rfl⟩ := h
      cases i with
      | zero =>
          cases hnames
          cases hv
          exact hw
      | succ i => exact ih hws i hnames hv

theorem Data.Value.named_of_others {names : List String} {members : List (String × Value)}
    (h : ∀ m ∈ members, m.1 ∉ names) : named names members = [] := by
  rw [named, List.map_eq_nil_iff, List.filter_eq_nil_iff]
  intro m hm hcontains
  exact h m hm (List.contains_iff_mem.mp hcontains)

theorem Data.Value.mapM_of_forall₂ {α β : Type} {f : α → Option β} {as : List α}
    {bs : List β} (h : List.Forall₂ (fun a b => f a = some b) as bs) :
    as.mapM f = some bs := by
  induction h with
  | nil => rfl
  | cons hab _ ih =>
      rw [List.mapM_cons, hab, ih]
      rfl

/-! ### Names -/

theorem Data.Value.choice?_name {α : Type} {name : α → String} {all : List α} {a : α}
    (hmem : a ∈ all) (hname : ∀ b ∈ all, name b = name a → b = a) :
    choice? name all (.text (name a)) = some a := by
  have hfind : ∃ b, all.find? (fun b => name b == name a) = some b := by
    rw [← Option.isSome_iff_exists, List.find?_isSome]
    exact ⟨a, hmem, by simp⟩
  obtain ⟨b, hb⟩ := hfind
  have hb' : name b = name a := by simpa using List.find?_some hb
  rw [choice?, hb, hname b (List.mem_of_find?_eq_some hb) hb']

namespace FindingKind

theorem mem_all (k : FindingKind) : k ∈ all := by
  cases k <;> decide

theorem choice?_name (k : FindingKind) : Value.choice? name all (.text k.name) = some k :=
  Value.choice?_name k.mem_all (by cases k <;> decide)

end FindingKind

namespace Severity

theorem mem_all (s : Severity) : s ∈ all := by
  cases s <;> decide

theorem choice?_name (s : Severity) : Value.choice? name all (.text s.name) = some s :=
  Value.choice?_name s.mem_all (by cases s <;> decide)

end Severity

/-! ### Findings -/

namespace Finding

/-- Whether line and column are numbers that can be read. -/
@[mk_iff fits_iff]
structure Fits (f : Finding) : Prop where
  line : ∀ n, f.line = some n → n < positionLimit
  column : ∀ n, f.column = some n → n < positionLimit

def members (f : Finding) : List (String × Value) :=
  [("kind", .text f.kind.name), ("severity", .text f.severity.name),
    ("message", .text f.message)]
    ++ positionMember "line" f.line ++ positionMember "column" f.column

theorem toValue_eq (f : Finding) : f.toValue = .record f.members := rfl

theorem line_mem_members (f : Finding) :
    "line" ∈ f.members.map Prod.fst ↔ f.line.isSome := by
  rcases f with ⟨kind, severity, message, line, column⟩
  cases line <;> cases column <;> simp [members, positionMember]

theorem column_mem_members (f : Finding) :
    "column" ∈ f.members.map Prod.fst ↔ f.column.isSome := by
  rcases f with ⟨kind, severity, message, line, column⟩
  cases line <;> cases column <;> simp [members, positionMember]

theorem position?_natural {p : Option Nat} (hp : ∀ n, p = some n → n < positionLimit) :
    position? (p.map .natural) = some p := by
  cases p with
  | none => rfl
  | some n =>
      simp [position?, Value.orDefault?, Value.nullable?, Value.naturalBelow?, hp n rfl]

/-- Each field is found again, and a position that is left out is none. -/
theorem fields?_toValue (f : Finding) :
    f.toValue.fields? .exact fieldNames =
      some [some (.text f.kind.name), some (.text f.severity.name), some (.text f.message),
        f.line.map .natural, f.column.map .natural] := by
  rcases f with ⟨kind, severity, message, line, column⟩
  cases line <;> cases column <;>
    simp [toValue, positionMember, Value.fields?, fieldNames, Value.named,
      Value.atMostOne?]

theorem ofValue?_toValue {f : Finding} (hf : f.Fits) : ofValue? f.toValue = some f := by
  simp [ofValue?, fields?_toValue, FindingKind.choice?_name, Severity.choice?_name,
    Value.text?, position?_natural hf.line, position?_natural hf.column]

theorem isPlain_toValue (f : Finding) : f.toValue.isPlain = true := by
  rcases f with ⟨kind, severity, message, line, column⟩
  cases line <;> cases column <;>
    simp [toValue, positionMember, Value.isPlain, Value.membersArePlain]

/-- A line or column for which there is no member is read as none. -/
theorem position?_of_not_mem {key : String} {ms : List (String × Value)} {p : Option Value}
    {q : Option Nat} (hp : Value.atMostOne? (Value.named [key] ms) = some p)
    (hq : position? p = some q) (hkey : key ∉ ms.map Prod.fst) : q = none := by
  have hnamed : Value.named [key] ms = [] := Value.named_of_others fun m hm hmem =>
    hkey (List.mem_map.mpr ⟨m, hm, List.mem_singleton.mp hmem⟩)
  rw [hnamed, Value.atMostOne?, Option.some.injEq] at hp
  subst hp
  exact (Option.some.inj hq).symm

theorem positions_of_ofValue? {ms : List (String × Value)} {f : Finding}
    (h : ofValue? (.record ms) = some f) :
    ("line" ∉ ms.map Prod.fst → f.line = none) ∧
      ("column" ∉ ms.map Prod.fst → f.column = none) := by
  unfold ofValue? at h
  split at h
  · rename_i kind severity message line column hfields
    have hline := Value.atMostOne?_of_fields? hfields 3 rfl rfl
    have hcolumn := Value.atMostOne?_of_fields? hfields 4 rfl rfl
    simp only [Option.bind_eq_bind, Option.bind_eq_some_iff, Option.pure_def,
      Option.some.injEq] at h
    obtain ⟨_, _, _, _, _, _, q, hq, r, hr, rfl⟩ := h
    exact ⟨position?_of_not_mem hline hq, position?_of_not_mem hcolumn hr⟩
  · cases h

end Finding

/-! ### Results -/

namespace Result

theorem mapM_toValue {fs : List Finding} (hfs : ∀ f ∈ fs, f.Fits) :
    (fs.map Finding.toValue).mapM Finding.ofValue? = some fs := by
  refine Value.mapM_of_forall₂ ?_
  rw [List.forall₂_map_left_iff, List.forall₂_same]
  exact fun f hf => Finding.ofValue?_toValue (hfs f hf)

theorem ofValue?_toValue {r : Result} (hr : ∀ f ∈ r.findings, f.Fits) :
    ofValue? r.toValue = some r := by
  simp [ofValue?, toValue, Value.listOf?, Value.list?, mapM_toValue hr]

theorem isPlain_toValue (r : Result) : r.toValue.isPlain = true := by
  rw [toValue, Value.isPlain]
  induction r.findings with
  | nil => rfl
  | cons f fs ih =>
      rw [List.map_cons, Value.arePlain, Finding.isPlain_toValue, ih, Bool.and_self]

/-- In either layout a result is read back from its JSON, and what is read there is written
as the same text again. A line or column that is not known is not written, and one that is
not written is not known to whoever reads. -/
theorem ofText?_print_toValue (layout : Json.Layout) (r : Result)
    (hr : ∀ f ∈ r.findings, f.Fits) :
    let text := Json.print layout r.toValue
    (Json.ofText? text).bind ofValue? = some r ∧
    (∀ r', (Json.ofText? text).bind ofValue? = some r' →
      Json.print layout r'.toValue = text) ∧
    (∃ records, Json.ofText? text = some (.list records) ∧
      List.Forall₂ (fun record f => ∃ ms, record = .record ms ∧
        ("line" ∈ ms.map Prod.fst ↔ f.line.isSome) ∧
        ("column" ∈ ms.map Prod.fst ↔ f.column.isSome)) records r.findings) ∧
    ∀ ms f, Finding.ofValue? (.record ms) = some f →
      ("line" ∉ ms.map Prod.fst → f.line = none) ∧
      ("column" ∉ ms.map Prod.fst → f.column = none) := by
  intro text
  have htext : Json.ofText? text = some r.toValue :=
    Json.ofText?_print layout r.isPlain_toValue
  have hread : (Json.ofText? text).bind ofValue? = some r := by
    rw [htext, Option.bind_some, ofValue?_toValue hr]
  refine ⟨hread, ?_, ⟨_, htext, ?_⟩, fun ms f => Finding.positions_of_ofValue?⟩
  · intro r' hr'
    rw [hread] at hr'
    cases hr'
    rfl
  · rw [List.forall₂_map_left_iff, List.forall₂_same]
    intro f _
    exact ⟨f.members, f.toValue_eq, f.line_mem_members, f.column_mem_members⟩

/-- Messages with quotes, a backslash, control characters and characters beyond sixteen
bits, with and without a position. -/
def awkward : Result :=
  ⟨[{ kind := .syntaxError, severity := .error, message := "\"\\\" \n\t\x00\x1f\x7f/"
      line := some 1, column := some 4294967295 },
    { kind := .bestPractice, severity := .info, message := "ü\u2028\uffff😀"
      line := some 0 },
    { kind := .outputMismatch, severity := .warning, message := "", column := some 7 },
    { kind := .missingFunction, severity := .error, message := "\\u0022" }]⟩

theorem awkward_reads_back : (∀ f ∈ awkward.findings, f.Fits) ∧
    (Json.ofText? (Json.print .compact awkward.toValue)).bind ofValue? = some awkward ∧
    (Json.ofText? (Json.print (.indented 0) awkward.toValue)).bind ofValue? =
      some awkward := by
  have hfits : ∀ f ∈ awkward.findings, f.Fits := by
    simp [awkward, Finding.fits_iff, positionLimit]
  exact ⟨hfits, (ofText?_print_toValue .compact awkward hfits).1,
    (ofText?_print_toValue (.indented 0) awkward hfits).1⟩

end Result

end ScriptLint
