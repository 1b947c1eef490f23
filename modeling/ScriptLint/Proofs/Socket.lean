import ScriptLint.Proofs.Text.Blank
import ScriptLint.Proofs.Text.Case
import ScriptLint.Socket

namespace ScriptLint

open ScriptLint.Text

/-! What texts name sockets and data types, and what is wrong with those that name none. -/

/-! ### Data types -/

namespace DataType

variable {s : List Char} {t : DataType}

/-- Whether a text is the name of a type, but for its letter case and the blanks around
it. -/
def Named (t : DataType) (s : List Char) : Prop :=
  (trim s).flatMap lowercase = t.name.toList

theorem named_iff : t.Named s ↔ String.ofList ((trim s).flatMap lowercase) = t.name := by
  rw [Named, ← String.toList_inj, String.toList_ofList]

theorem ofText_name (h : String.ofList ((trim s).flatMap lowercase) = t.name) :
    ofText s = .ok t := by
  cases t <;> rw [ofText, h] <;> rfl

theorem Named.ofText_eq (h : t.Named s) : ofText s = .ok t := ofText_name (named_iff.mp h)

/-- What is wrong with a text that names no type: the type of texts has another name, and
all else is the name of none. -/
theorem ofText_of_not_named (h : ∀ t : DataType, ¬ t.Named s) :
    ofText s = .error (if (trim s).flatMap lowercase = "string".toList
      then .stringType (String.ofList s) else .unknownType (String.ofList s)) := by
  have hname : ∀ t : DataType, String.ofList ((trim s).flatMap lowercase) ≠ t.name :=
    fun t ht => h t (named_iff.mpr ht)
  rw [ofText]
  split
  · next hs => exact absurd hs (hname text)
  · next hs => exact absurd hs (hname number)
  · next hs => exact absurd hs (hname boolean)
  · next hs => exact absurd hs (hname json)
  · next hs => exact absurd hs (hname array)
  · next hs => exact absurd hs (hname any)
  · next hs => rw [if_pos (by rw [← hs, String.toList_ofList])]
  · next hs => rw [if_neg fun heq => hs (by rw [heq, String.ofList_toList])]

theorem not_named_string (h : (trim s).flatMap lowercase = "string".toList)
    (t : DataType) :
    ¬ t.Named s := by
  intro ht
  have hname := String.toList_injective (ht.symm.trans h)
  cases t <;> exact absurd hname (by decide)

theorem not_isBlank_of_mem_name {c : Char} (hc : c ∈ t.name.toList) :
    isBlank c = false := by
  have hall : (t.name.toList.all fun c => !isBlank c) = true := by
    cases t <;> decide +kernel
  simpa using List.all_eq_true.mp hall c hc

/-- A text that is the name of a type but for its letter case has no blanks. -/
theorem isTrimmed_of_flatMap_lowercase (h : s.flatMap lowercase = t.name.toList) :
    IsTrimmed s := by
  apply isTrimmed_of_forall
  intro c hc
  by_contra hblank
  rw [Bool.not_eq_false] at hblank
  have hmem : c ∈ t.name.toList := by
    rw [← h, List.mem_flatMap]
    exact ⟨c, hc, by rw [lowercase_of_isBlank hblank]; exact List.mem_singleton_self c⟩
  rw [not_isBlank_of_mem_name hmem] at hblank
  cases hblank

theorem named_of_padded {cased : List Char} (h : cased.flatMap lowercase = t.name.toList)
    (hs : Padded cased s) : t.Named s := by
  rw [Named, (isTrimmed_of_flatMap_lowercase h).trim_of_padded hs, h]

end DataType

/-! ### Sockets -/

namespace Socket

variable {s name type cased : List Char} {t : DataType} {o : Socket} {e : SocketError}

theorem splitColon_of_not_mem (h : ':' ∉ s) : splitColon s = (s, none) := by
  induction s with
  | nil => rfl
  | cons c s ih =>
      obtain ⟨hc, hs⟩ := List.ne_and_not_mem_of_not_mem_cons h
      rw [splitColon, if_neg (Ne.symm hc), ih hs]

theorem splitColon_append (h : ':' ∉ name) :
    splitColon (name ++ ':' :: type) = (name, some type) := by
  induction name with
  | nil => rfl
  | cons c name ih =>
      obtain ⟨hc, hname⟩ := List.ne_and_not_mem_of_not_mem_cons h
      rw [List.cons_append, splitColon, if_neg (Ne.symm hc), ih hname]

theorem colon_cases (s : List Char) :
    ':' ∉ s ∨ ∃ name type, s = name ++ ':' :: type ∧ ':' ∉ name := by
  by_cases h : ':' ∈ s
  · exact .inr (List.eq_append_cons_of_mem h)
  · exact .inl h

/-- What a name and a type make: a socket, unless the name is blank. -/
def ofParts (name : List Char) (t : DataType) : Except SocketError Socket :=
  if trim name = [] then .error .emptyName else .ok ⟨String.ofList (trim name), t⟩

theorem ofText_of_not_mem (h : ':' ∉ s) : ofText s = ofParts s .any := by
  rw [ofText, splitColon_of_not_mem h, ofParts]
  dsimp only
  by_cases hempty : trim s = []
  · rw [if_pos hempty, hempty]
    rfl
  · rw [if_neg hempty]
    simp only [List.isEmpty_iff, hempty]
    rfl

theorem ofText_append (h : ':' ∉ name) :
    ofText (name ++ ':' :: type) = (DataType.ofText type).bind (ofParts name) := by
  rw [ofText, splitColon_append h]
  dsimp only
  cases DataType.ofText type with
  | error e => rfl
  | ok t =>
      rw [Except.bind, ofParts]
      by_cases hempty : trim name = []
      · rw [if_pos hempty, hempty]
        rfl
      · rw [if_neg hempty]
        simp only [List.isEmpty_iff, hempty]
        rfl

theorem ofParts_eq_ok_iff :
    ofParts name t = .ok o ↔ trim name = o.name.toList ∧ o.name ≠ "" ∧ o.dataType = t := by
  rw [ofParts]
  by_cases hempty : trim name = []
  · rw [if_pos hempty, hempty]
    constructor
    · intro h
      cases h
    · intro h
      obtain ⟨hname, hne, -⟩ := h
      exact absurd (String.toList_eq_nil_iff.mp hname.symm) hne
  · rw [if_neg hempty, Except.ok.injEq]
    constructor
    · intro h
      subst h
      refine ⟨String.toList_ofList.symm, ?_, rfl⟩
      simpa using hempty
    · intro h
      obtain ⟨hname, -, htype⟩ := h
      rw [hname, String.ofList_toList, ← htype]

theorem ofParts_eq_error_iff :
    ofParts name t = .error e ↔ AllBlank name ∧ e = .emptyName := by
  rw [ofParts, ← trim_eq_nil_iff]
  split
  · next hempty => simp [hempty, eq_comm]
  · next hempty => simp [hempty]

/-! ### What is read -/

/-- A text is a name, or a name and a type behind the first colon, with blanks around
them. -/
inductive Spelled (o : Socket) : List Char → Prop
  | untyped {s : List Char} (hcolon : ':' ∉ s) (hname : trim s = o.name.toList)
      (hne : o.name ≠ "") (hany : o.dataType = .any) : Spelled o s
  | typed {name type : List Char} (hcolon : ':' ∉ name) (hname : trim name = o.name.toList)
      (hne : o.name ≠ "") (htype : o.dataType.Named type) : Spelled o (name ++ ':' :: type)

/-- What is wrong with a text. What is wrong with the type comes before what is wrong with
the name, and is told with all that lies behind the first colon. -/
inductive Misspelled : List Char → SocketError → Prop
  | stringType {name type : List Char} (hcolon : ':' ∉ name)
      (hstring : (trim type).flatMap lowercase = "string".toList) :
      Misspelled (name ++ ':' :: type) (.stringType (String.ofList type))
  | unknownType {name type : List Char} (hcolon : ':' ∉ name)
      (hstring : (trim type).flatMap lowercase ≠ "string".toList)
      (hnone : ∀ t : DataType, ¬ t.Named type) :
      Misspelled (name ++ ':' :: type) (.unknownType (String.ofList type))
  | emptyName {name type : List Char} {t : DataType} (hcolon : ':' ∉ name)
      (hblank : AllBlank name) (htype : t.Named type) :
      Misspelled (name ++ ':' :: type) .emptyName
  | emptyText {s : List Char} (hcolon : ':' ∉ s) (hblank : AllBlank s) :
      Misspelled s .emptyName

/-- Whether the name of a socket can be told from what stands around it. -/
structure IsPlain (o : Socket) : Prop where
  nonempty : o.name ≠ ""
  trimmed : IsTrimmed o.name.toList
  colon : ':' ∉ o.name.toList

theorem Spelled.ofText_eq (h : o.Spelled s) : ofText s = .ok o := by
  cases h with
  | untyped hcolon hname hne hany =>
      rw [ofText_of_not_mem hcolon, ofParts_eq_ok_iff]
      exact ⟨hname, hne, hany⟩
  | typed hcolon hname hne htype =>
      rw [ofText_append hcolon, htype.ofText_eq]
      exact ofParts_eq_ok_iff.mpr ⟨hname, hne, rfl⟩

theorem Misspelled.ofText_eq (h : Misspelled s e) : ofText s = .error e := by
  cases h with
  | stringType hcolon hstring =>
      rw [ofText_append hcolon,
        DataType.ofText_of_not_named (DataType.not_named_string hstring), if_pos hstring]
      rfl
  | unknownType hcolon hstring hnone =>
      rw [ofText_append hcolon, DataType.ofText_of_not_named hnone, if_neg hstring]
      rfl
  | emptyName hcolon hblank htype =>
      rw [ofText_append hcolon, htype.ofText_eq]
      exact ofParts_eq_error_iff.mpr ⟨hblank, rfl⟩
  | emptyText hcolon hblank =>
      rw [ofText_of_not_mem hcolon, ofParts_eq_error_iff]
      exact ⟨hblank, rfl⟩

/-- Every text names a socket or has something wrong with it. -/
theorem spelled_or_misspelled (s : List Char) :
    (∃ o : Socket, o.Spelled s) ∨ ∃ e, Misspelled s e := by
  obtain hcolon | ⟨name, type, rfl, hcolon⟩ := colon_cases s
  · by_cases hblank : trim s = []
    · exact .inr ⟨_, .emptyText hcolon (trim_eq_nil_iff.mp hblank)⟩
    · refine .inl ⟨⟨String.ofList (trim s), .any⟩, .untyped hcolon ?_ ?_ rfl⟩
      · rw [String.toList_ofList]
      · simpa using hblank
  · by_cases htype : ∃ t : DataType, t.Named type
    · obtain ⟨t, ht⟩ := htype
      by_cases hblank : trim name = []
      · exact .inr ⟨_, .emptyName hcolon (trim_eq_nil_iff.mp hblank) ht⟩
      · refine .inl ⟨⟨String.ofList (trim name), t⟩, .typed hcolon ?_ ?_ ht⟩
        · rw [String.toList_ofList]
        · simpa using hblank
    · by_cases hstring : (trim type).flatMap lowercase = "string".toList
      · exact .inr ⟨_, .stringType hcolon hstring⟩
      · exact .inr ⟨_, .unknownType hcolon hstring (not_exists.mp htype)⟩

theorem ofText_eq_ok_iff_spelled : ofText s = .ok o ↔ o.Spelled s := by
  constructor
  · intro h
    obtain ⟨o', ho'⟩ | ⟨e, he⟩ := spelled_or_misspelled s
    · rw [ho'.ofText_eq, Except.ok.injEq] at h
      exact h ▸ ho'
    · rw [he.ofText_eq] at h
      cases h
  · exact Spelled.ofText_eq

theorem ofText_eq_error_iff_misspelled : ofText s = .error e ↔ Misspelled s e := by
  constructor
  · intro h
    obtain ⟨o, ho⟩ | ⟨e', he'⟩ := spelled_or_misspelled s
    · rw [ho.ofText_eq] at h
      cases h
    · rw [he'.ofText_eq, Except.error.injEq] at h
      exact h ▸ he'
  · exact Misspelled.ofText_eq

theorem IsPlain.of_trim (hcolon : ':' ∉ name) (hname : trim name = o.name.toList)
    (hne : o.name ≠ "") : o.IsPlain where
  nonempty := hne
  trimmed := hname ▸ isTrimmed_trim name
  colon := by
    intro hmem
    rw [← hname] at hmem
    exact hcolon ((padded_trim name).mem hmem)

theorem Spelled.isPlain (h : o.Spelled s) : o.IsPlain := by
  cases h with
  | untyped hcolon hname hne hany => exact .of_trim hcolon hname hne
  | typed hcolon hname hne htype => exact .of_trim hcolon hname hne

theorem IsPlain.spelled (h : o.IsPlain) (hname : Padded o.name.toList name)
    (hcased : cased.flatMap lowercase = o.dataType.name.toList)
    (htype : Padded cased type) : o.Spelled (name ++ ':' :: type) :=
  .typed (hname.not_mem (by decide) h.colon) (h.trimmed.trim_of_padded hname) h.nonempty
    (DataType.named_of_padded hcased htype)

theorem exists_hint (hcolon : ':' ∉ name) (hnone : ∀ t : DataType, ¬ t.Named type) :
    ∃ e hint, ofText (name ++ ':' :: type) = .error e ∧
      e.message = "Unknown data type '" ++ String.ofList type ++ hint := by
  by_cases hstring : (trim type).flatMap lowercase = "string".toList
  · exact ⟨_, _, (Misspelled.stringType hcolon hstring).ofText_eq, rfl⟩
  · exact ⟨_, _, (Misspelled.unknownType hcolon hstring hnone).ofText_eq, rfl⟩

/-- A text gives the socket that it spells, and if it spells none then what is wrong with
it, with all that lies behind the first colon where the type is wrong, whatever the name.
So a socket whose name can be told from what is around it is read from its name and its
type, with any blanks around them and the type in any letter case, and only such sockets
are read. -/
theorem ofText_as_spelled :
    (∀ s o, ofText s = .ok o ↔ o.Spelled s) ∧
    (∀ s e, ofText s = .error e ↔ Misspelled s e) ∧
    (∀ name type, ':' ∉ name → (∀ t : DataType, ¬ t.Named type) →
      ∃ e hint, ofText (name ++ ':' :: type) = .error e ∧
        e.message = "Unknown data type '" ++ String.ofList type ++ hint) ∧
    (∀ o : Socket, o.IsPlain → ∀ name type cased, Padded o.name.toList name →
      Padded cased type →
      cased.flatMap lowercase = o.dataType.name.toList →
        ofText (name ++ ':' :: type) = .ok o) ∧
    ∀ s o, ofText s = .ok o → o.IsPlain := by
  refine ⟨fun s o => ofText_eq_ok_iff_spelled, fun s e => ofText_eq_error_iff_misspelled,
    fun name type hcolon hnone => exists_hint hcolon hnone, ?_, ?_⟩
  · intro o ho name type cased hname htype hcased
    exact (ho.spelled hname hcased htype).ofText_eq
  · intro s o h
    exact (ofText_eq_ok_iff_spelled.mp h).isPlain

theorem ofText_as_spelled_spaced :
    let o : Socket := ⟨"a b", .boolean⟩
    o.IsPlain ∧ Padded o.name.toList "\u3000a b\t".toList ∧
      Padded "BOOLean".toList " BOOLean\u00a0\n".toList ∧
      "BOOLean".toList.flatMap lowercase = o.dataType.name.toList ∧
      ofText ("\u3000a b\t".toList ++ ':' :: " BOOLean\u00a0\n".toList) = .ok o := by
  intro o
  have hplain : o.IsPlain :=
    { nonempty := by decide
      trimmed := .of_trim_eq (by decide +kernel)
      colon := by decide +kernel }
  have hname : Padded o.name.toList "\u3000a b\t".toList :=
    ⟨['\u3000'], ['\t'], by decide +kernel, allBlank_of_all rfl, allBlank_of_all rfl⟩
  have htype : Padded "BOOLean".toList " BOOLean\u00a0\n".toList :=
    ⟨[' '], ['\u00a0', '\n'], by decide +kernel, allBlank_of_all rfl, allBlank_of_all rfl⟩
  have hcased : "BOOLean".toList.flatMap lowercase = o.dataType.name.toList := by
    decide +kernel
  exact ⟨hplain, hname, htype, hcased,
    ofText_as_spelled.2.2.2.1 o hplain _ _ _ hname htype hcased⟩

end Socket

end ScriptLint
