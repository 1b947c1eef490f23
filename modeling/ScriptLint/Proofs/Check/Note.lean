import ScriptLint.Proofs.Check.Standard

namespace ScriptLint

open ScriptLint.Script

/-! Findings that ask for a socket, told from all others by what they say. -/

namespace Finding

def isNote (kind : FindingKind) (message : String) (x : Finding) : Bool :=
  x.kind == kind && x.severity == .info && x.message == message

/-- Whether a finding notes that the entry function returns a name which is no output. -/
def isExtraNote (entryName name : String) : Finding → Bool :=
  isNote .outputMismatch
    (s!"\x60{entryName}\x60 returns \x60{name}\x60, which is not a declared output; " ++
      "the runtime ignores it")

def isMissingWarning (x : Finding) : Bool :=
  x.kind == .outputMismatch && x.severity == .warning

def isResultNote : Finding → Bool :=
  isNote .bestPractice ("\x60result\x60 is computed but never returned; " ++
    "include it in the returned object, e.g. \x60return \x7b Output: result \x7d\x60")

def isUnusedNote (name : String) (x : Finding) : Bool :=
  name == "result" && x.isResultNote

/-- Whether a finding notes that a member of the first parameter is no input. -/
def isUndeclaredNote (param name : String) : Finding → Bool :=
  isNote .bestPractice (s!"\x60{param}.{name}\x60 does not match any declared input; " ++
    "it will be undefined at runtime")

variable {kind : FindingKind} {message name : String} {x : Finding} {fs : List Finding}

theorem isNote_of_kind_ne (hx : x.kind ≠ kind) : x.isNote kind message = false := by
  simp [isNote, hx]

theorem isNote_of_severity_ne (hx : x.severity ≠ .info) :
    x.isNote kind message = false := by
  simp [isNote, hx]

theorem isNote_of_message_ne (hx : x.message ≠ message) :
    x.isNote kind message = false := by
  simp [isNote, hx]

theorem isMissingWarning_of_kind_ne (hx : x.kind ≠ .outputMismatch) :
    x.isMissingWarning = false := by
  simp [isMissingWarning, hx]

theorem isUnusedNote_of_isResultNote (name : String) (hx : x.isResultNote = false) :
    x.isUnusedNote name = false := by
  rw [isUnusedNote, hx, Bool.and_false]

theorem filter_not_eq_self {p : Finding → Bool} (h : ∀ x ∈ fs, p x = false) :
    (fs.filter fun x => !p x) = fs :=
  List.filter_eq_self.mpr fun x hx => by rw [h x hx]; rfl

theorem countP_eq_zero {p : Finding → Bool}
    (h : ∀ x ∈ fs, p x = false) : fs.countP p = 0 :=
  List.countP_eq_zero.mpr fun x hx => by rw [h x hx]; decide

theorem ne_append {s b t : String} (h : ¬ t.toList <:+ s.toList) : s ≠ b ++ t := by
  rintro rfl
  exact h ⟨b.toList, String.toList_append.symm⟩

theorem append_ne_append {a b s t : String} (hs : ¬ s.toList <:+ t.toList)
    (ht : ¬ t.toList <:+ s.toList) : a ++ s ≠ b ++ t := by
  intro h
  have hlist : a.toList ++ s.toList = b.toList ++ t.toList := by
    rw [← String.toList_append, ← String.toList_append, h]
  have hend : s.toList <:+ b.toList ++ t.toList := ⟨a.toList, hlist⟩
  -- Both ends are suffixes of one text, so the shorter would be a suffix of the longer.
  rcases List.suffix_or_suffix_of_suffix hend (List.suffix_append _ _) with h | h
  · exact hs h
  · exact ht h

end Finding

namespace Check

variable {c : Context} {f : Node} {x : Finding} {entryName name param : String}

namespace Structure

theorem isNote_of_mem {kind : FindingKind} {message : String} (hx : x ∈ findings c)
    (hmessage : ∀ text, text ++ "(inputs, properties)\x60" ≠ message) :
    x.isNote kind message = false := by
  by_cases hnote : x.severity = .info
  · obtain ⟨text, htext⟩ := message_of_note hx hnote
    refine Finding.isNote_of_message_ne ?_
    rw [htext]
    exact hmessage text
  · exact Finding.isNote_of_severity_ne hnote

theorem isResultNote_of_mem (hx : x ∈ findings c) : x.isResultNote = false :=
  isNote_of_mem hx fun _ => Finding.append_ne_append (by decide) (by decide)

theorem isUndeclaredNote_of_mem (hx : x ∈ findings c) :
    x.isUndeclaredNote param name = false :=
  isNote_of_mem hx fun _ => Finding.append_ne_append (by decide) (by decide)

end Structure

namespace Coverage

theorem isExtraNote_extraFinding (key : String × Nat) :
    (extraFinding entryName key).isExtraNote entryName name = (key.1 == name) := by
  rw [Bool.eq_iff_iff]
  simp only [Finding.isExtraNote, Finding.isNote, extraFinding, String.append_assoc,
    BEq.rfl, Bool.and_self, Bool.true_and, beq_iff_eq, String.append_right_inj,
    String.append_left_inj]
  exact Iff.rfl

theorem isExtraNote_of_mem_missing {line : Nat} {outputs : List Socket} :
    ∀ x ∈ outputs.map (missingFinding entryName line),
      x.isExtraNote entryName name = false := by
  intro x hx
  obtain ⟨o, -, rfl⟩ := List.mem_map.mp hx
  rfl

end Coverage

namespace Heuristics

theorem isUndeclaredNote_undeclaredFinding (access : String × Node) :
    (undeclaredFinding c param access).isUndeclaredNote param name =
      (access.1 == name) := by
  rw [Bool.eq_iff_iff]
  simp only [Finding.isUndeclaredNote, Finding.isNote, undeclaredFinding,
    Finding.atLocation, String.append_assoc, BEq.rfl, Bool.and_self, Bool.true_and,
    beq_iff_eq, String.append_right_inj, String.append_left_inj]
  exact Iff.rfl

theorem isNote_of_mem_ambientOutputs {kind : FindingKind} {message : String}
    (hx : x ∈ ambientOutputs c) : x.isNote kind message = false := by
  refine Finding.isNote_of_severity_ne ?_
  rw [(mem_ambientOutputs hx).2]
  decide

theorem isResultNote_of_mem_unusedResult (hx : x ∈ unusedResult c f) :
    x.isResultNote = true := by
  obtain ⟨hkind, hseverity, hmessage⟩ := mem_unusedResult hx
  simp [Finding.isResultNote, Finding.isNote, hkind, hseverity, hmessage]

theorem isResultNote_of_mem_stringTypes (hx : x ∈ stringTypes c) :
    x.isResultNote = false := by
  refine Finding.isNote_of_message_ne ?_
  rw [(mem_stringTypes hx).2.2]
  decide

theorem isResultNote_of_mem_undeclaredInputs (hx : x ∈ undeclaredInputs c f) :
    x.isResultNote = false := by
  obtain ⟨-, -, text, hmessage⟩ := mem_undeclaredInputs hx
  refine Finding.isNote_of_message_ne ?_
  rw [hmessage]
  exact Finding.append_ne_append (by decide) (by decide)

theorem isUndeclaredNote_of_mem_unusedResult (hx : x ∈ unusedResult c f) :
    x.isUndeclaredNote param name = false := by
  refine Finding.isNote_of_message_ne ?_
  rw [(mem_unusedResult hx).2.2]
  exact Finding.ne_append (by decide)

theorem isUndeclaredNote_of_mem_stringTypes (hx : x ∈ stringTypes c) :
    x.isUndeclaredNote param name = false := by
  refine Finding.isNote_of_message_ne ?_
  rw [(mem_stringTypes hx).2.2]
  exact Finding.ne_append (by decide)

theorem countP_isResultNote_le (c : Context) :
    (findings c).countP Finding.isResultNote ≤ 1 := by
  have hambient : ∀ x ∈ ambientOutputs c, x.isResultNote = false :=
    fun x hx => isNote_of_mem_ambientOutputs hx
  have hstring : ∀ x ∈ stringTypes c, x.isResultNote = false :=
    fun x hx => isResultNote_of_mem_stringTypes hx
  rw [findings_eq, List.countP_append, List.countP_append, List.countP_append,
    Finding.countP_eq_zero hambient, Finding.countP_eq_zero hstring]
  cases hf : c.function? with
  | none => exact Nat.zero_le 1
  | some f =>
      have hinputs : ∀ x ∈ undeclaredInputs c f, x.isResultNote = false :=
        fun x hx => isResultNote_of_mem_undeclaredInputs hx
      have hresult : (unusedResult c f).countP Finding.isResultNote ≤ 1 :=
        Nat.le_trans List.countP_le_length (length_unusedResult_le c f)
      simp only [Option.map_some, Option.getD_some, Finding.countP_eq_zero hinputs]
      omega

end Heuristics

end Check

end ScriptLint
