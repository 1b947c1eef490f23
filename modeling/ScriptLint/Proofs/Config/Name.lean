import Mathlib.Data.List.Infix
import ScriptLint.Config.Name
import ScriptLint.Proofs.Text.Case

namespace ScriptLint.Config

open ScriptLint.Text

/-! Names of checks: the spellings that are brought to one form, and that this form
stays. -/

/-! ### Endings -/

variable {front ending cs rest rest' : List Char}

/-- What is left of a text when an ending is taken away as often as it stands there. -/
def Stripped (ending cs rest : List Char) : Prop :=
  ∃ n, cs = rest ++ (List.replicate n ending).flatten ∧ ¬ ending <:+ rest

theorem isPrefixOf?_eq_some_iff :
    front.isPrefixOf? cs = some rest ↔ cs = front ++ rest := by
  induction front generalizing cs with
  | nil => simp [List.isPrefixOf?, eq_comm]
  | cons c front ih =>
      cases cs with
      | nil => simp [List.isPrefixOf?]
      | cons d cs =>
          rw [List.isPrefixOf?, List.cons_append, List.cons.injEq]
          by_cases hcd : c = d
          · simp [hcd, ih]
          · simp [hcd, Ne.symm hcd]

theorem exists_dropRepeated (hfront : front ≠ []) {fuel : Nat} (hfuel : cs.length ≤ fuel) :
    ∃ n, cs = (List.replicate n front).flatten ++ dropRepeated front fuel cs ∧
      ¬ front <+: dropRepeated front fuel cs := by
  induction fuel generalizing cs with
  | zero =>
      obtain rfl := List.length_eq_zero_iff.mp (Nat.le_zero.mp hfuel)
      exact ⟨0, rfl, fun h => hfront (List.prefix_nil.mp h)⟩
  | succ fuel ih =>
      rw [dropRepeated]
      split
      · next rest hrest =>
          obtain rfl := isPrefixOf?_eq_some_iff.mp hrest
          have hpos := List.length_pos_iff.mpr hfront
          rw [List.length_append] at hfuel
          have hlength : rest.length ≤ fuel := by omega
          obtain ⟨n, hsplit, hnot⟩ := ih hlength
          refine ⟨n + 1, ?_, hnot⟩
          rw [List.replicate_succ, List.flatten_cons, List.append_assoc, ← hsplit]
      · next hnone =>
          refine ⟨0, rfl, ?_⟩
          intro hprefix
          obtain ⟨rest, rfl⟩ := hprefix
          rw [isPrefixOf?_eq_some_iff.mpr rfl] at hnone
          cases hnone

theorem stripped_dropEnd (hending : ending ≠ []) (cs : List Char) :
    Stripped ending cs (dropEnd ending cs) := by
  have hreverse : ending.reverse ≠ [] := List.reverse_ne_nil_iff.mpr hending
  have hlength : cs.reverse.length ≤ cs.length := Nat.le_of_eq List.length_reverse
  obtain ⟨n, hsplit, hnot⟩ := exists_dropRepeated hreverse hlength
  refine ⟨n, ?_, ?_⟩
  · have hcs := congrArg List.reverse hsplit
    rwa [List.reverse_reverse, List.reverse_append, List.reverse_flatten,
      List.map_replicate, List.reverse_replicate, List.reverse_reverse] at hcs
  · rwa [dropEnd, ← List.reverse_prefix, List.reverse_reverse]

theorem append_flatten_replicate_succ (rest ending : List Char) (n : Nat) :
    rest ++ (List.replicate (n + 1) ending).flatten =
      rest ++ (List.replicate n ending).flatten ++ ending := by
  rw [List.replicate_succ', List.flatten_concat, List.append_assoc]

theorem Stripped.unique (h : Stripped ending cs rest) (h' : Stripped ending cs rest') :
    rest = rest' := by
  obtain ⟨n, hsplit, hnot⟩ := h
  obtain ⟨n', hsplit', hnot'⟩ := h'
  subst hsplit
  induction n generalizing n' with
  | zero =>
      cases n' with
      | zero => simpa using hsplit'
      | succ n' =>
          rw [append_flatten_replicate_succ] at hsplit'
          exact absurd ⟨_, hsplit'.symm.trans (List.append_nil rest)⟩ hnot
  | succ n ih =>
      cases n' with
      | zero =>
          rw [append_flatten_replicate_succ] at hsplit'
          exact absurd ⟨_, hsplit'.trans (List.append_nil rest')⟩ hnot'
      | succ n' =>
          rw [append_flatten_replicate_succ, append_flatten_replicate_succ,
            List.append_left_inj] at hsplit'
          exact ih n' hsplit'

theorem Stripped.append (h : Stripped ending cs rest) :
    Stripped ending (cs ++ ending) rest := by
  obtain ⟨n, rfl, hnot⟩ := h
  refine ⟨n + 1, ?_, hnot⟩
  rw [append_flatten_replicate_succ]

theorem Stripped.self (h : Stripped ending cs rest) : Stripped ending rest rest := by
  obtain ⟨n, -, hnot⟩ := h
  exact ⟨0, (List.append_nil rest).symm, hnot⟩

theorem Stripped.mem {c : Char} (h : Stripped ending cs rest)
    (hc : c ∈ rest) : c ∈ cs := by
  obtain ⟨n, rfl, -⟩ := h
  exact List.mem_append_left _ hc

/-! ### Characters in front of a name -/

variable {before : Option Char} {c : Char} {w : List Char} {words : List (List Char)}

theorem hyphenate_small (hc : c.isLower = true) :
    hyphenate before (c :: cs) = c :: hyphenate (some c) cs := by
  have hsmall := (isLetterPair_toUpper hc).isSmall.2
  rw [hyphenate, hsmall, if_neg Bool.false_ne_true, if_neg (ne_underscore_of_isLower hc)]
  rfl

theorem hyphenate_capital (hc : c.isLower = true) :
    hyphenate before (c.toUpper :: cs) =
      (if beginsWord before cs.head? then ['-'] else []) ++ c ::
        hyphenate (some c.toUpper) cs := by
  have hpair := isLetterPair_toUpper hc
  rw [hyphenate, if_pos hpair.isCapital.1, hpair.lowered, List.append_assoc]
  rfl

theorem hyphenate_hyphen : hyphenate before ('-' :: cs) = '-' :: hyphenate (some '-') cs :=
  rfl

theorem hyphenate_underscore :
    hyphenate before ('_' :: cs) = '-' :: hyphenate (some '_') cs := rfl

theorem beginsWord_of_small (hc : c.isLower = true) (after : Option Char) :
    beginsWord (some c) after = true := by
  rw [beginsWord, Option.any_some, (isLetterPair_toUpper hc).isSmall.1, Bool.true_or]

theorem hyphenate_smalls (hw : ∀ c ∈ w, c.isLower = true) :
    hyphenate before (w ++ cs) = w ++ hyphenate (w.getLast?.or before) cs := by
  induction w generalizing before with
  | nil => rfl
  | cons c w ih =>
      obtain ⟨hc, hw⟩ := List.forall_mem_cons.mp hw
      rw [List.cons_append, hyphenate_small hc, ih hw, List.getLast?_cons]
      cases w.getLast? <;> rfl

/-! ### Words -/

structure IsWord (w : List Char) : Prop where
  length : 2 ≤ w.length
  small : ∀ c ∈ w, c.isLower = true

def capitalize : List Char → List Char
  | [] => []
  | c :: cs => c.toUpper :: cs

def hyphened (words : List (List Char)) : List Char := words.flatMap ('-' :: ·)

theorem intercalate_eq (c : Char) (w : List Char) (words : List (List Char)) :
    [c].intercalate (w :: words) = w ++ words.flatMap (c :: ·) := by
  induction words generalizing w with
  | nil => simp
  | cons v words ih => simp [ih v]

theorem hyphenate_separated {separator : Char}
    (hseparator : ∀ before cs, hyphenate before (separator :: cs) =
      '-' :: hyphenate (some separator) cs)
    (hwords : ∀ w ∈ words, IsWord w) :
    hyphenate before (words.flatMap (separator :: ·)) = hyphened words := by
  induction words generalizing before with
  | nil => rfl
  | cons w words ih =>
      obtain ⟨hw, hwords⟩ := List.forall_mem_cons.mp hwords
      rw [hyphened, List.flatMap_cons, List.flatMap_cons, List.cons_append, hseparator,
        hyphenate_smalls hw.small, ih hwords, hyphened, List.cons_append]

theorem hyphenate_capitals (hw : ∀ c ∈ w, c.isLower = true)
    (hbefore : before.any isLowercase = false) (hcs : cs.head?.any isLowercase = false) :
    ∃ before', hyphenate before (w.map Char.toUpper ++ cs) =
      w ++ hyphenate before' cs := by
  induction w generalizing before with
  | nil => exact ⟨before, rfl⟩
  | cons c w ih =>
      obtain ⟨hc, hw⟩ := List.forall_mem_cons.mp hw
      have hnext : (w.map Char.toUpper ++ cs).head?.any isLowercase = false := by
        cases w with
        | nil => exact hcs
        | cons d w => exact (isLetterPair_toUpper (hw d List.mem_cons_self)).isCapital.2
      have hcapital : (some c.toUpper).any isLowercase = false :=
        (isLetterPair_toUpper hc).isCapital.2
      obtain ⟨before', hrest⟩ := ih hw hcapital
      refine ⟨before', ?_⟩
      rw [List.map_cons, List.cons_append, hyphenate_capital hc, hrest, beginsWord,
        hbefore, hnext, Bool.and_false, Bool.or_false]
      rfl

def shouted (words : List (List Char)) : List Char :=
  words.flatMap fun w => '_' :: w.map Char.toUpper

theorem isLowercase_underscore : isLowercase '_' = false := by decide +kernel

theorem any_head?_shouted (words : List (List Char)) :
    (shouted words).head?.any isLowercase = false := by
  cases words with
  | nil => rfl
  | cons w words => exact isLowercase_underscore

theorem hyphenate_shouted (hwords : ∀ w ∈ words, IsWord w) :
    hyphenate before (shouted words) = hyphened words := by
  induction words generalizing before with
  | nil => rfl
  | cons w words ih =>
      obtain ⟨hw, hwords⟩ := List.forall_mem_cons.mp hwords
      have hunderscore : (some '_').any isLowercase = false := isLowercase_underscore
      obtain ⟨before', hrest⟩ :=
        hyphenate_capitals hw.small hunderscore (any_head?_shouted words)
      rw [shouted, hyphened, List.flatMap_cons, List.flatMap_cons, List.cons_append,
        ← shouted, hyphenate_underscore, hrest, ih hwords, hyphened, List.cons_append]

theorem IsWord.getLast? (hw : IsWord w) : ∃ c, c.isLower = true ∧ w.getLast? = some c := by
  have hne : w ≠ [] := List.ne_nil_of_length_pos (Nat.lt_of_lt_of_le (by decide) hw.length)
  exact ⟨w.getLast hne, hw.small _ (List.getLast_mem hne),
    List.getLast?_eq_some_getLast hne⟩

theorem hyphenate_capitalize (hw : IsWord w) :
    hyphenate before (capitalize w ++ cs) =
      (if beginsWord before w.tail.head? then ['-'] else []) ++ w ++
        hyphenate w.getLast? cs := by
  obtain ⟨hlength, hsmall⟩ := hw
  match w with
  | [] | [_] => simp at hlength
  | c :: d :: w =>
      obtain ⟨hc, hsmall⟩ := List.forall_mem_cons.mp hsmall
      rw [capitalize, List.cons_append, hyphenate_capital hc, hyphenate_smalls hsmall,
        List.getLast?_cons_cons, List.getLast?_cons, Option.or_some, List.append_assoc]
      rfl

theorem hyphenate_humped (hc : c.isLower = true) (hwords : ∀ w ∈ words, IsWord w) :
    hyphenate (some c) (words.flatMap capitalize) = hyphened words := by
  induction words generalizing c with
  | nil => rfl
  | cons w words ih =>
      obtain ⟨hw, hwords⟩ := List.forall_mem_cons.mp hwords
      obtain ⟨d, hd, hlast⟩ := hw.getLast?
      rw [hyphened, List.flatMap_cons, List.flatMap_cons, hyphenate_capitalize hw,
        beginsWord_of_small hc, if_pos rfl, hlast, ih hd hwords, hyphened]
      rfl

/-! ### Spellings -/

def detectorWord : List Char := ['d', 'e', 't', 'e', 'c', 't', 'o', 'r']

theorem isWord_detectorWord : IsWord detectorWord where
  length := by decide
  small := List.all_eq_true.mp rfl

theorem forall_isWord_concat (hwords : ∀ w ∈ words, IsWord w) :
    ∀ w ∈ words ++ [detectorWord], IsWord w :=
  List.forall_mem_append.mpr ⟨hwords, List.forall_mem_singleton.mpr isWord_detectorWord⟩

theorem hyphened_concat (words : List (List Char)) :
    hyphened (words ++ [detectorWord]) = hyphened words ++ nameEnding := by
  rw [hyphened, List.flatMap_append, ← hyphened]
  rfl

theorem hyphenate_snake (hw : IsWord w) (hwords : ∀ w ∈ words, IsWord w) :
    hyphenate none (w ++ words.flatMap ('_' :: ·)) = w ++ hyphened words := by
  rw [hyphenate_smalls hw.small,
    hyphenate_separated (fun _ _ => hyphenate_underscore) hwords]

theorem hyphenate_camel (hw : IsWord w) (hwords : ∀ w ∈ words, IsWord w) :
    hyphenate none (capitalize w ++ words.flatMap capitalize) = w ++ hyphened words := by
  obtain ⟨c, hc, hlast⟩ := hw.getLast?
  rw [hyphenate_capitalize hw, hlast, hyphenate_humped hc hwords]
  rfl

/-- How the words of a name may be written. -/
inductive Spelling (words : List (List Char)) : List Char → Prop
  | kebab : Spelling words (['-'].intercalate words)
  | snake : Spelling words (['_'].intercalate words)
  | screaming : Spelling words (['_'].intercalate (words.map (·.map Char.toUpper)))
  | camel : Spelling words (words.flatMap capitalize)
  | camelEnding : Spelling words (words.flatMap capitalize ++ "Detector".toList)
  | snakeEnding : Spelling words (['_'].intercalate words ++ "_detector".toList)

theorem Spelling.hyphenate_eq (h : Spelling words cs) (hne : words ≠ [])
    (hwords : ∀ w ∈ words, IsWord w) :
    hyphenate none cs = ['-'].intercalate words ∨
      hyphenate none cs = ['-'].intercalate words ++ nameEnding := by
  obtain ⟨w, words, rfl⟩ := List.exists_cons_of_ne_nil hne
  obtain ⟨hw, hwords⟩ := List.forall_mem_cons.mp hwords
  have hlonger := forall_isWord_concat hwords
  rw [intercalate_eq '-' w words, ← hyphened, List.append_assoc, ← hyphened_concat]
  cases h with
  | kebab =>
      rw [intercalate_eq, hyphenate_smalls hw.small,
        hyphenate_separated (fun _ _ => hyphenate_hyphen) hwords]
      exact .inl rfl
  | snake =>
      rw [intercalate_eq]
      exact .inl (hyphenate_snake hw hwords)
  | screaming =>
      have hnone : (none : Option Char).any isLowercase = false := rfl
      obtain ⟨before', hrest⟩ :=
        hyphenate_capitals hw.small hnone (any_head?_shouted words)
      rw [List.map_cons, intercalate_eq, List.flatMap_map, ← shouted, hrest,
        hyphenate_shouted hwords]
      exact .inl rfl
  | camel => exact .inl (hyphenate_camel hw hwords)
  | camelEnding =>
      have hending : "Detector".toList = [detectorWord].flatMap capitalize := by
        decide +kernel
      rw [hending, List.flatMap_cons, List.append_assoc, ← List.flatMap_append]
      exact .inr (hyphenate_camel hw hlonger)
  | snakeEnding =>
      have hending : "_detector".toList = [detectorWord].flatMap ('_' :: ·) := by
        decide +kernel
      rw [hending, intercalate_eq, List.append_assoc, ← List.flatMap_append]
      exact .inr (hyphenate_snake hw hlonger)

theorem toList_normalize (name : String) :
    (normalize name).toList = dropEnd nameEnding (hyphenate none name.toList) :=
  String.toList_ofList

theorem stripped_normalize (name : String) :
    Stripped nameEnding (hyphenate none name.toList) (normalize name).toList := by
  rw [toList_normalize]
  exact stripped_dropEnd (by decide) _

theorem Spelling.stripped (h : Spelling words cs) (hne : words ≠ [])
    (hwords : ∀ w ∈ words, IsWord w) :
    Stripped nameEnding (['-'].intercalate words)
      (normalize (String.ofList cs)).toList := by
  have hnormal := stripped_normalize (String.ofList cs)
  rw [String.toList_ofList] at hnormal
  obtain heq | heq := h.hyphenate_eq hne hwords
  · rwa [heq] at hnormal
  · have hkebab := stripped_dropEnd (by decide : nameEnding ≠ []) (['-'].intercalate words)
    rw [heq] at hnormal
    rwa [hnormal.unique hkebab.append]

/-! ### Normal names -/

def Normal (cs : List Char) : Prop := ∀ c ∈ cs, isUppercase c = false ∧ c ≠ '_'

theorem Normal.hyphenate_eq (h : Normal cs) : hyphenate before cs = cs := by
  induction cs generalizing before with
  | nil => rfl
  | cons c cs ih =>
      obtain ⟨⟨hupper, hunderscore⟩, hcs⟩ := List.forall_mem_cons.mp h
      rw [hyphenate, hupper, if_neg Bool.false_ne_true, if_neg hunderscore, ih hcs]
      rfl

/-- Whether the capitals of a name have a lower case without capitals. -/
def Lowerable (cs : List Char) : Prop :=
  ∀ c ∈ cs, isUppercase c = true → ∀ d ∈ lowercase c, isUppercase d = false

theorem isUppercase_underscore : isUppercase '_' = false := by decide +kernel

theorem normal_hyphenate (h : Lowerable cs) : Normal (hyphenate before cs) := by
  induction cs generalizing before with
  | nil => exact List.forall_mem_nil _
  | cons c cs ih =>
      obtain ⟨hc, hcs⟩ := List.forall_mem_cons.mp h
      have hhyphen : Normal ['-'] := List.forall_mem_singleton.mpr (by decide +kernel)
      rw [hyphenate]
      refine List.forall_mem_append.mpr ⟨?_, ih hcs⟩
      by_cases hupper : isUppercase c = true
      · rw [if_pos hupper]
        refine List.forall_mem_append.mpr ⟨?_, ?_⟩
        · split
          · exact hhyphen
          · exact List.forall_mem_nil _
        · intro d hd
          refine ⟨hc hupper d hd, ?_⟩
          intro hunderscore
          subst hunderscore
          refine underscore_not_mem_lowercase ?_ hd
          intro hunderscore
          rw [hunderscore, isUppercase_underscore] at hupper
          cases hupper
      · rw [if_neg hupper]
        split
        · exact hhyphen
        · next hunderscore =>
            exact List.forall_mem_singleton.mpr ⟨Bool.eq_false_iff.mpr hupper, hunderscore⟩

theorem normalize_normalize {name : String} (h : Lowerable name.toList) :
    normalize (normalize name) = normalize name := by
  have hstripped := stripped_normalize name
  have hnormal : Normal (normalize name).toList :=
    fun c hc => normal_hyphenate h c (hstripped.mem hc)
  have hagain := stripped_normalize (normalize name)
  rw [hnormal.hyphenate_eq] at hagain
  exact String.toList_injective (hagain.unique hstripped.self)

/-- The spellings of a row of words have one normal name: the words in small letters with
hyphens between them, without the word that a name may end in, however often it stands
there. A name whose capitals have a lower case without capitals is not changed any more
once it is normal. -/
theorem normalize_spellings :
    (∀ words : List (List Char), words ≠ [] → (∀ w ∈ words, IsWord w) →
      ∃ name, Stripped nameEnding (['-'].intercalate words) name.toList ∧
        ∀ cs, Spelling words cs → normalize (String.ofList cs) = name) ∧
    ∀ name : String, Lowerable name.toList →
      normalize (normalize name) = normalize name := by
  refine ⟨fun words hne hwords => ?_, fun name h => normalize_normalize h⟩
  have hkebab := Spelling.kebab.stripped hne hwords
  refine ⟨_, hkebab, fun cs hcs => ?_⟩
  exact String.toList_injective ((hcs.stripped hne hwords).unique hkebab)

/-- The word for a check may itself be among the words. -/
theorem normalize_spellings_repeated :
    let words := ["output".toList, detectorWord]
    words ≠ [] ∧ (∀ w ∈ words, IsWord w) ∧ Lowerable "Éa_Ωb".toList ∧
      normalize "OUTPUT_DETECTOR" = normalize "OutputDetectorDetector" ∧
      normalize (normalize "Éa_Ωb") = normalize "Éa_Ωb" := by
  intro words
  have hne : words ≠ [] := List.cons_ne_nil _ _
  have hwords : ∀ w ∈ words, IsWord w := by
    refine List.forall_mem_cons.mpr ⟨⟨by decide +kernel, ?_⟩, ?_⟩
    · exact List.all_eq_true.mp (by decide +kernel)
    · exact List.forall_mem_singleton.mpr isWord_detectorWord
  have hlowerable : Lowerable "Éa_Ωb".toList := by
    have hall : ("Éa_Ωb".toList.all fun c => !isUppercase c ||
        (lowercase c).all fun d => !isUppercase d) = true := by
      decide +kernel
    intro c hc hupper d hd
    have hlower := List.all_eq_true.mp hall c hc
    rw [hupper, Bool.not_true, Bool.false_or, List.all_eq_true] at hlower
    exact (Bool.not_eq_true' _).mp (hlower d hd)
  obtain ⟨name, -, hname⟩ := normalize_spellings.1 words hne hwords
  have hshouted : normalize "OUTPUT_DETECTOR" = name := by
    have hspelled : "OUTPUT_DETECTOR" =
        String.ofList (['_'].intercalate (words.map (·.map Char.toUpper))) := by
      decide +kernel
    rw [hspelled]
    exact hname _ .screaming
  have hhumped : normalize "OutputDetectorDetector" = name := by
    have hspelled : "OutputDetectorDetector" =
        String.ofList (words.flatMap capitalize ++ "Detector".toList) := by
      decide +kernel
    rw [hspelled]
    exact hname _ .camelEnding
  exact ⟨hne, hwords, hlowerable, hshouted.trans hhumped.symm,
    normalize_spellings.2 _ hlowerable⟩

end ScriptLint.Config
