import ScriptLint.Check.Heuristics
import ScriptLint.Proofs.Pattern.Ahead
import ScriptLint.Proofs.Text.CharSet

namespace ScriptLint

open ScriptLint.Text ScriptLint.Pattern

/-! The patterns that look for a name by itself. They read the character before the name,
since they cannot look back at it; what they match is nevertheless told by the name, what
stands before it and what stands behind it. -/

/-! ### Lines -/

/-- A name behind this text is neither a property nor part of a longer name. -/
def OpenEnd (before : List Char) : Prop :=
  ∀ c, before.getLast? = some c → c ≠ '.' ∧ c ≠ '$' ∧ isWord true c = false

/-- A name occurs by itself in a line, with something behind it. -/
def Bare (name : List Char) (behind : List Char → Prop) (line : List Char) : Prop :=
  ∃ before after, line = before ++ (name ++ after) ∧ OpenEnd before ∧ behind after

/-- A name occurs in a line as a whole word. -/
def WholeWord (name line : List Char) : Prop :=
  ∃ before after, line = before ++ (name ++ after) ∧
    (∀ c, before.getLast? = some c → isWord true c = false) ∧
      ∀ c, after.head? = some c → isWord true c = false

def Begins (name : List Char) (behind : List Char → Prop) (text : List Char) : Prop :=
  ∃ after, text = name ++ after ∧ behind after

def PastBlanks (least : Nat) (behind : List Char → Prop) (text : List Char) : Prop :=
  ∃ blanks after, text = blanks ++ after ∧ least ≤ blanks.length ∧
    (∀ c ∈ blanks, isBlank c = true) ∧ behind after

def Next (p : Char → Prop) (text : List Char) : Prop := ∃ c, text.head? = some c ∧ p c

/-! ### Sets -/

namespace Text

theorem isOrdered_wordSet : wordSet.IsOrdered :=
  CharSet.isOrdered_of_isChain (by decide +kernel) (by decide +kernel)

theorem isOrdered_blankSet : blankSet.IsOrdered :=
  CharSet.isOrdered_of_isChain (by decide) (by decide)

theorem contains_blankSet (c : Char) : blankSet.contains c = isBlank c := by
  rw [Bool.eq_iff_iff, CharSet.contains, CharSet.mem, CharSet.holds_iff isOrdered_blankSet]
  simp only [CharSet.Covers, blankSet, isBlank, List.mem_cons, List.not_mem_nil,
    Bool.or_eq_true, Bool.and_eq_true, decide_eq_true_eq, beq_iff_eq]
  simp
  omega

def CharSet.with (s : CharSet) (cs : List Char) : CharSet :=
  cs.foldl (fun s c => s.union (.single c)) s

theorem CharSet.IsOrdered.with {s : CharSet} (hs : s.IsOrdered) (cs : List Char) :
    (s.with cs).IsOrdered := by
  induction cs generalizing s with
  | nil => exact hs
  | cons c cs ih => exact ih (hs.union (isOrdered_single c))

theorem CharSet.contains_with {s : CharSet} (hs : s.IsOrdered) (cs : List Char)
    (c : Char) : (s.with cs).contains c = true ↔ s.contains c = true ∨ c ∈ cs := by
  induction cs generalizing s with
  | nil => simp [CharSet.with]
  | cons d cs ih =>
      have hstep := ih (hs.union (isOrdered_single d))
      rw [contains_union hs (isOrdered_single d), contains_single] at hstep
      rw [List.mem_cons, ← or_assoc]
      exact hstep

theorem contains_with_empty (cs : List Char) (c : Char) :
    (CharSet.empty.with cs).contains c = true ↔ c ∈ cs := by
  rw [CharSet.contains_with CharSet.isOrdered_empty, CharSet.contains_empty,
    Bool.false_eq_true, false_or]

def partSet : CharSet := ((CharSet.empty.with ['.']).union wordSet).with ['$']

theorem isOrdered_partSet : partSet.IsOrdered :=
  ((CharSet.isOrdered_empty.with _).union isOrdered_wordSet).with _

theorem contains_complement_partSet (c : Char) :
    partSet.complement.contains c = true ↔ c ≠ '.' ∧ c ≠ '$' ∧ isWord true c = false := by
  have hdot := CharSet.isOrdered_empty.with ['.']
  rw [CharSet.contains_complement isOrdered_partSet, partSet,
    CharSet.contains_with (hdot.union isOrdered_wordSet),
    CharSet.contains_union hdot isOrdered_wordSet, contains_with_empty, isWord, if_pos rfl]
  simp
  tauto

end Text

/-! ### What patterns say of a text -/

namespace Pattern

variable {ps : List Pattern} {p q : Pattern} {P Q : List Char → Prop} {line : List Char}

def one (c : Char) : Pattern := .chars (.single c)

def blanks (least : Nat) : Pattern := .times least none (.chars blankSet)

def openEnd : Pattern := .alt (.look .textStart) (.chars partSet.complement)

def named (name : List Char) (ps : List Pattern) : Pattern :=
  row openEnd (name.map one ++ ps)

/-- Whatever stands before it, the patterns match at the front of a text as `P` says. -/
def Says (ps : List Pattern) (P : List Char → Prop) : Prop :=
  ∀ before after, Ahead isWord ps before after ↔ P after

theorem ahead_name {name before after : List Char} :
    Ahead isWord (name.map one ++ ps) before after ↔
      ∃ rest, after = name ++ rest ∧ Ahead isWord ps (before ++ name) rest := by
  induction name generalizing before after with
  | nil => simp
  | cons c cs ih =>
      rw [List.map_cons, List.cons_append, one, ahead_chars]
      simp only [CharSet.contains_single, ih, List.append_assoc, List.singleton_append]
      constructor
      · rintro ⟨_, _, rfl, rfl, rest, rfl, hps⟩
        exact ⟨rest, rfl, hps⟩
      · rintro ⟨rest, rfl, hps⟩
        exact ⟨c, cs ++ rest, rfl, rfl, rest, rfl, hps⟩

theorem Says.name (name : List Char) (h : Says ps P) :
    Says (name.map one ++ ps) (Begins name P) := by
  intro before after
  rw [ahead_name]
  exact exists_congr fun rest => and_congr_right' (h _ _)

theorem Says.blanks (least : Nat) (h : Says ps P) :
    Says (blanks least :: ps) (PastBlanks least P) := by
  intro before after
  rw [Pattern.blanks, ahead_times]
  simp only [contains_blankSet, h _ _, PastBlanks]

theorem Says.alt (hp : Says [p] P) (hq : Says [q] Q) :
    Says [.alt p q] fun after => P after ∨ Q after := by
  intro before after
  rw [ahead_alt, hp, hq]

theorem Says.seq (h : Says [p, q] P) : Says [.seq p q] P := by
  intro before after
  rw [ahead_seq, h]

theorem says_chars {set : CharSet} {p : Char → Prop}
    (hset : ∀ c, set.contains c = true ↔ p c) : Says [.chars set] (Next p) := by
  intro before after
  rw [ahead_chars]
  constructor
  · rintro ⟨c, rest, rfl, hc, -⟩
    exact ⟨c, rfl, (hset c).mp hc⟩
  · rintro ⟨c, hhead, hc⟩
    obtain ⟨rest, rfl⟩ := List.head?_eq_some_iff.mp hhead
    exact ⟨c, rest, rfl, (hset c).mpr hc, trivial⟩

theorem says_one (c : Char) : Says [one c] (Next (· = c)) :=
  says_chars fun _ => CharSet.contains_single ..

theorem says_oneOf (cs : List Char) :
    Says [.chars (CharSet.empty.with cs)] (Next (· ∈ cs)) :=
  says_chars (contains_with_empty cs)

theorem says_textEnd : Says [.look .textEnd] (· = []) := by
  intro before after
  rw [ahead_look]
  cases after <;> simp [Look.fits, Ahead]

theorem matchesIn_alt :
    (Pattern.alt p q).matchesIn isWord line = true ↔
      p.matchesIn isWord line = true ∨ q.matchesIn isWord line = true := by
  simp only [matchesIn_iff_ahead, ahead_alt, and_or_left, exists_or]

/-- A pattern from the start of a text says of the text what its parts say. -/
theorem matchesIn_fromStart (h : Says ps P) :
    (row (.look .textStart) ps).matchesIn isWord line = true ↔ P line := by
  rw [matchesIn_iff_ahead]
  simp only [ahead_row, ahead_look, h _ _]
  constructor
  · rintro ⟨before, after, rfl, hstart, hP⟩
    have hnil : before = [] := by simpa [Look.fits] using hstart
    rwa [hnil]
  · intro hP
    exact ⟨[], line, rfl, rfl, hP⟩

/-- The character that is read before the name stands for a look at what is there. -/
theorem matchesIn_openEnd :
    (row openEnd ps).matchesIn isWord line = true ↔
      ∃ before after, line = before ++ after ∧ OpenEnd before ∧
        Ahead isWord ps before after := by
  rw [matchesIn_iff_ahead]
  simp only [ahead_row, openEnd, ahead_alt, ahead_look, ahead_chars,
    contains_complement_partSet]
  constructor
  · rintro ⟨before, after, rfl, ⟨hstart, hps⟩ | ⟨c, rest, rfl, hc, hps⟩⟩
    · have hnil : before = [] := by simpa [Look.fits] using hstart
      subst hnil
      exact ⟨[], after, rfl, nofun, hps⟩
    -- The character that was read is given back to what stands before the name.
    · refine ⟨before ++ [c], rest, by simp, ?_, hps⟩
      intro d hd
      obtain rfl : c = d := by simpa using hd
      exact hc
  · rintro ⟨before, after, rfl, hopen, hps⟩
    rcases before.eq_nil_or_concat' with rfl | ⟨front, c, rfl⟩
    · exact ⟨[], after, rfl, .inl ⟨rfl, hps⟩⟩
    · exact ⟨front, c :: after, by simp, .inr ⟨c, after, rfl, hopen c (by simp), hps⟩⟩

theorem matchesIn_named (name : List Char) (h : Says ps P) :
    (named name ps).matchesIn isWord line = true ↔ Bare name P line := by
  rw [named, matchesIn_openEnd]
  simp only [ahead_name, h _ _]
  constructor
  · rintro ⟨before, _, rfl, hopen, rest, rfl, hP⟩
    exact ⟨before, rest, rfl, hopen, hP⟩
  · rintro ⟨before, rest, rfl, hopen, hP⟩
    exact ⟨before, _, rfl, hopen, rest, rfl, hP⟩

theorem fits_wordBoundary_left {before : Option Char} {c : Char}
    (hc : isWord true c = true) :
    (Look.wordBoundary true).fits isWord before (some c) = true ↔
      ∀ d, before = some d → isWord true d = false := by
  cases before <;> simp [Look.fits, Look.fits.isWord, hc]

theorem fits_wordBoundary_right {after : Option Char} {c : Char}
    (hc : isWord true c = true) :
    (Look.wordBoundary true).fits isWord (some c) after = true ↔
      ∀ d, after = some d → isWord true d = false := by
  cases after <;> simp [Look.fits, Look.fits.isWord, hc]

/-- Between boundaries a name stands as a whole word if it begins and ends as words do. -/
theorem matchesIn_wholeWord {name : List Char} {first last : Char}
    (hfirst : name.head? = some first) (hlast : name.getLast? = some last)
    (hfirstWord : isWord true first = true) (hlastWord : isWord true last = true) :
    (row (.look (.wordBoundary true))
        (name.map one ++ [.look (.wordBoundary true)])).matchesIn isWord line = true ↔
      WholeWord name line := by
  have hhead (rest : List Char) : (name ++ rest).head? = some first := by
    rw [List.head?_append, hfirst, Option.some_or]
  have hend (before : List Char) : (before ++ name).getLast? = some last := by
    rw [List.getLast?_append, hlast, Option.some_or]
  rw [matchesIn_iff_ahead]
  simp only [ahead_row, ahead_look, ahead_name]
  constructor
  · rintro ⟨before, _, rfl, hleft, rest, rfl, hright, -⟩
    rw [hhead, fits_wordBoundary_left hfirstWord] at hleft
    rw [hend, fits_wordBoundary_right hlastWord] at hright
    exact ⟨before, rest, rfl, hleft, hright⟩
  · rintro ⟨before, rest, rfl, hleft, hright⟩
    refine ⟨before, _, rfl, ?_, rest, rfl, ?_, trivial⟩
    · rwa [hhead, fits_wordBoundary_left hfirstWord]
    · rwa [hend, fits_wordBoundary_right hlastWord]

end Pattern

/-! ### The patterns as they are written -/

/-- What may stand behind a name that is used as a value, blanks left out. -/
def ValueUse (text : List Char) : Prop := text = [] ∨ Next (· ∈ ".[;,)]\x7d?".toList) text

/-- What may stand behind a name that is assigned to or whose members are used, blanks left
out. -/
def ObjectUse (text : List Char) : Prop :=
  Next (· ∈ ".[".toList) text ∨
    Begins "=".toList (fun more => more = [] ∨ Next (fun c => c ≠ '=' ∧ c ≠ '>') more) text

/-- What may stand behind the keyword of an import statement, blanks left out. -/
def Imported (c : Char) : Prop := isWord true c = true ∨ c ∈ "\x7b*'\"".toList

namespace Pattern

def valueUse : List Pattern :=
  [blanks 0, .alt (.chars (CharSet.empty.with ".[;,)]\x7d?".toList)) (.look .textEnd)]

def objectUse : List Pattern :=
  [blanks 0, .alt (.alt (.alt (one '.') (one '['))
    (.seq (one '=') (.chars (CharSet.empty.with "=>".toList).complement)))
    (.seq (one '=') (.look .textEnd))]

def importClause : Pattern :=
  row (.look .textStart) (blanks 0 :: ("import".toList.map one ++
    [blanks 1, .chars ((CharSet.empty.union wordSet).with "\x7b*'\"".toList)]))

def memberUse : List Pattern := [blanks 0, one '.', blanks 0, .chars wordSet]

def wholeWord (name : List Char) : Pattern :=
  row (.look (.wordBoundary true)) (name.map one ++ [.look (.wordBoundary true)])

theorem says_call : Says [blanks 0, one '('] (PastBlanks 0 (Next (· = '('))) :=
  (says_one _).blanks 0

theorem says_valueUse : Says valueUse (PastBlanks 0 ValueUse) := by
  apply Says.blanks
  intro before after
  rw [(says_oneOf _).alt says_textEnd, ValueUse, or_comm]

theorem says_memberUse :
    Says memberUse
      (PastBlanks 0 (Begins ['.'] (PastBlanks 0 (Next (isWord true · = true))))) := by
  apply Says.blanks
  apply Says.name ['.']
  apply Says.blanks
  apply says_chars
  intro c
  rfl

theorem says_objectUse : Says objectUse (PastBlanks 0 ObjectUse) := by
  have hother : Says [.chars (CharSet.empty.with "=>".toList).complement]
      (Next fun c => c ≠ '=' ∧ c ≠ '>') := by
    apply says_chars
    intro c
    rw [CharSet.contains_complement (CharSet.isOrdered_empty.with _), contains_with_empty]
    simp
  apply Says.blanks
  intro before after
  have hmember : Next (· ∈ ".[".toList) after ↔
      Next (· = '.') after ∨ Next (· = '[') after := by
    simp [Next, and_or_left, exists_or]
  rw [(((says_one '.').alt (says_one '[')).alt (hother.name ['=']).seq).alt
    (says_textEnd.name ['=']).seq, ObjectUse, hmember]
  simp only [Begins, and_or_left, exists_or, or_assoc]
  exact or_congr_right (or_congr_right or_comm)

theorem matchesIn_importClause {line : List Char} :
    importClause.matchesIn isWord line = true ↔
      PastBlanks 0 (Begins "import".toList (PastBlanks 1 (Next Imported))) line := by
  apply matchesIn_fromStart
  apply Says.blanks
  apply Says.name
  apply Says.blanks
  apply says_chars
  intro c
  have hword := CharSet.isOrdered_empty.union isOrdered_wordSet
  rw [CharSet.contains_with hword,
    CharSet.contains_union CharSet.isOrdered_empty isOrdered_wordSet,
    CharSet.contains_empty, Bool.false_eq_true, false_or]
  rfl

end Pattern

namespace Rule

/-- The built-in rule with a number, written in this way, matches the lines with a
property. -/
def BuiltinIs (k : Nat) (text : String) (P : List Char → Prop) : Prop :=
  ∃ r, builtin[k]? = some r ∧ r.text = text ∧ ∀ line, r.matchesLine line = true ↔ P line

theorem isSome_ofText_builtinTexts :
    ∀ t ∈ builtinTexts, (Pattern.ofText t.1.toList).isSome = true := by
  decide +kernel

theorem getElem?_filterMap_of_isSome {α β : Type} {f : α → Option β} {as : List α}
    (has : ∀ a ∈ as, (f a).isSome = true) (k : Nat) :
    (as.filterMap f)[k]? = as[k]?.bind f := by
  induction as generalizing k with
  | nil => rfl
  | cons a as ih =>
      obtain ⟨ha, has⟩ := List.forall_mem_cons.mp has
      obtain ⟨b, hb⟩ := Option.isSome_iff_exists.mp ha
      rw [List.filterMap_cons_some hb]
      cases k with
      | zero => exact hb.symm
      | succ k => exact ih has k

theorem isSome_ofText? {text : String} (message : String)
    (h : (Pattern.ofText text.toList).isSome = true) :
    (ofText? text message).isSome = true := by
  rw [ofText?, Option.isSome_map, h]

/-- No built-in rule is left out, so each has the number of its text. -/
theorem getElem?_builtin (k : Nat) :
    builtin[k]? = builtinTexts[k]?.bind fun (text, message) => ofText? text message := by
  rw [builtin, getElem?_filterMap_of_isSome]
  intro t ht
  exact isSome_ofText? t.2 (isSome_ofText_builtinTexts t ht)

theorem builtinIs_of_ofText {k : Nat} {text : String} {p : Pattern} {P : List Char → Prop}
    (htext : builtinTexts[k]?.map (·.1) = some text)
    (hp : Pattern.ofText text.toList = some p)
    (hP : ∀ line, p.matchesIn isWord line = true ↔ P line) : BuiltinIs k text P := by
  obtain ⟨⟨text, message⟩, hget, rfl⟩ := Option.map_eq_some_iff.mp htext
  have hrule : ofText? text message = some ⟨text, message, p⟩ := by
    rw [ofText?, hp, Option.map_some]
  refine ⟨⟨text, message, p⟩, ?_, rfl, hP⟩
  rw [getElem?_builtin, hget]
  exact hrule

end Rule

theorem Check.Heuristics.matchesIn_outputsUse {line : List Char} :
    outputsUse.matchesIn isWord line = true ↔
      Bare "outputs".toList (PastBlanks 0 ObjectUse) line := by
  have houtputs : outputsUse = named "outputs".toList objectUse := by decide +kernel
  rw [houtputs]
  exact matchesIn_named _ says_objectUse

/-- The patterns for names by themselves match as if they looked back at what stands
before. -/
theorem names_matched_by_themselves :
    Rule.BuiltinIs 1 "(?:^|[^.\\w$])Function\\s*\\("
      (Bare "Function".toList (PastBlanks 0 (Next (· = '(')))) ∧
    Rule.BuiltinIs 3 "(?:^|[^.\\w$])import\\s*\\(|^\\s*import\\s+[\\w\x7b*'\"]"
      (fun line => Bare "import".toList (PastBlanks 0 (Next (· = '('))) line ∨
        PastBlanks 0 (Begins "import".toList (PastBlanks 1 (Next Imported))) line) ∧
    Rule.BuiltinIs 4 "(?:^|[^.\\w$])process\\s*(?:[.\\[;,)\\]\x7d?]|$)"
      (Bare "process".toList (PastBlanks 0 ValueUse)) ∧
    Rule.BuiltinIs 5 "(?:^|[^.\\w$])global\\s*(?:[.\\[;,)\\]\x7d?]|$)"
      (Bare "global".toList (PastBlanks 0 ValueUse)) ∧
    Rule.BuiltinIs 9 "(?:^|[^.\\w$])fs\\s*\\.\\s*\\w|\\bchild_process\\b"
      (fun line =>
        Bare "fs".toList
          (PastBlanks 0 (Begins ['.'] (PastBlanks 0 (Next (isWord true · = true))))) line ∨
        WholeWord "child_process".toList line) ∧
    ∀ line, Check.Heuristics.outputsUse.matchesIn isWord line = true ↔
      Bare "outputs".toList (PastBlanks 0 ObjectUse) line := by
  have hcall : Pattern.ofText "(?:^|[^.\\w$])Function\\s*\\(".toList =
      some (named "Function".toList [blanks 0, one '(']) := by decide +kernel
  have himport : Pattern.ofText
      "(?:^|[^.\\w$])import\\s*\\(|^\\s*import\\s+[\\w\x7b*'\"]".toList =
      some (.alt (named "import".toList [blanks 0, one '(']) importClause) := by
    decide +kernel
  have hprocess : Pattern.ofText
      "(?:^|[^.\\w$])process\\s*(?:[.\\[;,)\\]\x7d?]|$)".toList =
      some (named "process".toList valueUse) := by decide +kernel
  have hglobal : Pattern.ofText
      "(?:^|[^.\\w$])global\\s*(?:[.\\[;,)\\]\x7d?]|$)".toList =
      some (named "global".toList valueUse) := by decide +kernel
  have hfiles : Pattern.ofText
      "(?:^|[^.\\w$])fs\\s*\\.\\s*\\w|\\bchild_process\\b".toList =
      some (.alt (named "fs".toList memberUse) (wholeWord "child_process".toList)) := by
    decide +kernel
  refine ⟨?_, ?_, ?_, ?_, ?_, ?_⟩
  · apply Rule.builtinIs_of_ofText rfl hcall
    intro line
    exact matchesIn_named _ says_call
  · apply Rule.builtinIs_of_ofText rfl himport
    intro line
    rw [matchesIn_alt, matchesIn_named _ says_call, matchesIn_importClause]
  · apply Rule.builtinIs_of_ofText rfl hprocess
    intro line
    exact matchesIn_named _ says_valueUse
  · apply Rule.builtinIs_of_ofText rfl hglobal
    intro line
    exact matchesIn_named _ says_valueUse
  · apply Rule.builtinIs_of_ofText rfl hfiles
    intro line
    rw [matchesIn_alt, matchesIn_named _ says_memberUse, wholeWord,
      matchesIn_wholeWord rfl rfl rfl rfl]
  · intro line
    exact Check.Heuristics.matchesIn_outputsUse

end ScriptLint
