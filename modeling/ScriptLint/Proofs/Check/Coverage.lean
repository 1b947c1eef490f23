import ScriptLint.Proofs.Check.Anchor
import ScriptLint.Proofs.Script.Returned

namespace ScriptLint

open ScriptLint.Script

/-! What the check of the outputs finds: the difference between the outputs that are
declared and the keys that are returned, in both directions. -/

namespace Check.Coverage

variable {skipped : Node → Prop} {source : List Char} {f n : Node}
  {name entryName : String}
  {outputs : List Socket}

/-! ### Keys that are returned -/

def bodyNodes (f : Node) : List Node := (f.body?.map Node.preorder).getD []

theorem mem_bodyNodes_iff (h : f.TokensBare) (hn : n.kind = .returnStatement) :
    n ∈ bodyNodes f ↔ ∃ body, f.body? = some body ∧ n ∈ body.preorderAll := by
  have hnamed : n.isNamed = true := by
    rw [Node.isNamed, hn]
    rfl
  rw [bodyNodes]
  cases hbody : f.body? with
  | none => simp
  | some body =>
      have hbare : body.TokensBare := h.child (Node.mem_children_of_child? hbody)
      have hmem : n ∈ body.preorderAll.filter Node.isNamed ↔
          n ∈ body.preorder.filter Node.isNamed := by
        rw [hbare.filter_isNamed]
      simpa [List.mem_filter, hnamed] using hmem.symm

/-- Some return statement in the body of a function returns an object with a key of this
name. -/
def Returned (skipped : Node → Prop) (source : List Char) (f : Node)
    (name : String) : Prop :=
  ∃ n ∈ bodyNodes f, ∃ o, n.Returns skipped o ∧ ∃ m ∈ o.namedChildren, m.HasKey source name

/-- All keys that are returned, return statement by return statement and key by key, each
with the statement that returns it. -/
structure Occurrences (skipped : Node → Prop) (source : List Char) (f : Node)
    (occurrences : List (String × Node)) : Prop where
  gathered : ∃ returns : List (List String × Node),
    Selects (fun n r => r.2 = n ∧ ∃ o, n.Returns skipped o ∧
      Selects (Node.HasKey source) o.namedChildren r.1) (bodyNodes f) returns ∧
    occurrences = returns.flatMap fun r => r.1.map (·, r.2)
  names : ∀ name, name ∈ occurrences.map (·.1) ↔ Returned skipped source f name

/-- Each name without an output, once and where it first occurs, in the order of these
places. -/
structure Undeclared (outputs : List Socket) (occurrences extras : List (String × Node)) :
    Prop where
  names : ∀ name, name ∈ extras.map (·.1) ↔
    name ∈ occurrences.map (·.1) ∧ name ∉ outputs.map (·.name)
  first : ∀ before e after, extras = before ++ e :: after →
    ∃ front back, occurrences = front ++ e :: back ∧ e.1 ∉ front.map (·.1) ∧
      ∀ x ∈ before, x ∈ front

/-- The findings tell exactly how the declared outputs and the returned keys differ. -/
structure Exact (skipped : Node → Prop) (source : List Char) (entryName : String)
    (f : Node) (outputs : List Socket) (fs : List Finding) : Prop where
  parts : ∃ occurrences extras, Occurrences skipped source f occurrences ∧
    Undeclared outputs occurrences extras ∧
    fs = (outputs.filter fun o => o.name ∉ occurrences.map (·.1)).map
        (missingFinding entryName (f.location source).line) ++
      extras.map fun e => extraFinding entryName (e.1, (e.2.location source).line)
  silent : fs = [] ↔ ∀ name, name ∈ outputs.map (·.name) ↔ Returned skipped source f name

/-! ### How they are gathered -/

def occurrences (source : List Char) (f : Node) : List (String × Node) :=
  (returnedObjects source f).flatMap fun (o, n) => (o.keys source).map fun k => (k.name, n)

theorem returnedNames_eq (source : List Char) (f : Node) :
    returnedNames source f =
      (occurrences source f).map (Prod.map id fun n => (n.location source).line) := by
  rw [returnedNames, occurrences, List.map_flatMap]
  simp only [List.map_map]
  rfl

theorem names_occurrences (source : List Char) (f : Node) :
    (returnedNames source f).map (·.1) = (occurrences source f).map (·.1) := by
  rw [returnedNames_eq, List.map_map]
  rfl

theorem returnedObjects_eq (source : List Char) (f : Node) :
    returnedObjects source f = (bodyNodes f).filterMap fun n =>
      if n.construct source == .return then n.returnedObject?.map (·, n) else none := by
  rw [returnedObjects, bodyNodes]
  cases f.body? <;> rfl

theorem skipsComments_of_mem (h : f.SkipsComments skipped) (hn : n ∈ bodyNodes f) :
    n.SkipsComments skipped := by
  rw [bodyNodes] at hn
  cases hbody : f.body? with
  | none => simp [hbody] at hn
  | some body =>
      rw [hbody] at hn
      exact fun d hd =>
        h d (Node.mem_preorderAll_trans hd (Node.mem_preorderAll_of_body hbody hn))

theorem returnedObject_iff {p : Node × Node} (h : f.SkipsComments skipped)
    (hn : n ∈ bodyNodes f) :
    (if n.construct source == .return then n.returnedObject?.map (·, n) else none) =
        some p ↔
      p.2 = n ∧ n.Returns skipped p.1 := by
  have hskips := skipsComments_of_mem h hn
  by_cases hkind : n.kind = .returnStatement
  · rw [if_pos (beq_iff_eq.mpr (Node.construct_eq_return_iff.mpr hkind)),
      Option.map_eq_some_iff]
    constructor
    · rintro ⟨o, ho, rfl⟩
      exact ⟨rfl, (Node.returnedObject?_eq_some_iff hskips hkind).mp ho⟩
    · rintro ⟨heq, hreturns⟩
      exact ⟨p.1, (Node.returnedObject?_eq_some_iff hskips hkind).mpr hreturns,
        Prod.ext rfl heq.symm⟩
  · rw [if_neg (by rw [beq_iff_eq, Node.construct_eq_return_iff]; exact hkind)]
    exact ⟨nofun, fun hreturns => absurd hreturns.2.1 hkind⟩

theorem mem_occurrences_iff (h : f.SkipsComments skipped) :
    name ∈ (occurrences source f).map (·.1) ↔ Returned skipped source f name := by
  have hkeys (o : Node) : name ∈ (o.keys source).map (·.name) ↔
      ∃ m ∈ o.namedChildren, m.HasKey source name := by
    rw [Node.keys, List.map_filterMap, List.mem_filterMap]
    simp only [Node.name_key?_iff]
  constructor
  · intro hname
    obtain ⟨e, he, rfl⟩ := List.mem_map.mp hname
    obtain ⟨p, hp, he⟩ := List.mem_flatMap.mp he
    obtain ⟨k, hk, rfl⟩ := List.mem_map.mp he
    rw [returnedObjects_eq, List.mem_filterMap] at hp
    obtain ⟨n, hn, hp⟩ := hp
    exact ⟨n, hn, p.1, ((returnedObject_iff h hn).mp hp).2,
      (hkeys p.1).mp (List.mem_map_of_mem hk)⟩
  · rintro ⟨n, hn, o, hreturns, hkey⟩
    obtain ⟨k, hk, rfl⟩ := List.mem_map.mp ((hkeys o).mpr hkey)
    have hobject : (o, n) ∈ returnedObjects source f := by
      rw [returnedObjects_eq, List.mem_filterMap]
      exact ⟨n, hn, (returnedObject_iff h hn).mpr ⟨rfl, hreturns⟩⟩
    exact List.mem_map.mpr ⟨(k.name, n), List.mem_flatMap.mpr
      ⟨(o, n), hobject, List.mem_map_of_mem hk⟩, rfl⟩

theorem occurrences_spec (h : f.SkipsComments skipped) (source : List Char) :
    Occurrences skipped source f (occurrences source f) where
  gathered := by
    refine ⟨(returnedObjects source f).map fun p => ((p.1.keys source).map (·.name), p.2),
      ?_, ?_⟩
    · rw [returnedObjects_eq, List.map_filterMap]
      refine (selects_iff fun n hn r => ?_).mpr rfl
      simp only [Option.map_eq_some_iff, returnedObject_iff h hn, Node.selects_keys_iff]
      constructor
      · rintro ⟨p, ⟨hp, hreturns⟩, rfl⟩
        exact ⟨hp, p.1, hreturns, rfl⟩
      · rintro ⟨rfl, o, hreturns, hnames⟩
        exact ⟨(o, r.2), ⟨rfl, hreturns⟩, Prod.ext hnames.symm rfl⟩
    · rw [occurrences, List.flatMap_map]
      simp only [List.map_map]
      rfl
  names _ := mem_occurrences_iff h

/-! ### What is found -/

def extras (c : Context) (f : Node) : List (String × Node) :=
  (firsts [] (occurrences c.source f)).filter fun e => !c.declaresOutput e.1

theorem extra_eq (c : Context) (f : Node) :
    extra c f = (extras c f).map (Prod.map id fun n => (n.location c.source).line) := by
  rw [extra, returnedKeys, returnedNames_eq, firsts_map, List.filter_map]
  rfl

theorem undeclared_extras (c : Context) (f : Node) :
    Undeclared c.outputs (occurrences c.source f) (extras c f) where
  names name := by
    rw [extras]
    constructor
    · intro hname
      obtain ⟨e, he, rfl⟩ := List.mem_map.mp hname
      obtain ⟨he, hundeclared⟩ := List.mem_filter.mp he
      have hmem := (mem_names_firsts [] _).mp (List.mem_map_of_mem he)
      rw [Bool.not_eq_true', ← Bool.not_eq_true,
        Context.declaresOutput_eq_true_iff] at hundeclared
      exact ⟨hmem.1, hundeclared⟩
    · rintro ⟨hname, hundeclared⟩
      obtain ⟨e, he, rfl⟩ :=
        List.mem_map.mp ((mem_names_firsts [] _).mpr ⟨hname, List.not_mem_nil⟩)
      refine List.mem_map_of_mem (List.mem_filter.mpr ⟨he, ?_⟩)
      rw [Bool.not_eq_true', ← Bool.not_eq_true, Context.declaresOutput_eq_true_iff]
      exact hundeclared
  first before e after hsplit := by
    obtain ⟨listed, rest, hfirsts, rfl, hrest⟩ := List.filter_eq_append_iff.mp hsplit
    obtain ⟨skipped, rest', rfl, -, -, -⟩ := List.filter_eq_cons_iff.mp hrest
    rw [← List.append_assoc] at hfirsts
    -- What the filter kept in front of the entry was listed in front of it.
    obtain ⟨front, back, hfront, hname, hlisted⟩ := exists_front_of_firsts_eq hfirsts
    exact ⟨front, back, hfront, hname, fun x hx =>
      hlisted x (List.mem_append_left _ (List.mem_of_mem_filter hx))⟩

theorem exact_findings {c : Context} (hf : c.function? = some f)
    (houtputs : c.outputs ≠ []) (h : f.SkipsComments skipped) :
    Exact skipped c.source c.entryName f c.outputs (findings c) where
  parts := by
    refine ⟨occurrences c.source f, extras c f, occurrences_spec h c.source,
      undeclared_extras c f, ?_⟩
    rw [findings_of_some hf houtputs, missing_eq, names_occurrences, extra_eq,
      List.map_map]
    rfl
  silent := by
    have hmissing : missing c f = [] ↔
        ∀ name, name ∈ c.outputs.map (·.name) → Returned skipped c.source f name := by
      simp only [missing_eq, names_occurrences, List.filter_eq_nil_iff,
        mem_occurrences_iff h, List.forall_mem_map, decide_eq_true_eq, not_not]
    have hextra : extra c f = [] ↔
        ∀ name, Returned skipped c.source f name → name ∈ c.outputs.map (·.name) := by
      rw [extra_eq, List.map_eq_nil_iff, ← List.map_eq_nil_iff (f := fun e => e.1),
        List.eq_nil_iff_forall_not_mem]
      simp only [(undeclared_extras c f).names, mem_occurrences_iff h, not_and, not_not]
    rw [findings_of_some hf houtputs, List.append_eq_nil_iff, List.map_eq_nil_iff,
      List.map_eq_nil_iff, hmissing, hextra]
    exact ⟨fun hboth name => ⟨hboth.1 name, hboth.2 name⟩,
      fun hiff => ⟨fun name => (hiff name).mp, fun name => (hiff name).mpr⟩⟩

end Check.Coverage

/-! ### In a whole result -/

/-- Comments as in HTML, which are comments of the language as well. -/
def Script.Kind.htmlComment : Kind := .other "html_comment"

namespace Script.Node

def IsComment (n : Node) : Prop := n.kind = .comment

def IsHtmlComment (n : Node) : Prop := n.kind = .htmlComment

def IsAnyComment (n : Node) : Prop := n.IsComment ∨ n.IsHtmlComment

instance : DecidablePred IsHtmlComment := fun n => inferInstanceAs (Decidable (n.kind = _))

instance : DecidablePred IsAnyComment := fun n =>
  inferInstanceAs (Decidable (n.kind = _ ∨ n.kind = _))

theorem skipsComments_isComment (root : Node) : root.SkipsComments IsComment :=
  fun _ _ => Iff.rfl

theorem skipsComments_of_no_html {root : Node}
    (h : ∀ n ∈ root.preorderAll, ¬ n.IsHtmlComment) :
    root.SkipsComments IsAnyComment :=
  fun n hn => or_iff_left (h n hn)

end Script.Node

theorem Context.function?_of_last {s : Script} {entryName : String} {outputs : List Socket}
    {inputs : Option (List Socket)} {front back : List Node} {f : Node}
    (htop : s.topLevel = front ++ f :: back) (hf : f.Declares s.source entryName)
    (hback : ∀ n ∈ back, ¬ n.Declares s.source entryName) :
    (Context.ofScript s entryName outputs inputs).function? = some f := by
  have hnone : back.filter (Entry.isDeclaration s.source entryName) = [] := by
    rw [List.filter_eq_nil_iff]
    intro n hn hdeclaration
    exact hback n hn (Node.isDeclaration_iff.mp hdeclaration)
  simp only [function?, Entry.function?, ofScript, Entry.locate, htop, List.filter_append,
    List.filter_cons_of_pos (Node.isDeclaration_iff.mpr hf), hnone]
  exact List.getLast?_concat

namespace Validator

variable {entryName : String} {s : Script} {outputs : List Socket}
  {inputs : Option (List Socket)} {front back : List Node} {f : Node}

theorem filter_judge (rules : List Rule) (hs : s.rejection? = none) :
    ((ofRules rules entryName).judge s outputs inputs).findings.filter
        (fun x => x.kind == .outputMismatch) =
      Check.Coverage.findings (.ofScript s entryName outputs inputs) := by
  have hother {fs : List Finding} (h : ∀ x ∈ fs, x.kind ≠ .outputMismatch) :
      fs.filter (fun x => x.kind == .outputMismatch) = [] :=
    List.filter_eq_nil_iff.mpr fun x hx => by simpa using h x hx
  have hstructure : ∀ x ∈ Check.Structure.findings (.ofScript s entryName outputs inputs),
      x.kind ≠ .outputMismatch := fun x hx => Check.Structure.kind_ne_outputMismatch hx
  have hscan : ∀ x ∈ Rule.scan (Rule.withBuiltin rules)
      (Context.ofScript s entryName outputs inputs).source, x.kind ≠ .outputMismatch :=
    fun x hx => Rule.kind_ne_outputMismatch hx
  have hheuristics :
      ∀ x ∈ Check.Heuristics.findings (.ofScript s entryName outputs inputs),
      x.kind ≠ .outputMismatch := fun x hx => Check.Heuristics.kind_ne_outputMismatch hx
  rw [judge_ofRules_of_none hs, Check.report, List.filter_append, List.filter_append,
    List.filter_append, hother hstructure, hother hscan, hother hheuristics,
    List.nil_append,
    List.nil_append, List.append_nil, List.filter_eq_self]
  exact fun x hx => beq_iff_eq.mpr (Check.Coverage.kind_of_mem hx)

/-- For a script with an entry function and some outputs, the check of the outputs finds a
warning for each output that is no returned key, and then a note for each returned key that
is no output. All this holds with the comments of the language in place of those with
slashes if there is no comment as in HTML. Every return statement below the body counts. -/
theorem coverage_exact (rules : List Rule) (entryName : String) (s : Script)
    (outputs : List Socket) (inputs : Option (List Socket)) {front back : List Node}
    {f : Node} (hs : s.rejection? = none) (houtputs : outputs ≠ [])
    (htop : s.topLevel = front ++ f :: back) (hf : f.Declares s.source entryName)
    (hback : ∀ n ∈ back, ¬ n.Declares s.source entryName) :
    ∃ fs, Check.coverage.run (.ofScript s entryName outputs inputs) = .ok fs ∧
      ((ofRules rules entryName).judge s outputs inputs).findings.filter
        (fun x => x.kind == .outputMismatch) = fs ∧
      Check.Coverage.Exact Node.IsComment s.source entryName f outputs fs ∧
      ((∀ n ∈ f.preorderAll, ¬ n.IsHtmlComment) →
        Check.Coverage.Exact Node.IsAnyComment s.source entryName f outputs fs) ∧
      (f.TokensBare → ∀ n, n.kind = .returnStatement →
        (n ∈ Check.Coverage.bodyNodes f ↔
          ∃ body, f.body? = some body ∧ n ∈ body.preorderAll)) := by
  have hfunction : (Context.ofScript s entryName outputs inputs).function? = some f :=
    Context.function?_of_last htop hf hback
  refine ⟨_, rfl, filter_judge rules hs, ?_, fun hhtml => ?_,
    fun hbare _ hn => Check.Coverage.mem_bodyNodes_iff hbare hn⟩
  · exact Check.Coverage.exact_findings hfunction houtputs (Node.skipsComments_isComment f)
  · exact Check.Coverage.exact_findings hfunction houtputs
      (Node.skipsComments_of_no_html hhtml)

end Validator

namespace Script

def keptKey : Node := .mk .propertyIdentifier (some .key) ⟨64, 2, 2⟩ 67 false []

def keptPair : Node :=
  .mk .pair none ⟨64, 2, 2⟩ 70 false [
    keptKey,
    .mk (.token ":") none ⟨67, 2, 5⟩ 68 false [],
    .mk (.other "number") (some .value) ⟨69, 2, 7⟩ 70 false []]

def keptObject : Node :=
  .mk .object none ⟨62, 2, 0⟩ 72 false [
    .mk (.token "\x7b") none ⟨62, 2, 0⟩ 63 false [],
    keptPair,
    .mk (.token "\x7d") none ⟨71, 2, 9⟩ 72 false []]

def keptParentheses (kind : Kind) : Node :=
  .mk .parenthesizedExpression none ⟨50, 0, 50⟩ 73 false [
    .mk (.token "(") none ⟨50, 0, 50⟩ 51 false [],
    .mk kind none ⟨52, 1, 0⟩ 61 false [],
    keptObject,
    .mk (.token ")") none ⟨72, 2, 10⟩ 73 false []]

def keptReturn (kind : Kind) : Node :=
  .mk .returnStatement none ⟨43, 0, 43⟩ 74 false [
    .mk (.token "return") none ⟨43, 0, 43⟩ 49 false [],
    keptParentheses kind,
    .mk (.token ";") none ⟨73, 2, 11⟩ 74 false []]

def keptEntry (kind : Kind) : Node :=
  .mk .functionDeclaration none ⟨0, 0, 0⟩ 76 false [
    .onLine (.token "function") none 0 8 [],
    .onLine .identifier (some .name) 9 20 [],
    .onLine (.other "formal_parameters") (some .parameters) 20 40 [
      .onLine (.token "(") none 20 21 [],
      .onLine .identifier none 21 27 [],
      .onLine (.token ",") none 27 28 [],
      .onLine .identifier none 29 39 [],
      .onLine (.token ")") none 39 40 []],
    .mk .statementBlock (some .body) ⟨41, 0, 41⟩ 76 false [
      .onLine (.token "\x7b") none 41 42 [],
      keptReturn kind,
      .mk (.token "\x7d") none ⟨75, 2, 13⟩ 76 false []]]

/-- A script that returns an object behind a comment of nine characters in parentheses. -/
def keeping (text : String) (kind : Kind) : Script where
  source := ("function processData(inputs, properties) \x7b return (\n" ++ text ++
    "\n\x7b Out: 1 \x7d); \x7d").toList
  root := .mk .program none ⟨0, 0, 0⟩ 76 false [keptEntry kind]
  flawed := false

end Script

namespace Validator

/-- Behind a comment with slashes the object is found. -/
theorem coverage_exact_behind_slashes :
    ∃ fs, Check.coverage.run (.ofScript (.keeping "//// note" .comment) "processData"
        [⟨"Out", .any⟩] none) = .ok fs ∧ fs = [] ∧
      Check.Coverage.Exact Node.IsAnyComment
        (Script.keeping "//// note" .comment).source "processData" (keptEntry .comment)
        [⟨"Out", .any⟩] fs := by
  have hs : (Script.keeping "//// note" .comment).rejection? = none := by
    rw [rejection?_eq_none_iff rfl]
    exact ⟨rfl, by decide, by decide⟩
  have htop : (Script.keeping "//// note" .comment).topLevel =
      [] ++ keptEntry .comment :: [] := rfl
  obtain ⟨fs, hrun, -, -, hexact, -⟩ :=
    coverage_exact [] "processData" _ [⟨"Out", .any⟩] none hs
    (by decide) htop ⟨rfl, _, rfl, by decide⟩ nofun
  refine ⟨fs, hrun, ?_, hexact (by decide)⟩
  have hempty : Check.coverage.run (.ofScript (.keeping "//// note" .comment) "processData"
      [⟨"Out", .any⟩] none) = .ok [] := rfl
  exact Except.ok.inj (hrun.symm.trans hempty)

/-- Behind a comment as in HTML the object is lost: its key is said to be missing. -/
theorem html_comment_hides_object :
    (Script.keeping "<!-- note" .htmlComment).rejection? = none ∧
    (Script.keeping "<!-- note" .htmlComment).topLevel =
      [keptEntry .htmlComment] ∧
    Check.Coverage.Returned Node.IsAnyComment
      (Script.keeping "<!-- note" .htmlComment).source
      (keptEntry .htmlComment) "Out" ∧
    ((ofRules [] "processData").judge (.keeping "<!-- note" .htmlComment)
        [⟨"Out", .any⟩] none).findings.filter (fun x => x.kind == .outputMismatch) =
      [Check.Coverage.missingFinding "processData" 1 ⟨"Out", .any⟩] ∧
    ¬ Check.Coverage.Exact Node.IsAnyComment
      (Script.keeping "<!-- note" .htmlComment).source "processData"
      (keptEntry .htmlComment) [⟨"Out", .any⟩]
      [Check.Coverage.missingFinding "processData" 1 ⟨"Out", .any⟩] := by
  have hs : (Script.keeping "<!-- note" .htmlComment).rejection? = none := by
    rw [rejection?_eq_none_iff rfl]
    exact ⟨rfl, by decide, by decide⟩
  have hobject : ¬ keptObject.IsAnyComment := by decide
  have hparentheses : ¬ (keptParentheses .htmlComment).IsAnyComment := by decide
  have hoperand : (keptParentheses .htmlComment).Operand Node.IsAnyComment keptObject := by
    refine ⟨hobject, [_], [], rfl, fun c hc hnot => hnot ?_⟩
    rw [List.mem_singleton.mp hc]
    exact .inr rfl
  have hreturns : (keptReturn .htmlComment).Returns Node.IsAnyComment keptObject :=
    ⟨rfl, keptParentheses .htmlComment, ⟨hparentheses, [], [], rfl, nofun⟩,
      .parentheses rfl hoperand (.bare rfl)⟩
  have hname :
      keptKey.name (Script.keeping "<!-- note" .htmlComment).source = "Out" := rfl
  have hkey : keptPair.HasKey (Script.keeping "<!-- note" .htmlComment).source "Out" :=
    hname ▸ .name (.pair rfl rfl) (.inl rfl)
  have hreturned : Check.Coverage.Returned Node.IsAnyComment
      (Script.keeping "<!-- note" .htmlComment).source
      (keptEntry .htmlComment) "Out" :=
    ⟨keptReturn .htmlComment, .tail _ (.head _), keptObject, hreturns, keptPair,
      .head _, hkey⟩
  refine ⟨hs, rfl, hreturned, ?_, fun hexact => ?_⟩
  · rw [filter_judge [] hs]
    rfl
  · obtain ⟨occurrences, extras, hoccurrences, -, hfindings⟩ := hexact.parts
    have hout : "Out" ∈ occurrences.map (·.1) := (hoccurrences.names _).mpr hreturned
    cases extras <;>
      simp [hout, Check.Coverage.missingFinding, Check.Coverage.extraFinding]
      at hfindings

end Validator

end ScriptLint
