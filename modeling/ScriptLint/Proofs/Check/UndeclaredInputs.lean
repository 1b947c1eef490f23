import ScriptLint.Proofs.Check.AmbientOutputs
import ScriptLint.Proofs.Check.Coverage
import ScriptLint.Proofs.Script.Layout
import ScriptLint.Proofs.Script.Site

namespace ScriptLint

open ScriptLint.Script ScriptLint.Text

/-! Which reads of inputs are noted: of each name that is no input the first. -/

namespace Script

variable {source : List Char} {object name : String} {n : Node} {t : Site}

namespace Node

/-- The property that a member access names: behind a point, or by a string in brackets. -/
inductive HasProperty (source : List Char) (n : Node) : String → Prop
  | name {p : Node} (hp : n.child? .property = some p)
      (hkind : p.kind = .propertyIdentifier) :
      HasProperty source n (p.name source)
  | index {i : Node} (hp : n.child? .property = none) (hi : n.child? .index = some i)
      (hkind : i.kind = .string) :
      HasProperty source n (String.ofList (stringValue source i))

theorem propertyName?_eq_some_iff :
    n.propertyName? source = some name ↔ n.HasProperty source name := by
  constructor
  · intro h
    unfold propertyName? at h
    split at h
    · next p hp =>
        split at h
        · next hkind =>
            obtain rfl := Option.some.inj h
            exact .name hp (beq_iff_eq.mp hkind)
        · cases h
    · next hp =>
        split at h
        · next i hi =>
            split at h
            · next hkind =>
                obtain rfl := Option.some.inj h
                exact .index hp hi (beq_iff_eq.mp hkind)
            · cases h
        · cases h
  · intro h
    cases h with
    | name hp hkind => simp [propertyName?, hp, hkind]
    | index hp hi hkind => simp [propertyName?, hp, hi, hkind]

theorem objectName?_eq_some_iff :
    n.objectName? source = some object ↔
      ∃ o, n.child? .object = some o ∧ o.IsPlain source object := by
  rw [objectName?, Option.map_eq_some_iff]
  simp only [Option.filter_eq_some_iff, beq_iff_eq, and_assoc, IsPlain]

theorem construct_eq_member_iff : n.construct source = .member ↔ n.IsAccess := by
  unfold IsAccess
  cases hk : n.kind with
  | variableDeclarator =>
      obtain h | ⟨name, h⟩ := construct_declarator source hk
      · simp [h]
      · simp [h]
  | _ => simp [construct, hk]

end Node

def Node.bodySites (f : Node) : List Site := (f.body?.map (·.sites none [])).getD []

/-- What stands at a place reads a member of what has a plain name, and does not call
it. -/
structure Site.Reads (source : List Char) (object name : String) (t : Site) : Prop where
  access : t.node.IsAccess
  object : ∃ o, t.node.child? .object = some o ∧ o.IsPlain source object
  property : t.node.HasProperty source name
  uncalled : ¬ t.IsCallee

theorem Site.Reads.isPlainAccess (h : t.Reads source object name) :
    t.node.IsPlainAccess := by
  obtain ⟨o, ho, hplain⟩ := h.object
  exact ⟨h.access, o, ho, hplain.1⟩

/-- Names that are no inputs, each with the place that reads it first. -/
structure Noted (source : List Char) (object : String) (inputs : List Socket)
    (sites : List Site) (noted : List (String × Node)) : Prop where
  names : ∀ name, name ∈ noted.map (·.1) ↔
    name ∉ inputs.map (·.name) ∧ ∃ t ∈ sites, t.Reads source object name
  once : (noted.map (·.1)).Nodup
  first : ∀ e ∈ noted, ∃ t, FirstOf (Site.Reads source object e.1) sites t ∧ t.node = e.2

/-- The notes stand in the order of the text, each before all other reads of its name. -/
structure NotedInOrder (source : List Char) (object : String) (sites : List Site)
    (noted : List (String × Node)) : Prop where
  increasing : noted.Pairwise fun e e' =>
    (e.2.location source).Precedes (e'.2.location source)
  earliest : ∀ e ∈ noted, ∀ t ∈ sites, t.Reads source object e.1 →
    t.node = e.2 ∨ (e.2.location source).Precedes (t.node.location source)

end Script

namespace Check.Heuristics

variable {source : List Char} {object name : String} {t : Site} {sites : List Site}
  {e : String × Node} {inputs : List Socket}

/-! ### Reads -/

def read? (source : List Char) (object : String) (t : Site) : Option (String × Node) :=
  if t.node.construct source == .member && t.node.objectName? source == some object &&
      !decide t.IsCallee then
    (t.node.propertyName? source).map (·, t.node)
  else none

theorem read?_eq_some_iff :
    read? source object t = some e ↔ t.Reads source object e.1 ∧ e.2 = t.node := by
  have htest :
      (t.node.construct source == .member && t.node.objectName? source == some object &&
      !decide t.IsCallee) = true ↔ t.node.IsAccess ∧
        (∃ o, t.node.child? .object = some o ∧ o.IsPlain source object) ∧
          ¬ t.IsCallee := by
    simp only [Bool.and_eq_true, beq_iff_eq, Bool.not_eq_true', decide_eq_false_iff_not,
      Node.construct_eq_member_iff, Node.objectName?_eq_some_iff, and_assoc]
  rw [read?]
  split
  · next h =>
      obtain ⟨haccess, hobject, huncalled⟩ := htest.mp h
      rw [Option.map_eq_some_iff]
      constructor
      · intro ⟨name, hname, he⟩
        subst he
        exact ⟨⟨haccess, hobject, Node.propertyName?_eq_some_iff.mp hname, huncalled⟩, rfl⟩
      · intro ⟨hreads, hnode⟩
        exact ⟨e.1, Node.propertyName?_eq_some_iff.mpr hreads.property,
          Prod.ext rfl hnode.symm⟩
  · next h =>
      constructor
      · intro hnone
        cases hnone
      · intro ⟨hreads, _⟩
        exact absurd (htest.mpr ⟨hreads.access, hreads.object, hreads.uncalled⟩) h

theorem reads_eq (source : List Char) (object : String) (body : Node) :
    reads source object body = (body.sites none []).filterMap (read? source object) := by
  have hroot : decide (Site.IsCallee ⟨none, [], body⟩) = false :=
    decide_eq_false fun h => by cases h.1
  rw [reads, ← hroot, Node.withCalled_eq_map_sites, List.filterMap_map]
  rfl

theorem mem_names_iff :
    name ∈ (sites.filterMap (read? source object)).map (·.1) ↔
      ∃ t ∈ sites, t.Reads source object name := by
  rw [List.mem_map]
  constructor
  · intro ⟨e, he, hname⟩
    obtain ⟨t, ht, hread⟩ := List.mem_filterMap.mp he
    exact ⟨t, ht, hname ▸ (read?_eq_some_iff.mp hread).1⟩
  · intro ⟨t, ht, hreads⟩
    exact ⟨(name, t.node),
      List.mem_filterMap.mpr ⟨t, ht, read?_eq_some_iff.mpr ⟨hreads, rfl⟩⟩,
      rfl⟩

/-- An entry before which nothing has its name is the first read of the name. -/
theorem firstOf_of_filterMap_eq {front back : List (String × Node)}
    (h : sites.filterMap (read? source object) = front ++ e :: back)
    (hfront : e.1 ∉ front.map (·.1)) :
    ∃ t, FirstOf (Site.Reads source object e.1) sites t ∧ t.node = e.2 := by
  rw [List.filterMap_eq_append_iff] at h
  obtain ⟨before, rest, rfl, hbefore, hrest⟩ := h
  obtain ⟨skipped, t, after, rfl, hskipped, ht, -⟩ := List.filterMap_eq_cons_iff.mp hrest
  obtain ⟨hreads, hnode⟩ := read?_eq_some_iff.mp ht
  refine ⟨t, ⟨hreads, before ++ skipped, after, ?_, ?_⟩, hnode.symm⟩
  · rw [List.append_assoc]
  · intro u hu huReads
    have hread : read? source object u = some (e.1, u.node) :=
      read?_eq_some_iff.mpr ⟨huReads, rfl⟩
    obtain hu | hu := List.mem_append.mp hu
    · apply hfront
      rw [← hbefore]
      exact List.mem_map.mpr ⟨_, List.mem_filterMap.mpr ⟨u, hu, hread⟩, rfl⟩
    · rw [hskipped u hu] at hread
      cases hread

theorem noted_firsts (source : List Char) (object : String) (inputs : List Socket)
    (sites : List Site) :
    Noted source object inputs sites
      (firsts (inputs.map (·.name)) (sites.filterMap (read? source object))) where
  names name := by
    rw [mem_names_firsts, mem_names_iff, and_comm]
  once := nodup_names_firsts _ _
  first e he := by
    obtain ⟨listed, rest, hfirsts⟩ := List.append_of_mem he
    obtain ⟨front, back, hreads, hfront, -⟩ := exists_front_of_firsts_eq hfirsts
    exact firstOf_of_filterMap_eq hreads hfront

/-! ### Their places -/

/-- Places that stand in the order of the text, as far as they access plain names. -/
def InOrder (source : List Char) (sites : List Site) : Prop :=
  sites.Pairwise fun t u => t.node.IsPlainAccess → u.node.IsPlainAccess →
    (t.node.location source).Precedes (u.node.location source)

/-- In a tree that is laid out, the visit of a body meets the accesses in their order. -/
theorem inOrder_bodySites {s : Script} {f : Node} (hs : s.LaidOut)
    (hf : f ∈ s.root.preorderAll) : InOrder s.source f.bodySites := by
  unfold Node.bodySites
  cases hbody : f.body? with
  | none => exact .nil
  | some body =>
      have hmem {n : Node} (hn : n ∈ body.preorder) : n ∈ s.root.preorderAll :=
        Node.mem_preorderAll_trans (Node.mem_preorderAll_of_body hbody hn) hf
      have hroot : body ∈ s.root.preorderAll := hmem (Node.self_mem_preorder body)
      have hlaid := hs.laid.of_mem hroot
      have hsteps := ((hs.worded.of_mem hroot).steps_access hlaid).pairwise hlaid
      rw [← Node.map_node_sites none [] body, List.pairwise_map] at hsteps
      have hsite {t : Site} (ht : t ∈ body.sites none []) :
          t.node ∈ s.root.preorderAll := by
        apply hmem
        rw [← Node.map_node_sites none [] body]
        exact List.mem_map_of_mem ht
      apply hsteps.imp_of_mem
      intro t u ht hu hlt htAccess huAccess
      exact (hs.precedes_iff (hsite ht) (hsite hu)).mpr (hlt htAccess huAccess)

theorem notedInOrder_firsts (hordered : InOrder source sites) :
    NotedInOrder source object sites
      (firsts (inputs.map (·.name)) (sites.filterMap (read? source object))) where
  increasing := by
    apply List.Pairwise.sublist (firsts_sublist _ _)
    rw [List.pairwise_filterMap]
    apply List.Pairwise.imp _ hordered
    intro t u hprecedes e he e' he'
    obtain ⟨hreads, hnode⟩ := read?_eq_some_iff.mp he
    obtain ⟨hreads', hnode'⟩ := read?_eq_some_iff.mp he'
    rw [hnode, hnode']
    exact hprecedes hreads.isPlainAccess hreads'.isPlainAccess
  earliest e he t ht hreads := by
    obtain ⟨u, ⟨huReads, front, back, rfl, hfront⟩, hnode⟩ :=
      (noted_firsts source object inputs sites).first e he
    rw [InOrder, List.pairwise_append, List.pairwise_cons] at hordered
    rw [List.mem_append, List.mem_cons] at ht
    obtain ht | rfl | ht := ht
    · exact absurd hreads (hfront t ht)
    · exact .inl hnode
    · rw [← hnode]
      exact .inr (hordered.2.1.1 t ht huReads.isPlainAccess hreads.isPlainAccess)

end Check.Heuristics

/-! ### Notes among other findings -/

namespace Finding

variable {x : Finding}

def inputNoteEnd : String := "it will be undefined at runtime"

def isInputNote (x : Finding) : Bool :=
  x.kind == .bestPractice && x.severity == .info &&
    inputNoteEnd.toList.isSuffixOf x.message.toList

def inputNote (object name : String) (l : Location) : Finding :=
  { kind := .bestPractice, severity := .info
    message :=
      s!"\x60{object}.{name}\x60 does not match any declared input; " ++ inputNoteEnd :
      Finding }.atLocation l

theorem isInputNote_inputNote (object name : String) (l : Location) :
    (inputNote object name l).isInputNote = true := by
  rw [isInputNote, inputNote, atLocation, Bool.and_eq_true, List.isSuffixOf_iff_suffix,
    String.toList_append]
  exact ⟨rfl, List.suffix_append _ _⟩

theorem exists_text_of_isInputNote (h : x.isInputNote = true) :
    ∃ text, x.message = text ++ inputNoteEnd := by
  rw [isInputNote, Bool.and_eq_true, List.isSuffixOf_iff_suffix] at h
  obtain ⟨text, htext⟩ := h.2
  refine ⟨String.ofList text, ?_⟩
  rw [← String.toList_inj, String.toList_append, String.toList_ofList, htext]

theorem not_isInputNote_of_kind_ne (h : x.kind ≠ .bestPractice) :
    ¬ x.isInputNote = true := by
  simp [isInputNote, h]

theorem not_isInputNote_of_severity_ne (h : x.severity ≠ .info) :
    ¬ x.isInputNote = true := by
  simp [isInputNote, h]

end Finding

namespace Check

variable {c : Context} {f : Node} {x : Finding} {object : String} {inputs : List Socket}

theorem Structure.not_isInputNote_of_mem (hx : x ∈ findings c) :
    ¬ x.isInputNote = true := by
  intro hnote
  have hinfo : x.severity = .info := by
    by_contra hne
    exact Finding.not_isInputNote_of_severity_ne hne hnote
  obtain ⟨text, htext⟩ := Finding.exists_text_of_isInputNote hnote
  obtain ⟨text', htext'⟩ := message_of_note hx hinfo
  exact Finding.append_ne_append (by decide) (by decide) (htext.symm.trans htext')

namespace Heuristics

theorem undeclaredInputs_eq {p : Node} (hp : f.params[0]? = some p)
    (hplain : p.IsPlain c.source object) (hinputs : c.inputs = some inputs) :
    undeclaredInputs c f = (firsts (inputs.map (·.name))
        (f.bodySites.filterMap (read? c.source object))).map
      fun e => .inputNote object e.1 (e.2.location c.source) := by
  have hparam : f.paramName? c.source 0 = some object :=
    Node.paramName?_eq_some_iff.mpr ⟨p, hp, hplain⟩
  rw [undeclaredInputs, hinputs, hparam, Node.bodySites]
  cases f.body? with
  | none => rfl
  | some body =>
      simp only [Option.map_some, Option.getD_some, ← reads_eq]
      rfl

theorem isInputNote_of_mem_undeclaredInputs (hx : x ∈ undeclaredInputs c f) :
    x.isInputNote = true := by
  unfold undeclaredInputs at hx
  split at hx
  · next param _ _ _ _ =>
      obtain ⟨e, -, rfl⟩ := List.mem_map.mp hx
      exact Finding.isInputNote_inputNote param e.1 (c.location e.2)
  · cases hx

theorem not_isInputNote_of_mem_unusedResult (hx : x ∈ unusedResult c f) :
    ¬ x.isInputNote = true := by
  intro hnote
  obtain ⟨text, htext⟩ := Finding.exists_text_of_isInputNote hnote
  exact Finding.ne_append (by decide) ((mem_unusedResult hx).2.2.symm.trans htext)

theorem not_isInputNote_of_mem_stringTypes (hx : x ∈ stringTypes c) :
    ¬ x.isInputNote = true := by
  intro hnote
  obtain ⟨text, htext⟩ := Finding.exists_text_of_isInputNote hnote
  exact Finding.ne_append (by decide) ((mem_stringTypes hx).2.2.symm.trans htext)

theorem filter_isInputNote_findings (c : Context) :
    (findings c).filter Finding.isInputNote =
      (c.function?.map (undeclaredInputs c)).getD [] := by
  have hambient : (ambientOutputs c).filter Finding.isInputNote = [] := by
    apply List.filter_eq_nil_iff.mpr
    intro x hx
    apply Finding.not_isInputNote_of_severity_ne
    rw [(mem_ambientOutputs hx).2]
    decide
  have hstring : (stringTypes c).filter Finding.isInputNote = [] :=
    List.filter_eq_nil_iff.mpr fun x hx => not_isInputNote_of_mem_stringTypes hx
  rw [findings_eq, List.filter_append, List.filter_append, List.filter_append, hambient,
    hstring]
  cases c.function? with
  | none => rfl
  | some f =>
      have hresult : (unusedResult c f).filter Finding.isInputNote = [] :=
        List.filter_eq_nil_iff.mpr fun x hx => not_isInputNote_of_mem_unusedResult hx
      have hinputs :
          (undeclaredInputs c f).filter Finding.isInputNote = undeclaredInputs c f :=
        List.filter_eq_self.mpr fun x hx => isInputNote_of_mem_undeclaredInputs hx
      simp only [Option.map_some, Option.getD_some, hresult, hinputs, List.nil_append]

end Heuristics

end Check

namespace Validator

open Check.Heuristics

variable {entryName object : String} {s : Script} {outputs : List Socket}
  {inputs : Option (List Socket)} {front back : List Node} {f p : Node}

/-- All notes of a result on inputs come from one check. -/
theorem filter_isInputNote_judge (rules : List Rule) (hs : s.rejection? = none) :
    ((ofRules rules entryName).judge s outputs inputs).findings.filter
      Finding.isInputNote =
      ((Context.ofScript s entryName outputs inputs).function?.map
        (undeclaredInputs (.ofScript s entryName outputs inputs))).getD [] := by
  have hstructure :
      (Check.Structure.findings (.ofScript s entryName outputs inputs)).filter
      Finding.isInputNote = [] :=
    List.filter_eq_nil_iff.mpr fun x hx => Check.Structure.not_isInputNote_of_mem hx
  have hcoverage : (Check.Coverage.findings (.ofScript s entryName outputs inputs)).filter
      Finding.isInputNote = [] := by
    apply List.filter_eq_nil_iff.mpr
    intro x hx
    apply Finding.not_isInputNote_of_kind_ne
    rw [Check.Coverage.kind_of_mem hx]
    decide
  have hscan : (Rule.scan (Rule.withBuiltin rules)
      (Context.ofScript s entryName outputs inputs).source).filter
      Finding.isInputNote = [] := by
    apply List.filter_eq_nil_iff.mpr
    intro x hx
    apply Finding.not_isInputNote_of_kind_ne
    rw [(Rule.kind_of_mem_scan hx).1]
    decide
  rw [judge_ofRules_of_none hs, Check.report, List.filter_append, List.filter_append,
    List.filter_append, hstructure, hcoverage, hscan, List.nil_append, List.nil_append,
    List.nil_append, filter_isInputNote_findings]

/-- If the first parameter of the entry function is a plain name, the notes on inputs tell
each name that the body reads from it and that is no input, once and where it is first
read. In a tree that is laid out they stand in the order of the text. Without inputs there
are no notes. -/
theorem undeclared_inputs_noted (rules : List Rule) (outputs : List Socket)
    (hs : s.rejection? = none) (htop : s.topLevel = front ++ f :: back)
    (hf : f.Declares s.source entryName)
    (hback : ∀ n ∈ back, ¬ n.Declares s.source entryName) (hp : f.params[0]? = some p)
    (hplain : p.IsPlain s.source object) :
    (∀ inputs, ∃ noted, Noted s.source object inputs f.bodySites noted ∧
      ((ofRules rules entryName).judge s outputs (some inputs)).findings.filter
          Finding.isInputNote =
        noted.map (fun e => .inputNote object e.1 (e.2.location s.source)) ∧
      (s.LaidOut → NotedInOrder s.source object f.bodySites noted)) ∧
    ((ofRules rules entryName).judge s outputs none).findings.filter
      Finding.isInputNote = [] := by
  have hfunction (inputs : Option (List Socket)) :
      (Context.ofScript s entryName outputs inputs).function? = some f :=
    Context.function?_of_last htop hf hback
  constructor
  · intro inputs
    rw [filter_isInputNote_judge rules hs, hfunction, Option.map_some, Option.getD_some]
    refine ⟨_, noted_firsts s.source object inputs f.bodySites,
      undeclaredInputs_eq hp hplain rfl, ?_⟩
    intro hlaid
    have hroot : f ∈ s.root.preorderAll := by
      apply Script.mem_preorderAll_of_mem_topLevel
      rw [htop]
      exact List.mem_append_right front List.mem_cons_self
    exact notedInOrder_firsts (inOrder_bodySites hlaid hroot)
  · rw [filter_isInputNote_judge rules hs, hfunction]
    rfl

end Validator

namespace Script

def pointAccess (role : Option Role) (start : Nat) : Node :=
  .onLine .memberExpression role start (start + 3) [
    .onLine .identifier (some .object) start (start + 1) [],
    .onLine (.token ".") none (start + 1) (start + 2) [],
    .onLine .propertyIdentifier (some .property) (start + 2) (start + 3) []]

def bracketAccess (start : Nat) : Node :=
  .onLine .subscriptExpression none start (start + 6) [
    .onLine .identifier (some .object) start (start + 1) [],
    .onLine (.token "[") none (start + 1) (start + 2) [],
    .onLine .string (some .index) (start + 2) (start + 5) [
      .onLine (.token "'") none (start + 2) (start + 3) [],
      .onLine .stringFragment none (start + 3) (start + 4) [],
      .onLine (.token "'") none (start + 4) (start + 5) []],
    .onLine (.token "]") none (start + 5) (start + 6) []]

def readingEntry : Node :=
  .onLine .functionDeclaration none 0 63 [
    .onLine (.token "function") none 0 8 [],
    .onLine .identifier (some .name) 9 20 [],
    .onLine (.other "formal_parameters") (some .parameters) 20 23 [
      .onLine (.token "(") none 20 21 [],
      .onLine .identifier none 21 22 [],
      .onLine (.token ")") none 22 23 []],
    .onLine .statementBlock (some .body) 24 63 [
      .onLine (.token "\x7b") none 24 25 [],
      .onLine (.other "expression_statement") none 26 43 [
        .onLine .callExpression none 26 42 [
          pointAccess (some .function) 26,
          .onLine (.other "arguments") (some (.other "arguments")) 29 42 [
            .onLine (.token "(") none 29 30 [],
            bracketAccess 30,
            .onLine (.token ",") none 36 37 [],
            pointAccess none 38,
            .onLine (.token ")") none 41 42 []]],
        .onLine (.token ";") none 42 43 []],
      .onLine .returnStatement none 44 61 [
        .onLine (.token "return") none 44 50 [],
        .onLine (.other "binary_expression") none 51 60 [
          pointAccess (some .left) 51,
          .onLine (.token "+") (some (.other "operator")) 55 56 [],
          pointAccess (some (.other "right")) 57],
        .onLine (.token ";") none 60 61 []],
      .onLine (.token "\x7d") none 62 63 []]]

/-- A script that calls `i.a` before it reads it, and that reads `i.b` twice. -/
def reading : Script where
  source := "function processData(i) \x7b i.a(i['b'], i.a); return i.b + i.c; \x7d".toList
  root := .onLine .program none 0 63 [readingEntry]
  flawed := false

theorem reading_laidOut : reading.LaidOut := .of_take (by decide) (by decide) (by decide)

end Script

namespace Validator

theorem undeclared_inputs_noted_in_reading :
    Script.reading.rejection? = none ∧
    ((ofRules [] "processData").judge .reading [] (some [⟨"c", .any⟩])).findings.filter
        Finding.isInputNote =
      [.inputNote "i" "b" ⟨1, 31⟩, .inputNote "i" "a" ⟨1, 39⟩] ∧
    ∃ noted, Script.Noted Script.reading.source "i" [⟨"c", .any⟩]
        Script.readingEntry.bodySites noted ∧
      ((ofRules [] "processData").judge .reading [] (some [⟨"c", .any⟩])).findings.filter
          Finding.isInputNote =
        noted.map (fun e => .inputNote "i" e.1 (e.2.location Script.reading.source)) ∧
      Script.NotedInOrder Script.reading.source "i"
        Script.readingEntry.bodySites noted := by
  have hs : Script.reading.rejection? = none := by
    rw [rejection?_eq_none_iff rfl]
    exact ⟨rfl, by decide, by decide⟩
  have htop : Script.reading.topLevel = [] ++ Script.readingEntry :: [] := rfl
  have hf : Script.readingEntry.Declares Script.reading.source "processData" :=
    ⟨rfl, _, rfl, by decide⟩
  have hback : ∀ n ∈ ([] : List Node), ¬ n.Declares Script.reading.source "processData" :=
    fun _ hn => absurd hn List.not_mem_nil
  obtain ⟨hnotes, -⟩ := undeclared_inputs_noted [] [] hs htop hf hback rfl ⟨rfl, rfl⟩
  obtain ⟨noted, hnoted, hfindings, hordered⟩ := hnotes [⟨"c", .any⟩]
  refine ⟨hs, ?_, noted, hnoted, hfindings, hordered Script.reading_laidOut⟩
  rw [filter_isInputNote_judge [] hs]
  rfl

end Validator

end ScriptLint
