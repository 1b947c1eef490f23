import ScriptLint.Proofs.Check.TopLevelReturns
import ScriptLint.Proofs.Check.UndeclaredInputs
import ScriptLint.Proofs.Script.Alike

namespace ScriptLint

open ScriptLint.Script ScriptLint.Text

/-! What is found of the outputs and inputs of a script depends on the last declaration of
its entry function alone. -/

/-- Whether a function is the last of its name at the top level. -/
def Script.LastDeclares (s : Script) (entryName : String) (f : Node) : Prop :=
  ∃ front back, s.topLevel = front ++ f :: back ∧ f.Declares s.source entryName ∧
    ∀ n ∈ back, ¬ n.Declares s.source entryName

theorem Script.LastDeclares.function? {s : Script} {entryName : String} {f : Node}
    (h : s.LastDeclares entryName f) (outputs : List Socket)
    (inputs : Option (List Socket)) :
    (Context.ofScript s entryName outputs inputs).function? = some f := by
  obtain ⟨front, back, htop, hf, hback⟩ := h
  exact Context.function?_of_last htop hf hback

namespace Check

variable {source source' : List Char} {f : Node} {s s' : Script} {entryName : String}
  {outputs : List Socket} {inputs : Option (List Socket)}

/-! ### Outputs -/

namespace Coverage

theorem returnedObjects_source (source source' : List Char) (f : Node) :
    returnedObjects source f = returnedObjects source' f := by
  rw [returnedObjects_eq, returnedObjects_eq]
  apply List.filterMap_congr
  intro n _
  simp only [beq_iff_eq, Node.construct_eq_return_iff]

theorem mem_preorderAll_of_mem_returnedObjects {p : Node × Node}
    (hp : p ∈ returnedObjects source f) : p.1 ∈ f.preorderAll ∧ p.2 ∈ f.preorderAll := by
  rw [returnedObjects_eq, List.mem_filterMap] at hp
  obtain ⟨n, hn, hp⟩ := hp
  have hmem : n ∈ f.preorderAll := by
    rw [bodyNodes] at hn
    cases hbody : f.body? with
    | none => simp [hbody] at hn
    | some body => exact Node.mem_preorderAll_of_body hbody (by simpa [hbody] using hn)
  split at hp
  · next hkind =>
      rw [beq_iff_eq, Node.construct_eq_return_iff] at hkind
      obtain ⟨o, ho, rfl⟩ := Option.map_eq_some_iff.mp hp
      have hobject := Node.mem_preorderAll_of_returnedObject? hkind ho
      exact ⟨Node.mem_preorderAll_trans hobject hmem, hmem⟩
  · cases hp

theorem returnedKeys_of_alike (h : f.Alike source source') :
    returnedKeys source f = returnedKeys source' f := by
  unfold returnedKeys returnedNames
  rw [returnedObjects_source source source']
  congr 1
  apply List.flatMap_congr
  intro p hp
  obtain ⟨hobject, hreturn⟩ := mem_preorderAll_of_mem_returnedObjects hp
  simp only [(h.of_mem hobject).keys_eq, (h.of_mem hreturn).location_eq]

theorem findings_of_alike (hf : s.LastDeclares entryName f)
    (hf' : s'.LastDeclares entryName f) (h : f.Alike s.source s'.source) :
    findings (.ofScript s entryName outputs inputs) =
      findings (.ofScript s' entryName outputs inputs) := by
  have hkeys : returnedKeys (Context.ofScript s entryName outputs inputs).source f =
      returnedKeys (Context.ofScript s' entryName outputs inputs).source f :=
    returnedKeys_of_alike h
  have hline : (Context.ofScript s entryName outputs inputs).line f =
      (Context.ofScript s' entryName outputs inputs).line f :=
        congrArg Location.line h.location_eq
  unfold findings
  simp only [hf.function? outputs inputs, hf'.function? outputs inputs, hkeys, hline]
  rfl

end Coverage

/-! ### Inputs -/

namespace Heuristics

theorem read?_of_alike {t : Site} (object : String) (h : t.node.Alike source source') :
    read? source object t = read? source' object t := by
  have hmember :
      (t.node.construct source == .member) = (t.node.construct source' == .member) := by
    rw [Bool.eq_iff_iff, beq_iff_eq, beq_iff_eq, Node.construct_eq_member_iff,
      Node.construct_eq_member_iff]
  rw [read?, read?, hmember, h.objectName?_eq, h.propertyName?_eq]

theorem reads_of_alike {body : Node} (object : String) (h : body.Alike source source') :
    reads source object body = reads source' object body := by
  rw [reads_eq, reads_eq]
  apply List.filterMap_congr
  intro t ht
  have hnode : t.node ∈ body.preorder := by
    rw [← Node.map_node_sites none [] body]
    exact List.mem_map_of_mem ht
  exact read?_of_alike object (h.of_mem (Node.mem_preorderAll_of_mem_preorder hnode))

theorem undeclaredInputs_of_alike (h : f.Alike s.source s'.source) :
    undeclaredInputs (.ofScript s entryName outputs inputs) f =
      undeclaredInputs (.ofScript s' entryName outputs inputs) f := by
  have hparam : f.paramName? (Context.ofScript s entryName outputs inputs).source 0 =
      f.paramName? (Context.ofScript s' entryName outputs inputs).source 0 :=
        h.paramName?_eq 0
  unfold undeclaredInputs
  rw [hparam]
  cases inputs with
  | none => rfl
  | some inputs =>
      cases f.paramName?
        (Context.ofScript s' entryName outputs (some inputs)).source 0 with
      | none => rfl
      | some object =>
          cases hbody : f.body? with
          | none => rfl
          | some body =>
              have hmem {n : Node} (hn : n ∈ body.preorder) : n.Alike s.source s'.source :=
                h.of_mem (Node.mem_preorderAll_of_body hbody hn)
              change (firsts (inputs.map (·.name)) (reads s.source object body)).map _ =
                (firsts (inputs.map (·.name)) (reads s'.source object body)).map _
              rw [reads_of_alike object (hmem (Node.self_mem_preorder body))]
              apply List.map_congr_left
              intro access haccess
              have hread := mem_preorder_of_mem_reads ((firsts_sublist _ _).mem haccess)
              have hplace : access.2.location s.source = access.2.location s'.source :=
                (hmem hread).location_eq
              exact congrArg _ hplace

end Heuristics

end Check

namespace Validator

/-- In two scripts with the same last declaration of the entry function, alike in both, the
same is found of the outputs and noted of the inputs: it is the function that all checks
look at. -/
theorem last_declaration_decides {s s' : Script} {entryName : String} {f : Node}
    (rules : List Rule) (outputs : List Socket) (inputs : Option (List Socket))
    (hs : s.rejection? = none) (hs' : s'.rejection? = none)
    (hf : s.LastDeclares entryName f) (hf' : s'.LastDeclares entryName f)
    (halike : f.Alike s.source s'.source) :
    ((Context.ofScript s entryName outputs inputs).function? = some f ∧
      (Context.ofScript s' entryName outputs inputs).function? = some f) ∧
    Check.coverage.run (.ofScript s entryName outputs inputs) =
      Check.coverage.run (.ofScript s' entryName outputs inputs) ∧
    ((ofRules rules entryName).judge s outputs inputs).findings.filter
        (fun x => x.kind == .outputMismatch) =
      ((ofRules rules entryName).judge s' outputs inputs).findings.filter
        (fun x => x.kind == .outputMismatch) ∧
    ((ofRules rules entryName).judge s outputs inputs).findings.filter
      Finding.isInputNote =
      ((ofRules rules entryName).judge s' outputs inputs).findings.filter
        Finding.isInputNote := by
  have hcoverage : Check.Coverage.findings (.ofScript s entryName outputs inputs) =
      Check.Coverage.findings (.ofScript s' entryName outputs inputs) :=
    Check.Coverage.findings_of_alike hf hf' halike
  have hinputs :
      Check.Heuristics.undeclaredInputs (.ofScript s entryName outputs inputs) f =
      Check.Heuristics.undeclaredInputs (.ofScript s' entryName outputs inputs) f :=
    Check.Heuristics.undeclaredInputs_of_alike halike
  refine ⟨⟨hf.function? outputs inputs, hf'.function? outputs inputs⟩, ?_, ?_, ?_⟩
  · exact congrArg Except.ok hcoverage
  · rw [filter_judge rules hs, filter_judge rules hs', hcoverage]
  · rw [filter_isInputNote_judge rules hs, filter_isInputNote_judge rules hs',
      hf.function?, hf'.function?, Option.map_some, Option.map_some, hinputs]

end Validator

namespace Script

def lastEntry : Node :=
  .onLine .functionDeclaration none 52 98 [
    .onLine (.token "function") none 52 60 [],
    .onLine .identifier (some .name) 61 72 [],
    .onLine (.other "formal_parameters") (some .parameters) 72 75 [
      .onLine (.token "(") none 72 73 [],
      .onLine .identifier none 73 74 [],
      .onLine (.token ")") none 74 75 []],
    .onLine .statementBlock (some .body) 76 98 [
      .onLine (.token "\x7b") none 76 77 [],
      .onLine .returnStatement none 78 96 [
        .onLine (.token "return") none 78 84 [],
        .onLine .object none 85 95 [
          .onLine (.token "\x7b") none 85 86 [],
          .onLine .pair none 87 93 [
            .onLine .propertyIdentifier (some .key) 87 88 [],
            .onLine (.token ":") none 88 89 [],
            pointAccess (some .value) 90],
          .onLine (.token "\x7d") none 94 95 []],
        .onLine (.token ";") none 95 96 []],
      .onLine (.token "\x7d") none 97 98 []]]

def lastText : List Char :=
  "function processData(i) \x7b return \x7b a: i.x \x7d; \x7d".toList

def repeatedText : List Char :=
  "function processData(i, p) \x7b return \x7b\x7d; \x7d return 1; ".toList

/-- A script that declares its function twice and returns between the declarations. -/
def overriding : Script where
  source := repeatedText ++ lastText
  root := .onLine .program none 0 98 [emptyEntry 0, outerReturn 42, lastEntry]
  flawed := false

/-- The last declaration by itself, at the same place. -/
def declaringOnce : Script where
  source := List.replicate 52 ' ' ++ lastText
  root := .onLine .program none 52 98 [lastEntry]
  flawed := false

theorem lastEntry_alike : lastEntry.Alike overriding.source declaringOnce.source := by
  have hs : overriding.LaidOut := .of_take (by decide) (by decide) (by decide)
  have hs' : declaringOnce.LaidOut := .of_take (by decide) (by decide) (by decide)
  have hsource : overriding.source = repeatedText ++ lastText ++ [] := rfl
  have hsource' : declaringOnce.source = List.replicate 52 ' ' ++ lastText ++ [] := rfl
  have hf : lastEntry ∈ overriding.root.preorderAll :=
    mem_preorderAll_of_mem_topLevel (List.mem_of_getElem? (i := 2) rfl)
  have hf' : lastEntry ∈ declaringOnce.root.preorderAll :=
    mem_preorderAll_of_mem_topLevel (List.mem_of_getElem? (i := 0) rfl)
  exact hs.alike hs' hf hf' hsource hsource' rfl rfl rfl rfl

end Script

namespace Validator

theorem last_declaration_decides_behind_others :
    ((ofRules [] "processData").judge .overriding [⟨"b", .any⟩] (some [])).findings.filter
        (fun x => x.kind == .outputMismatch) =
      ((ofRules [] "processData").judge .declaringOnce [⟨"b", .any⟩]
        (some [])).findings.filter
        (fun x => x.kind == .outputMismatch) ∧
    ((ofRules [] "processData").judge .overriding [⟨"b", .any⟩] (some [])).findings.filter
        Finding.isInputNote =
      ((ofRules [] "processData").judge .declaringOnce [⟨"b", .any⟩]
        (some [])).findings.filter
        Finding.isInputNote ∧
    ((ofRules [] "processData").judge .declaringOnce [⟨"b", .any⟩]
      (some [])).findings.filter
        Finding.isInputNote = [.inputNote "i" "x" ⟨1, 91⟩] := by
  have hs : Script.overriding.rejection? = none := by
    rw [rejection?_eq_none_iff rfl]
    exact ⟨rfl, by decide, by decide⟩
  have hs' : Script.declaringOnce.rejection? = none := by
    rw [rejection?_eq_none_iff rfl]
    exact ⟨rfl, by decide, by decide⟩
  have hf : Script.overriding.LastDeclares "processData" Script.lastEntry :=
    ⟨[Script.emptyEntry 0, Script.outerReturn 42], [], rfl,
      ⟨rfl, _, rfl, by decide⟩, nofun⟩
  have hf' : Script.declaringOnce.LastDeclares "processData" Script.lastEntry :=
    ⟨[], [], rfl, ⟨rfl, _, rfl, by decide⟩, nofun⟩
  obtain ⟨-, -, hcoverage, hinputs⟩ :=
    last_declaration_decides [] [⟨"b", .any⟩] (some []) hs hs'
    hf hf' Script.lastEntry_alike
  refine ⟨hcoverage, hinputs, ?_⟩
  rw [filter_isInputNote_judge [] hs']
  rfl

end Validator

end ScriptLint
