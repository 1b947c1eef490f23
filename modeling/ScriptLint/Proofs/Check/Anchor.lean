import ScriptLint.Proofs.Check.Comments
import ScriptLint.Proofs.Check.Note
import ScriptLint.Proofs.Check.Numbering
import ScriptLint.Proofs.Script.Rejection
import ScriptLint.Proofs.Validator.Errors

namespace ScriptLint

open ScriptLint.Script ScriptLint.Text

/-! What findings point to: the first line, a line of the text, the line of a node, or a
node. Only what is said of a top-level return and of an undeclared input points to a
node. -/

/-- A line, and a column if there is one, that a finding on a script can have. -/
inductive Script.Anchors (s : Script) : Option Nat → Option Nat → Prop
  | top : Anchors s (some 1) none
  | line {k : Nat} {line : List Char} (hline : (lines s.source)[k]? = some line) :
      Anchors s (some (k + 1)) none
  | row {n : Node} (hn : n ∈ s.root.preorderAll) :
      Anchors s (some (n.location s.source).line) none
  | node {n : Node} (hn : n ∈ s.root.preorderAll) :
      Anchors s (some (n.location s.source).line) (some (n.location s.source).column)

namespace Finding

/-- Whether a finding is the error on a return outside of the entry function. -/
def isReturnError (entryName : String) (x : Finding) : Bool :=
  x.kind == .syntaxError && x.severity == .error &&
    x.message == s!"\x60return\x60 must be inside \x60{entryName}\x60; " ++
      "top-level return statements are not allowed"

/-- The findings on a script that show a node and not only a line. -/
def Pinpoints (entryName : String) (x : Finding) : Prop :=
  x.isReturnError entryName = true ∨
    ∃ param name, x.isUndeclaredNote param name = true

theorem not_pinpoints {entryName : String} {x : Finding} (hkind : x.kind ≠ .syntaxError)
    (hnote : ∀ param name, x.isUndeclaredNote param name = false) :
    ¬ x.Pinpoints entryName := by
  rintro (herror | ⟨param, name, h⟩)
  · simp [isReturnError, hkind] at herror
  · rw [hnote] at h
    cases h

end Finding

/-- A finding has a place in the script, and a column only if it shows a node. -/
structure Context.Anchored (c : Context) (x : Finding) : Prop where
  place : c.script.Anchors x.line x.column
  column : x.column.isSome ↔ x.Pinpoints c.entryName

namespace Context

variable {c : Context} {f : Node} {x : Finding}

theorem Anchored.of_none (hplace : c.script.Anchors x.line none)
    (hcolumn : x.column = none) (hkind : x.kind ≠ .syntaxError)
    (hnote : ∀ param name, x.isUndeclaredNote param name = false) : c.Anchored x where
  place := hcolumn ▸ hplace
  column := by simp [hcolumn, Finding.not_pinpoints hkind hnote]

theorem mem_topLevel_of_function? {s : Script} {entryName : String} {outputs : List Socket}
    {inputs : Option (List Socket)}
    (hf : (ofScript s entryName outputs inputs).function? = some f) : f ∈ s.topLevel :=
  List.mem_of_mem_filter (List.mem_of_getLast? hf)

end Context

theorem Script.mem_preorderAll_of_mem_topLevel {s : Script} {n : Node}
    (hn : n ∈ s.topLevel) : n ∈ s.root.preorderAll :=
  Node.mem_preorderAll_of_mem_namedChildren (List.mem_of_mem_filter hn)

theorem Script.Node.mem_preorderAll_of_body {f body n : Node} (hbody : f.body? = some body)
    (hn : n ∈ body.preorder) : n ∈ f.preorderAll :=
  mem_preorderAll_of_child (mem_children_of_child? hbody)
    (mem_preorderAll_of_mem_preorder hn)

namespace Check

variable {c : Context} {f : Node} {x : Finding}

/-! ### The entry function -/

namespace Structure

theorem place_of_mem_repeated {line : Nat} (hx : x ∈ repeated c line) :
    x.line = some line ∧ x.column = none := by
  by_cases hcount : c.entry.declarations.length > 1
  · rw [repeated, if_pos hcount] at hx
    obtain rfl := List.mem_singleton.mp hx
    exact ⟨rfl, rfl⟩
  · rw [repeated, if_neg hcount] at hx
    cases hx

theorem place_of_mem_fewParams {line : Nat} (hx : x ∈ fewParams c f line) :
    x.line = some line ∧ x.column = none := by
  unfold fewParams at hx
  split at hx
  · obtain rfl := List.mem_singleton.mp hx
    exact ⟨rfl, rfl⟩
  · split at hx
    · obtain rfl := List.mem_singleton.mp hx
      exact ⟨rfl, rfl⟩
    · cases hx
  · cases hx

theorem anchored_of_mem_entryFindings
    (hf : ∀ f, c.function? = some f → f ∈ c.script.topLevel) (hx : x ∈ entryFindings c) :
    c.Anchored x := by
  have hnote (param name : String) : x.isUndeclaredNote param name = false :=
    isUndeclaredNote_of_mem (List.mem_append_left _ hx)
  cases hfun : c.function? with
  | none =>
      rw [entryFindings, hfun] at hx
      obtain rfl := List.mem_singleton.mp hx
      have hkind : (missingEntry c).kind ≠ .syntaxError := by simp [missingEntry]
      exact .of_none .top rfl hkind hnote
  | some f =>
      have hplace : x.line = some (c.line f) ∧ x.column = none := by
        simp only [entryFindings, hfun, List.mem_append] at hx
        exact hx.elim place_of_mem_repeated place_of_mem_fewParams
      have hkind : x.kind ≠ .syntaxError := by
        rw [(mem_entryFindings_of_some hfun hx).1]
        decide
      refine .of_none ?_ hplace.2 hkind hnote
      rw [hplace.1]
      exact .row (mem_preorderAll_of_mem_topLevel (hf f hfun))

theorem anchored_of_mem_returns (hx : x ∈ (topLevelReturns c).map (returnFinding c)) :
    c.Anchored x := by
  obtain ⟨n, hn, rfl⟩ := List.mem_map.mp hx
  have herror : (returnFinding c n).isReturnError c.entryName = true := by
    simp [Finding.isReturnError, returnFinding, Finding.atLocation]
  exact ⟨.node (mem_preorderAll_of_mem_topLevel (List.mem_of_mem_filter hn)),
    iff_of_true rfl (.inl herror)⟩

theorem anchored_of_mem (hf : ∀ f, c.function? = some f → f ∈ c.script.topLevel)
    (hx : x ∈ findings c) : c.Anchored x := by
  rcases List.mem_append.mp hx with hentry | hreturn
  · exact anchored_of_mem_entryFindings hf hentry
  · exact anchored_of_mem_returns hreturn

end Structure

/-! ### The outputs -/

namespace Coverage

theorem exists_return_of_mem_returnedNames {source : List Char} {key : String × Nat}
    (hkey : key ∈ returnedNames source f) :
    ∃ n ∈ f.preorderAll, key.2 = (n.location source).line := by
  obtain ⟨⟨object, n⟩, hobject, hkey⟩ := List.mem_flatMap.mp hkey
  obtain ⟨k, -, rfl⟩ := List.mem_map.mp hkey
  unfold returnedObjects at hobject
  split at hobject
  · next body hbody =>
      obtain ⟨m, hm, hreturned⟩ := List.mem_filterMap.mp hobject
      split at hreturned
      · obtain ⟨o, -, heq⟩ := Option.map_eq_some_iff.mp hreturned
        obtain ⟨rfl, rfl⟩ := Prod.mk.inj heq
        exact ⟨m, Node.mem_preorderAll_of_body hbody hm, rfl⟩
      · cases hreturned
  · cases hobject

theorem anchored_of_mem (hf : ∀ f, c.function? = some f → f ∈ c.script.topLevel)
    (hx : x ∈ findings c) : c.Anchored x := by
  have hkind := kind_of_mem hx
  have hsyntax : x.kind ≠ .syntaxError := by
    rw [hkind]
    nofun
  have hnote (param name : String) : x.isUndeclaredNote param name = false :=
    Finding.isNote_of_kind_ne (by rw [hkind]; nofun)
  cases hfun : c.function? with
  | none =>
      rw [findings_of_none hfun] at hx
      cases hx
  | some f =>
      have hroot := mem_preorderAll_of_mem_topLevel (hf f hfun)
      by_cases houtputs : c.outputs = []
      · simp [findings, hfun, houtputs] at hx
      · rw [findings_of_some hfun houtputs, List.mem_append] at hx
        rcases hx with hmissing | hextra
        · obtain ⟨o, -, rfl⟩ := List.mem_map.mp hmissing
          exact .of_none (.row hroot) rfl hsyntax hnote
        · obtain ⟨key, hkey, rfl⟩ := List.mem_map.mp hextra
          have hname : key ∈ returnedNames c.source f :=
            (firsts_sublist _ _).mem (List.mem_of_mem_filter hkey)
          obtain ⟨n, hn, hline⟩ := exists_return_of_mem_returnedNames hname
          refine .of_none ?_ rfl hsyntax hnote
          rw [extraFinding, hline]
          exact .row (Node.mem_preorderAll_trans hn hroot)

end Coverage

/-! ### Lines -/

theorem anchored_of_mem_scan {rules : List Rule} (hx : x ∈ Rule.scan rules c.source) :
    c.Anchored x := by
  obtain ⟨k, line, hline, r, -, -, rfl⟩ := Rule.mem_scan_iff.mp hx
  exact .of_none (.line hline) rfl nofun fun _ _ => Finding.isNote_of_kind_ne nofun

namespace Heuristics

theorem anchors_of_mem_codeMatches {s : Script} {p : Pattern} {number : Nat}
    (h : number ∈ codeMatches s.source p) : s.Anchors (some number) none := by
  obtain ⟨⟨line, number⟩, hline, rfl⟩ := List.mem_map.mp h
  obtain ⟨k, hk, rfl⟩ :=
    mem_numbered_iff.mp (List.mem_of_mem_filter (List.mem_of_mem_filter hline))
  exact .line hk

theorem anchored_of_mem_ambientOutputs (hx : x ∈ ambientOutputs c) : c.Anchored x := by
  have hnote (param name : String) : x.isUndeclaredNote param name = false :=
    isNote_of_mem_ambientOutputs hx
  unfold ambientOutputs at hx
  split at hx
  · cases hx
  · next line hline =>
      split at hx
      · cases hx
      · obtain rfl := List.mem_singleton.mp hx
        exact .of_none (anchors_of_mem_codeMatches (List.mem_of_head? hline))
          rfl nofun hnote

theorem anchored_of_mem_unusedResult (hx : x ∈ unusedResult c f) : c.Anchored x := by
  have hnote (param name : String) : x.isUndeclaredNote param name = false :=
    isUndeclaredNote_of_mem_unusedResult hx
  unfold unusedResult at hx
  split at hx
  · cases hx
  · next line hline =>
      split at hx
      · cases hx
      · obtain rfl := List.mem_singleton.mp hx
        exact .of_none (anchors_of_mem_codeMatches (List.mem_of_head? hline))
          rfl nofun hnote

theorem anchored_of_mem_stringTypes (hx : x ∈ stringTypes c) : c.Anchored x := by
  have hnote (param name : String) : x.isUndeclaredNote param name = false :=
    isUndeclaredNote_of_mem_stringTypes hx
  obtain ⟨line, hline, rfl⟩ := List.mem_map.mp hx
  exact .of_none (anchors_of_mem_codeMatches hline) rfl nofun hnote

theorem mem_preorder_of_mem_reads {source : List Char} {object : String} {body : Node}
    {access : String × Node} (h : access ∈ reads source object body) :
    access.2 ∈ body.preorder := by
  obtain ⟨⟨called, n⟩, hn, haccess⟩ := List.mem_filterMap.mp h
  dsimp only at haccess
  split at haccess
  · obtain ⟨name, -, rfl⟩ := Option.map_eq_some_iff.mp haccess
    rw [← Node.map_snd_withCalled false body]
    exact List.mem_map_of_mem hn
  · cases haccess

theorem anchored_of_mem_undeclaredInputs (hf : f ∈ c.script.root.preorderAll)
    (hx : x ∈ undeclaredInputs c f) : c.Anchored x := by
  unfold undeclaredInputs at hx
  split at hx
  · next inputs param body hinputs hparam hbody =>
      obtain ⟨access, haccess, rfl⟩ := List.mem_map.mp hx
      have hread := mem_preorder_of_mem_reads ((firsts_sublist _ _).mem haccess)
      have hnote :
          (undeclaredFinding c param access).isUndeclaredNote param access.1 = true := by
        rw [isUndeclaredNote_undeclaredFinding, beq_self_eq_true]
      exact ⟨.node
        (Node.mem_preorderAll_trans (Node.mem_preorderAll_of_body hbody hread) hf),
        iff_of_true rfl (.inr ⟨_, _, hnote⟩)⟩
  · cases hx

theorem anchored_of_mem (hf : ∀ f, c.function? = some f → f ∈ c.script.topLevel)
    (hx : x ∈ findings c) : c.Anchored x := by
  have hfunction {part : Node → List Finding} (h : x ∈ (c.function?.map part).getD []) :
      ∃ f ∈ c.script.root.preorderAll, x ∈ part f := by
    cases hfun : c.function? with
    | none => simp [hfun] at h
    | some f =>
        exact ⟨f, mem_preorderAll_of_mem_topLevel (hf f hfun), by simpa [hfun] using h⟩
  rw [findings_eq, List.mem_append, List.mem_append, List.mem_append] at hx
  rcases hx with ((hambient | hresult) | hstring) | hinputs
  · exact anchored_of_mem_ambientOutputs hambient
  · obtain ⟨f, -, hresult⟩ := hfunction hresult
    exact anchored_of_mem_unusedResult hresult
  · exact anchored_of_mem_stringTypes hstring
  · obtain ⟨f, hroot, hinputs⟩ := hfunction hinputs
    exact anchored_of_mem_undeclaredInputs hroot hinputs

end Heuristics

theorem anchored_of_mem_report {rules : List Rule}
    (hf : ∀ f, c.function? = some f → f ∈ c.script.topLevel)
    (hx : x ∈ report rules c (Coverage.findings c) (Heuristics.findings c)) :
    c.Anchored x := by
  rcases mem_report.mp hx with hstructure | hcoverage | hscan | hheuristics
  · exact Structure.anchored_of_mem hf hstructure
  · exact Coverage.anchored_of_mem hf hcoverage
  · exact anchored_of_mem_scan hscan
  · exact Heuristics.anchored_of_mem hf hheuristics

end Check

/-! ### Rejections -/

theorem Script.exists_location_of_rejection? {s : Script} {r : Rejection}
    (hr : s.rejection? = some r) :
    ∃ n ∈ s.root.preorderAll, r.location = n.location s.source := by
  unfold rejection? at hr
  split at hr
  · obtain ⟨n, hn, rfl⟩ := Option.map_eq_some_iff.mp hr
    rw [Node.findAny?_eq] at hn
    obtain ⟨t, ht, hlocation⟩ := s.location_describe n
    exact ⟨t, Node.mem_preorderAll_trans ht (List.mem_of_find?_eq_some hn), hlocation⟩
  · split at hr
    · next e he =>
        obtain rfl := Option.some.inj hr
        exact ⟨e.node,
          EarlyError.node_mem_preorderAll (EarlyError.first?_eq_some_iff.mp he).mem,
          rfl⟩
    · split at hr
      · next n hn =>
          obtain rfl := Option.some.inj hr
          exact ⟨n, mem_preorderAll_of_mem_topLevel (List.mem_of_find?_eq_some hn), rfl⟩
      · obtain ⟨n, hn, rfl⟩ := Option.map_eq_some_iff.mp hr
        rw [Node.find?_eq] at hn
        exact ⟨n, Node.mem_preorderAll_of_mem_preorder (List.mem_of_find?_eq_some hn), rfl⟩

end ScriptLint
