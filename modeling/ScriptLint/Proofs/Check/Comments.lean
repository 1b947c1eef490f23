import ScriptLint.Check.Heuristics
import ScriptLint.Proofs.Check.Firsts
import ScriptLint.Proofs.Script.Comments.Declarations
import ScriptLint.Proofs.Script.Comments.Syntax

namespace ScriptLint

open ScriptLint.Script ScriptLint.Script.Node

/-! The checks of the tree find the same in a script with its comments and without them. -/

def Script.withoutComments (s : Script) : Script :=
  { s with root := s.root.withoutComments }

def Entry.withoutComments (e : Entry) : Entry :=
  ⟨e.declarations.map Node.withoutComments, e.binding?.map Node.withoutComments⟩

def Context.withoutComments (c : Context) : Context :=
  { c with script := c.script.withoutComments, entry := c.entry.withoutComments }

variable {source : List Char} {s : Script} {f : Node} {name : String}

/-! ### The entry function -/

theorem Script.topLevel_withoutComments (s : Script) :
    s.withoutComments.topLevel = s.topLevel.map Node.withoutComments :=
  statements_withoutComments s.root

namespace Entry

theorem isDeclaration_withoutComments (h : f.CommentsBare) :
    isDeclaration source name f.withoutComments = isDeclaration source name f := by
  rw [isDeclaration, isDeclaration, construct_withoutComments h,
    functionName?_withoutComments h]

theorem declarator?_withoutComments (h : f.CommentsBare) :
    declarator? source name f.withoutComments =
      (declarator? source name f).map Node.withoutComments := by
  rw [declarator?, declarator?, kind_withoutComments, namedChildren_withoutComments]
  split
  · refine find?_dropComments (fun c hc hcomment => ?_) fun c _ hcomment => ?_
    · rw [construct_withoutComments (h.child (mem_namedChildren.mp hc).1 hcomment)]
    · rw [construct_of_isComment hcomment]
      rfl
  · rfl

theorem locate_withoutComments (h : s.root.CommentsBare) (name : String) :
    locate s.withoutComments name = (locate s name).withoutComments := by
  have hdeclarations : (s.topLevel.map Node.withoutComments).filter
        (isDeclaration s.source name) =
      (s.topLevel.filter (isDeclaration s.source name)).map Node.withoutComments := by
    rw [List.filter_map]
    congr 1
    exact List.filter_congr fun n hn => isDeclaration_withoutComments (h.statement hn)
  have hbinding : (s.topLevel.map Node.withoutComments).findSome?
        (declarator? s.source name) =
      (s.topLevel.findSome? (declarator? s.source name)).map Node.withoutComments := by
    rw [← List.head?_filterMap, ← List.head?_filterMap, List.filterMap_map,
      ← List.head?_map, List.map_filterMap]
    congr 1
    exact List.filterMap_congr fun n hn => declarator?_withoutComments (h.statement hn)
  rw [locate, Script.topLevel_withoutComments]
  exact congrArg₂ Entry.mk hdeclarations hbinding

theorem function?_withoutComments (e : Entry) :
    e.withoutComments.function? = e.function?.map Node.withoutComments :=
  List.getLast?_map

theorem commentsBare_of_function? (h : s.root.CommentsBare)
    (hf : (locate s name).function? = some f) : f.CommentsBare :=
  h.statement (List.mem_of_mem_filter (List.mem_of_getLast? hf))

end Entry

namespace Context

variable {c : Context}

theorem ofScript_withoutComments (h : s.root.CommentsBare) (name : String)
    (outputs : List Socket) (inputs : Option (List Socket)) :
    ofScript s.withoutComments name outputs inputs =
      (ofScript s name outputs inputs).withoutComments := by
  rw [ofScript, Entry.locate_withoutComments h]
  rfl

theorem function?_withoutComments (c : Context) :
    c.withoutComments.function? = c.function?.map Node.withoutComments :=
  c.entry.function?_withoutComments

theorem location_withoutComments (c : Context) (n : Node) :
    c.withoutComments.location n.withoutComments = c.location n :=
  Node.location_withoutComments n

theorem line_withoutComments (c : Context) (n : Node) :
    c.withoutComments.line n.withoutComments = c.line n := by
  rw [line, location_withoutComments]
  rfl

end Context

namespace Check

variable {c : Context} {body : Node}

/-! ### The check of the entry function -/

namespace Structure

theorem missingEntry_withoutComments (c : Context) :
    missingEntry c.withoutComments = missingEntry c := by
  have hbinding :
      c.withoutComments.entry.binding? = c.entry.binding?.map Node.withoutComments :=
    rfl
  unfold missingEntry
  rw [hbinding]
  cases c.entry.binding? with
  | none => rfl
  | some b =>
      simp only [Option.map_some, Context.line_withoutComments]
      rfl

theorem repeated_withoutComments (c : Context) (line : Nat) :
    repeated c.withoutComments line = repeated c line := by
  have hcount :
      c.withoutComments.entry.declarations.length = c.entry.declarations.length :=
    List.length_map ..
  unfold repeated
  rw [hcount]
  rfl

theorem usesProperties_withoutComments (h : f.CommentsBare) :
    usesProperties source f.withoutComments = usesProperties source f := by
  rw [usesProperties, usesProperties, body?_withoutComments h]
  cases hbody : f.body? with
  | none => rfl
  | some body =>
      have hbare : body.CommentsBare := h.child? hbody
      dsimp only [Option.map_some]
      rw [preorder_withoutComments hbare]
      refine any_dropComments (fun n hn hcomment => ?_) fun n _ hcomment => ?_
      · rw [construct_withoutComments (hbare.of_mem_preorder hn hcomment)]
      · rw [construct_of_isComment hcomment]
        rfl

theorem fewParams_withoutComments (h : f.CommentsBare) (line : Nat) :
    fewParams c.withoutComments f.withoutComments line = fewParams c f line := by
  have huses : usesProperties c.withoutComments.source f.withoutComments =
      usesProperties c.source f := usesProperties_withoutComments h
  unfold fewParams
  rw [params_withoutComments h, List.length_map, huses]
  rfl

theorem topLevelReturns_withoutComments (h : c.script.root.CommentsBare) :
    topLevelReturns c.withoutComments = (topLevelReturns c).map Node.withoutComments := by
  have htop :
      c.withoutComments.script.topLevel = c.script.topLevel.map Node.withoutComments :=
    c.script.topLevel_withoutComments
  rw [topLevelReturns, htop, List.filter_map]
  congr 1
  refine List.filter_congr fun n hn => ?_
  exact congrArg (· == Construct.return) (construct_withoutComments (h.statement hn))

theorem findings_withoutComments (h : c.script.root.CommentsBare)
    (hf : ∀ f, c.function? = some f → f.CommentsBare) :
    findings c.withoutComments = findings c := by
  have hentry : entryFindings c.withoutComments = entryFindings c := by
    rw [entryFindings, entryFindings, Context.function?_withoutComments]
    cases hfun : c.function? with
    | none => exact congrArg ([·]) (missingEntry_withoutComments c)
    | some f =>
        simp only [Option.map_some, Context.line_withoutComments, repeated_withoutComments,
          fewParams_withoutComments (hf f hfun)]
  rw [findings, findings, hentry, topLevelReturns_withoutComments h, List.map_map]
  congr 2
  funext n
  simp only [Function.comp_apply, returnFinding, Context.location_withoutComments]
  rfl

end Structure

/-! ### The check of the outputs -/

namespace Coverage

theorem returnedObjects_withoutComments (h : f.CommentsBare) :
    returnedObjects source f.withoutComments =
      (returnedObjects source f).map
        (Prod.map Node.withoutComments Node.withoutComments) := by
  rw [returnedObjects, returnedObjects, body?_withoutComments h]
  cases hbody : f.body? with
  | none => rfl
  | some body =>
      have hbare : body.CommentsBare := h.child? hbody
      dsimp only [Option.map_some]
      rw [preorder_withoutComments hbare, List.map_filterMap]
      refine filterMap_dropComments (fun n hn hcomment => ?_) fun n _ hcomment => ?_
      · rw [construct_withoutComments (hbare.of_mem_preorder hn hcomment),
          returnedObject?_withoutComments]
        split
        · cases n.returnedObject? <;> rfl
        · rfl
      · rw [construct_of_isComment hcomment]
        rfl

theorem commentsBare_of_mem_returnedObjects (h : f.CommentsBare) {o : Node × Node}
    (ho : o ∈ returnedObjects source f) : o.1.CommentsBare := by
  unfold returnedObjects at ho
  split at ho
  · rename_i body hbody
    obtain ⟨n, hn, hobject⟩ := List.mem_filterMap.mp ho
    split at hobject
    · rename_i hreturn
      obtain ⟨a, ha, rfl⟩ := Option.map_eq_some_iff.mp hobject
      have hcomment : n.isComment = false := by
        cases hcomment : n.isComment with
        | false => rfl
        | true =>
            rw [construct_of_isComment hcomment] at hreturn
            cases hreturn
      exact ((h.child? hbody).of_mem_preorder hn hcomment).returnedObject ha
    · cases hobject
  · cases ho

theorem returnedNames_withoutComments (h : f.CommentsBare) :
    returnedNames source f.withoutComments = returnedNames source f := by
  rw [returnedNames, returnedObjects_withoutComments h, List.flatMap_map]
  apply List.flatMap_congr
  rintro ⟨object, statement⟩ ho
  simp only [Prod.map_apply, Node.location_withoutComments,
    keys_withoutComments (commentsBare_of_mem_returnedObjects h ho)]

theorem findings_withoutComments (hf : ∀ f, c.function? = some f → f.CommentsBare) :
    findings c.withoutComments = findings c := by
  rw [findings, findings, Context.function?_withoutComments]
  cases hfun : c.function? with
  | none => rfl
  | some f =>
      have hkeys : returnedKeys c.withoutComments.source f.withoutComments =
          returnedKeys c.source f :=
        congrArg (firsts []) (returnedNames_withoutComments (hf f hfun))
      simp only [Option.map_some, hkeys, Context.line_withoutComments]
      rfl

end Coverage

end Check

/-! ### The check for frequent mistakes -/

namespace Script.Node

variable {n c : Node} {cs : List Node}

theorem withCalled_eq (called : Bool) (n : Node) :
    n.withCalled called =
      (called, n) :: withCalledList (n.kind == .callExpression) n.children := by
  cases n
  rfl

theorem withCalledList_dropComments
    (hcs : ∀ c ∈ cs, c.isComment = true → c.children = [] ∧ c.role = none)
    (ih : ∀ c ∈ cs, c.isComment = false → ∀ called,
      c.withoutComments.withCalled called =
        ((c.withCalled called).filter fun v => !v.2.isComment).map
          (Prod.map id withoutComments))
    (call : Bool) :
    withCalledList call (dropComments cs) =
      ((withCalledList call cs).filter fun v => !v.2.isComment).map
        (Prod.map id withoutComments) := by
  induction cs generalizing call with
  | nil => rfl
  | cons c cs ihcs =>
      have hrest := ihcs (fun d hd => hcs d (List.mem_cons_of_mem _ hd))
        fun d hd => ih d (List.mem_cons_of_mem _ hd)
      cases hc : c.isComment with
      | true =>
          obtain ⟨hleaf, hrole⟩ := hcs c List.mem_cons_self hc
          have hself : c.withCalled false = [(false, c)] := by
            rw [withCalled_eq, hleaf]
            rfl
          -- A comment plays no role, so the function of a call is still to come behind it.
          have hlist :
              withCalledList call (c :: cs) = (false, c) :: withCalledList call cs := by
            simp [withCalledList, hrole, hself, isNamed, kind_eq_of_isComment hc,
              Kind.isNamed]
          rw [dropComments, if_pos hc, hrest, hlist,
            List.filter_cons_of_neg (by simp [hc])]
      | false =>
          have hhead := ih c List.mem_cons_self hc
          rw [dropComments, if_neg (by simp [hc])]
          simp only [withCalledList, isNamed_withoutComments, role_withoutComments, hrest,
            hhead, List.filter_append, List.map_append]
          split <;> rfl

/-- What is called stays so, and the nodes stay in their order. -/
theorem withCalled_withoutComments (h : n.CommentsBare) (called : Bool) :
    n.withoutComments.withCalled called =
      ((n.withCalled called).filter fun v => !v.2.isComment).map
        (Prod.map id withoutComments) := by
  induction n using induct generalizing called with
  | h n ih =>
      rw [withCalled_eq, withCalled_eq called n,
        List.filter_cons_of_pos (by simp [h.rooted]), List.map_cons, kind_withoutComments,
        children_withoutComments]
      congr 1
      refine withCalledList_dropComments (fun c hc hcomment => ?_)
        (fun c hc hcomment => ?_) _
      · exact ⟨h.leaf_child hc hcomment, h.role_child hc hcomment⟩
      · exact ih c hc (h.child hc hcomment)

theorem map_snd_withCalled (called : Bool) (n : Node) :
    (n.withCalled called).map (·.2) = n.preorder := by
  induction n using induct generalizing called with
  | h n ih =>
      have hlist (cs : List Node) (hcs : ∀ c ∈ cs, c ∈ n.children) (call : Bool) :
          (withCalledList call cs).map (·.2) = (cs.filter isNamed).flatMap preorder := by
        induction cs generalizing call with
        | nil => rfl
        | cons c cs ihcs =>
            have hrest := ihcs fun d hd => hcs d (List.mem_cons_of_mem _ hd)
            rw [withCalledList, List.map_append, hrest]
            split
            · rename_i hnamed
              rw [ih c (hcs c List.mem_cons_self), List.filter_cons_of_pos hnamed,
                List.flatMap_cons]
            · rename_i hnamed
              rw [List.filter_cons_of_neg hnamed]
              rfl
      rw [withCalled_eq, preorder_eq, List.map_cons, hlist n.children fun c hc => hc]
      rfl

end Script.Node

namespace Check.Heuristics

variable {c : Context} {body : Node} {object : String}

theorem binds_withoutComments (h : c.script.root.CommentsBare) (name : String) :
    binds c.withoutComments name = binds c name := by
  have hpreorder : c.withoutComments.script.root.preorder =
      dropComments c.script.root.preorder := preorder_withoutComments h
  rw [binds, hpreorder]
  refine any_dropComments (fun n hn hcomment => ?_) fun n _ hcomment => ?_
  · exact congrArg (· == Construct.binding name)
      (construct_withoutComments (h.of_mem_preorder hn hcomment))
  · rw [construct_of_isComment hcomment]
    rfl

theorem hasParam_withoutComments (h : f.CommentsBare) :
    hasParam source name f.withoutComments = hasParam source name f := by
  rw [hasParam, hasParam, params_withoutComments h, List.length_map]
  simp only [paramName?_withoutComments h]

theorem ambientOutputs_withoutComments (h : c.script.root.CommentsBare)
    (hf : ∀ f, c.function? = some f → f.CommentsBare) :
    ambientOutputs c.withoutComments = ambientOutputs c := by
  have hparam : (c.withoutComments.function?.map
        (hasParam c.withoutComments.source "outputs")).getD false =
      (c.function?.map (hasParam c.source "outputs")).getD false := by
    rw [Context.function?_withoutComments]
    cases hfun : c.function? with
    | none => rfl
    | some f => exact hasParam_withoutComments (hf f hfun)
  unfold ambientOutputs
  rw [binds_withoutComments h, hparam]
  rfl

/-- The text of an object stays the same, comments in it included. -/
theorem returnsResult_withoutComments (h : f.CommentsBare) :
    returnsResult source f.withoutComments = returnsResult source f := by
  rw [returnsResult, returnsResult, Coverage.returnedObjects_withoutComments h,
    List.any_map]
  simp only [Function.comp_def, Prod.map_fst, text_withoutComments]

theorem unusedResult_withoutComments (h : f.CommentsBare) :
    unusedResult c.withoutComments f.withoutComments = unusedResult c f := by
  have hreturns : returnsResult c.withoutComments.source f.withoutComments =
      returnsResult c.source f := returnsResult_withoutComments h
  unfold unusedResult
  rw [hreturns]
  rfl

theorem reads_withoutComments (h : body.CommentsBare) :
    reads source object body.withoutComments =
      (reads source object body).map (Prod.map id Node.withoutComments) := by
  rw [reads, reads, withCalled_withoutComments h, List.filterMap_map,
    List.filterMap_filter, List.map_filterMap]
  apply List.filterMap_congr
  rintro ⟨called, n⟩ hn
  have hmem : n ∈ body.preorder := by
    rw [← map_snd_withCalled false body]
    exact List.mem_map.mpr ⟨(called, n), hn, rfl⟩
  cases hcomment : n.isComment with
  | true => simp [construct_of_isComment hcomment]
  | false =>
      have hbare := h.of_mem_preorder hmem hcomment
      simp only [Function.comp_apply, Prod.map_apply, id_eq,
        construct_withoutComments hbare, objectName?_withoutComments hbare,
        propertyName?_withoutComments hbare, Bool.not_false, if_true]
      split
      · cases n.propertyName? source <;> rfl
      · rfl

theorem undeclaredInputs_withoutComments (h : f.CommentsBare) :
    undeclaredInputs c.withoutComments f.withoutComments = undeclaredInputs c f := by
  have hinputs : c.withoutComments.inputs = c.inputs := rfl
  have hparam : f.withoutComments.paramName? c.withoutComments.source 0 =
      f.paramName? c.source 0 := paramName?_withoutComments h 0
  unfold undeclaredInputs
  rw [hinputs, hparam, body?_withoutComments h]
  cases c.inputs with
  | none => rfl
  | some inputs =>
      cases f.paramName? c.source 0 with
      | none => rfl
      | some param =>
          cases hbody : f.body? with
          | none => rfl
          | some body =>
              have hreads : reads c.withoutComments.source param body.withoutComments =
                  (reads c.source param body).map (Prod.map id Node.withoutComments) :=
                reads_withoutComments (h.child? hbody)
              simp only [Option.map_some]
              rw [hreads, firsts_map, List.map_map]
              refine List.map_congr_left fun access _ => ?_
              simp only [Function.comp_apply, undeclaredFinding, Prod.map_fst,
                Prod.map_snd, id_eq, Context.location_withoutComments]

theorem findings_withoutComments (h : c.script.root.CommentsBare)
    (hf : ∀ f, c.function? = some f → f.CommentsBare) :
    findings c.withoutComments = findings c := by
  rw [findings, findings, ambientOutputs_withoutComments h hf,
    Context.function?_withoutComments]
  cases hfun : c.function? with
  | none => rfl
  | some f =>
      simp only [Option.map_some, unusedResult_withoutComments (hf f hfun),
        undeclaredInputs_withoutComments (hf f hfun)]
      rfl

end Check.Heuristics

/-! ### All readers -/

/-- What a node says of itself, in a tree and in the tree without comments. -/
structure Script.Node.ReadsAlike (source : List Char) (n n' : Node) : Prop where
  kind : n'.kind = n.kind
  role : n'.role = n.role
  place : n'.start = n.start ∧ n'.stop = n.stop
  params : n'.params = n.params.map Node.withoutComments
  paramName : ∀ i, n'.paramName? source i = n.paramName? source i
  operand : n'.operand? = n.operand?.map Node.withoutComments
  returnedObject : n'.returnedObject? = n.returnedObject?.map Node.withoutComments
  keys : n'.keys source = n.keys source

theorem Script.Node.readsAlike_withoutComments (h : f.CommentsBare) :
    f.ReadsAlike source f.withoutComments where
  kind := kind_withoutComments f
  role := role_withoutComments f
  place := ⟨start_withoutComments f, stop_withoutComments f⟩
  params := params_withoutComments h
  paramName := paramName?_withoutComments h
  operand := operand?_withoutComments f
  returnedObject := returnedObject?_withoutComments f
  keys := keys_withoutComments h

/-- Comments change nothing: not what the other nodes say of themselves, nor the
statements, the entry function, the first early error or what the checks of the tree
find. -/
theorem comments_have_no_say (h : s.root.CommentsBare) (name : String)
    (outputs : List Socket) (inputs : Option (List Socket)) :
    s.withoutComments.root.preorderAll = dropComments s.root.preorderAll ∧
    (∀ n ∈ s.root.preorderAll, n.isComment = false →
      n.ReadsAlike s.source n.withoutComments) ∧
    s.withoutComments.topLevel = s.topLevel.map Node.withoutComments ∧
    Entry.locate s.withoutComments name = (Entry.locate s name).withoutComments ∧
    EarlyError.first? (s.withoutComments.root.earlyErrors s.source) =
      (EarlyError.first? (s.root.earlyErrors s.source)).map EarlyError.withoutComments ∧
    ∀ k ∈ [Check.entryFunction, Check.coverage, Check.heuristics],
      k.run (.ofScript s.withoutComments name outputs inputs) =
        k.run (.ofScript s name outputs inputs) := by
  have hf (f : Node) (hfun : (Context.ofScript s name outputs inputs).function? = some f) :
      f.CommentsBare := Entry.commentsBare_of_function? h hfun
  refine ⟨preorderAll_withoutComments h, fun n hn hcomment => ?_,
    s.topLevel_withoutComments,
    Entry.locate_withoutComments h name, ?_, ?_⟩
  · exact readsAlike_withoutComments (h.of_mem hn hcomment)
  · exact (congrArg EarlyError.first? (earlyErrors_withoutComments h)).trans
      (EarlyError.first?_map_withoutComments _)
  · rw [Context.ofScript_withoutComments h]
    simp only [List.forall_mem_cons, List.not_mem_nil, false_implies, implies_true,
      and_true]
    exact ⟨congrArg Except.ok (Check.Structure.findings_withoutComments h hf),
      congrArg Except.ok (Check.Coverage.findings_withoutComments hf),
      congrArg Except.ok (Check.Heuristics.findings_withoutComments h hf)⟩

/-- A script with comments before a function, among its parameters and around what it
returns. -/
def commented : Script where
  source := "/**/function processData(a/**/){return/**/(/**/{k:1})}".toList
  root := .mk .program none ⟨0, 0, 0⟩ 54 false [
    .mk .comment none ⟨0, 0, 0⟩ 4 false [],
    .mk .functionDeclaration none ⟨4, 0, 4⟩ 54 false [
      .mk (.token "function") none ⟨4, 0, 4⟩ 12 false [],
      .mk .identifier (some .name) ⟨13, 0, 13⟩ 24 false [],
      .mk (.other "formal_parameters") (some .parameters) ⟨24, 0, 24⟩ 31 false [
        .mk (.token "(") none ⟨24, 0, 24⟩ 25 false [],
        .mk .identifier none ⟨25, 0, 25⟩ 26 false [],
        .mk .comment none ⟨26, 0, 26⟩ 30 false [],
        .mk (.token ")") none ⟨30, 0, 30⟩ 31 false []],
      .mk .statementBlock (some .body) ⟨31, 0, 31⟩ 54 false [
        .mk (.token "\x7b") none ⟨31, 0, 31⟩ 32 false [],
        .mk .returnStatement none ⟨32, 0, 32⟩ 53 false [
          .mk (.token "return") none ⟨32, 0, 32⟩ 38 false [],
          .mk .comment none ⟨38, 0, 38⟩ 42 false [],
          .mk .parenthesizedExpression none ⟨42, 0, 42⟩ 53 false [
            .mk (.token "(") none ⟨42, 0, 42⟩ 43 false [],
            .mk .comment none ⟨43, 0, 43⟩ 47 false [],
            .mk .object none ⟨47, 0, 47⟩ 52 false [
              .mk (.token "\x7b") none ⟨47, 0, 47⟩ 48 false [],
              .mk .pair none ⟨48, 0, 48⟩ 51 false [
                .mk .propertyIdentifier (some .key) ⟨48, 0, 48⟩ 49 false [],
                .mk (.token ":") none ⟨49, 0, 49⟩ 50 false [],
                .mk (.other "number") (some .value) ⟨50, 0, 50⟩ 51 false []],
              .mk (.token "\x7d") none ⟨51, 0, 51⟩ 52 false []],
            .mk (.token ")") none ⟨52, 0, 52⟩ 53 false []]],
        .mk (.token "\x7d") none ⟨53, 0, 53⟩ 54 false []]]]
  flawed := false

theorem commented_runs_alike :
    commented.root.CommentsBare ∧
    (commented.root.preorderAll.countP isComment = 4 ∧
      commented.withoutComments.root.preorderAll.countP isComment = 0) ∧
    ∀ k ∈ [Check.entryFunction, Check.coverage, Check.heuristics],
      k.run (.ofScript commented.withoutComments "processData" [⟨"k", .any⟩] none) =
        k.run (.ofScript commented "processData" [⟨"k", .any⟩] none) := by
  have hbare : commented.root.CommentsBare := ⟨by decide, by decide, by decide⟩
  obtain ⟨-, -, -, -, -, hrun⟩ :=
    comments_have_no_say hbare "processData" [⟨"k", .any⟩] none
  exact ⟨hbare, by decide, hrun⟩

end ScriptLint
