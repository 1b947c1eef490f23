import ScriptLint.Proofs.Script.Comments
import ScriptLint.Script.Syntax

namespace ScriptLint.Script.Node

/-! What statements, functions, returns and objects say of themselves does not depend on
comments. -/

variable {source : List Char} {n a c : Node}

theorem construct_withoutComments (h : n.CommentsBare) :
    n.withoutComments.construct source = n.construct source := by
  unfold construct
  rw [kind_withoutComments, child?_withoutComments h, name_withoutComments]
  cases n.child? .name with
  | none => rfl
  | some b => simp only [Option.map_some, kind_withoutComments, name_withoutComments]

theorem construct_of_isComment (hc : c.isComment = true) :
    c.construct source = .other := by
  rw [construct, kind_eq_of_isComment hc]

theorem statements_withoutComments (n : Node) :
    n.withoutComments.statements = n.statements.map withoutComments := by
  rw [statements, namedChildren_withoutComments,
    filter_dropComments fun c _ _ => by rw [kind_withoutComments], dropComments_eq_map]
  · rfl
  · intro c hc
    have htrivia := (List.mem_filter.mp hc).2
    cases hcomment : c.isComment with
    | false => rfl
    | true =>
        rw [kind_eq_of_isComment hcomment] at htrivia
        cases htrivia

theorem CommentsBare.statement (h : n.CommentsBare) (hc : c ∈ n.statements) :
    c.CommentsBare := by
  obtain ⟨hnamed, htrivia⟩ := List.mem_filter.mp hc
  refine h.child (mem_namedChildren.mp hnamed).1 ?_
  cases hcomment : c.isComment with
  | false => rfl
  | true =>
      rw [kind_eq_of_isComment hcomment] at htrivia
      cases htrivia

/-! ### Functions -/

theorem functionName?_withoutComments (h : n.CommentsBare) :
    n.withoutComments.functionName? source = n.functionName? source :=
  map_child?_withoutComments h .name fun c _ _ => name_withoutComments c

theorem body?_withoutComments (h : n.CommentsBare) :
    n.withoutComments.body? = n.body?.map withoutComments :=
  child?_withoutComments h .body

theorem params_withoutComments (h : n.CommentsBare) :
    n.withoutComments.params = n.params.map withoutComments := by
  rw [params, params, child?_withoutComments h]
  cases n.child? .parameters with
  | none => rfl
  | some ps =>
      dsimp only [Option.map_some]
      rw [namedChildren_withoutComments,
        filter_dropComments fun c _ _ => by rw [kind_withoutComments], dropComments_eq_map]
      intro c hc
      simpa [isComment, bne] using (List.mem_filter.mp hc).2

theorem paramName?_withoutComments (h : n.CommentsBare) (i : Nat) :
    n.withoutComments.paramName? source i = n.paramName? source i := by
  rw [paramName?, paramName?, params_withoutComments h, List.getElem?_map,
    Option.filter_map, Option.map_map]
  simp only [Function.comp_def, kind_withoutComments, name_withoutComments]

/-! ### Returns -/

theorem operand?_withoutComments (n : Node) :
    n.withoutComments.operand? = n.operand?.map withoutComments := by
  rw [operand?, namedChildren_withoutComments]
  refine find?_dropComments (fun c _ _ => by rw [kind_withoutComments])
    fun c _ hcomment => ?_
  rw [kind_eq_of_isComment hcomment]
  rfl

theorem mem_children_of_operand? (hc : n.operand? = some c) : c ∈ n.children :=
  (mem_namedChildren.mp (List.mem_of_find?_eq_some hc)).1

theorem CommentsBare.operand (h : n.CommentsBare) (hc : n.operand? = some c) :
    c.CommentsBare :=
  h.child (mem_children_of_operand? hc)
  (by simpa [isComment, bne] using List.find?_some hc)

theorem size_lt_of_mem_children (hc : c ∈ n.children) : c.size < n.size := by
  have hle : ∀ cs : List Node, c ∈ cs → c.size ≤ sizeList cs := by
    intro cs
    induction cs with
    | nil => nofun
    | cons d cs ih =>
        rintro (_ | ⟨_, hd⟩)
        · exact Nat.le_add_right _ _
        · exact (ih hd).trans (Nat.le_add_left _ _)
  rw [size_eq n, Nat.add_comm]
  exact Nat.lt_succ_of_le (hle n.children hc)

/-- More fuel than the size of a node makes no difference. -/
theorem stripParentheses_eq {fuel fuel' : Nat} (hfuel : n.size ≤ fuel)
    (hfuel' : n.size ≤ fuel') : n.stripParentheses fuel = n.stripParentheses fuel' := by
  induction n using induct generalizing fuel fuel' with
  | h n ih =>
      have hpos : 0 < n.size := by
        rw [size_eq]
        exact Nat.lt_of_lt_of_le Nat.zero_lt_one (Nat.le_add_right 1 _)
      obtain ⟨fuel, rfl⟩ := Nat.exists_eq_add_one.mpr (hpos.trans_le hfuel)
      obtain ⟨fuel', rfl⟩ := Nat.exists_eq_add_one.mpr (hpos.trans_le hfuel')
      rw [stripParentheses, stripParentheses]
      split
      · cases hc : n.operand? with
        | none => rfl
        | some c =>
            have hmem := mem_children_of_operand? hc
            have hlt := size_lt_of_mem_children hmem
            exact ih c hmem (Nat.le_of_lt_succ (hlt.trans_le hfuel))
              (Nat.le_of_lt_succ (hlt.trans_le hfuel'))
      · rfl

theorem size_withoutComments_le (n : Node) : n.withoutComments.size ≤ n.size := by
  induction n using induct with
  | h n ih =>
      have hlist (cs : List Node) (hcs : ∀ c ∈ cs, c.withoutComments.size ≤ c.size) :
          sizeList (dropComments cs) ≤ sizeList cs := by
        induction cs with
        | nil => exact Nat.le_refl _
        | cons c cs ihcs =>
            have hrest := ihcs fun d hd => hcs d (List.mem_cons_of_mem _ hd)
            rw [dropComments, sizeList_cons]
            split
            · exact hrest.trans (Nat.le_add_left _ _)
            · exact Nat.add_le_add (hcs c List.mem_cons_self) hrest
      rw [size_eq, size_eq n, children_withoutComments]
      exact Nat.add_le_add_left (hlist n.children ih) 1

theorem stripParentheses_withoutComments (fuel : Nat) (n : Node) :
    n.withoutComments.stripParentheses fuel =
      (n.stripParentheses fuel).map withoutComments := by
  induction fuel generalizing n with
  | zero => rfl
  | succ fuel ih =>
      rw [stripParentheses, stripParentheses, kind_withoutComments,
        operand?_withoutComments]
      split
      · cases n.operand? with
        | none => rfl
        | some c => exact ih c
      · rfl

theorem CommentsBare.stripParentheses {fuel : Nat} (h : n.CommentsBare)
    (ha : n.stripParentheses fuel = some a) : a.CommentsBare := by
  induction fuel generalizing n with
  | zero =>
      obtain rfl := Option.some.inj ha
      exact h
  | succ fuel ih =>
      rw [Node.stripParentheses] at ha
      split at ha
      · obtain ⟨c, hc, ha⟩ := Option.bind_eq_some_iff.mp ha
        exact ih (h.operand hc) ha
      · obtain rfl := Option.some.inj ha
        exact h

theorem returnedObject?_withoutComments (n : Node) :
    n.withoutComments.returnedObject? = n.returnedObject?.map withoutComments := by
  rw [returnedObject?, returnedObject?, operand?_withoutComments]
  cases n.operand? with
  | none => rfl
  | some a =>
      rw [Option.map_some, Option.bind_some, Option.bind_some,
        stripParentheses_eq (Nat.le_refl _) (size_withoutComments_le a),
        stripParentheses_withoutComments, Option.filter_map]
      simp only [Function.comp_def, kind_withoutComments]

theorem CommentsBare.returnedObject (h : n.CommentsBare)
    (ha : n.returnedObject? = some a) : a.CommentsBare := by
  obtain ⟨c, hc, ha⟩ := Option.bind_eq_some_iff.mp (Option.filter_eq_some_iff.mp ha).1
  exact (h.operand hc).stripParentheses ha

/-! ### Objects and members -/

theorem stringValue_withoutComments (h : n.CommentsBare) :
    stringValue source n.withoutComments = stringValue source n := by
  unfold stringValue
  refine flatMap_namedChildren_withoutComments h (fun c _ _ => ?_) fun c hc _ => ?_
  · rw [kind_withoutComments, text_withoutComments]
  · rw [kind_eq_of_isComment hc]

theorem keyNode?_withoutComments (h : n.CommentsBare) :
    n.withoutComments.keyNode? = n.keyNode?.map withoutComments := by
  rw [keyNode?, keyNode?, kind_withoutComments, child?_withoutComments h,
    child?_withoutComments h]
  split <;> rfl

theorem CommentsBare.keyNode (h : n.CommentsBare) (ha : n.keyNode? = some a) :
    a.CommentsBare := by
  unfold keyNode? at ha
  split at ha
  · exact h.child? ha
  · exact h.child? ha
  · obtain rfl := Option.some.inj ha
    exact h
  · cases ha

theorem key?_withoutComments (h : n.CommentsBare) :
    n.withoutComments.key? source = n.key? source := by
  rw [key?, key?, keyNode?_withoutComments h]
  cases ha : n.keyNode? with
  | none => rfl
  | some a =>
      simp only [Option.map_some, Option.bind_some, kind_withoutComments,
        name_withoutComments, stringValue_withoutComments (h.keyNode ha)]

theorem keys_withoutComments (h : n.CommentsBare) :
    n.withoutComments.keys source = n.keys source := by
  rw [keys, namedChildren_withoutComments]
  refine filterMap_dropComments (fun c hc hcomment => ?_) fun c _ hcomment => ?_
  · exact key?_withoutComments (h.child (mem_namedChildren.mp hc).1 hcomment)
  · rw [key?, keyNode?, kind_eq_of_isComment hcomment]
    rfl

theorem objectName?_withoutComments (h : n.CommentsBare) :
    n.withoutComments.objectName? source = n.objectName? source := by
  rw [objectName?, objectName?, child?_withoutComments h, Option.filter_map,
    Option.map_map]
  simp only [Function.comp_def, kind_withoutComments, name_withoutComments]

theorem propertyName?_withoutComments (h : n.CommentsBare) :
    n.withoutComments.propertyName? source = n.propertyName? source := by
  rw [propertyName?, propertyName?, child?_withoutComments h, child?_withoutComments h]
  cases n.child? .property with
  | some p => simp only [Option.map_some, kind_withoutComments, name_withoutComments]
  | none =>
      cases hi : n.child? .index with
      | none => rfl
      | some i =>
          simp only [Option.map_some, Option.map_none, kind_withoutComments,
            stringValue_withoutComments (h.child? hi)]

end ScriptLint.Script.Node
