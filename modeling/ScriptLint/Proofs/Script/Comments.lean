import Mathlib.Data.List.Find
import ScriptLint.Proofs.Script.Blame

namespace ScriptLint.Script

/-! Trees without their comments: every reader of a tree finds in one what it finds in the
other. -/

variable {source : List Char}

namespace Node

def isComment (n : Node) : Bool := n.kind == .comment

theorem kind_eq_of_isComment {c : Node} (hc : c.isComment = true) : c.kind = .comment := by
  simpa [isComment] using hc

mutual

def withoutComments : Node → Node
  | mk k r s e m cs => mk k r s e m (dropComments cs)

def dropComments : List Node → List Node
  | [] => []
  | c :: cs =>
      if c.isComment then dropComments cs else c.withoutComments :: dropComments cs

end

/-- A tree whose root is no comment, and in which nothing lies below a comment and no
comment plays a role. -/
structure CommentsBare (root : Node) : Prop where
  rooted : root.isComment = false
  leaf : ∀ c ∈ root.preorderAll, c.isComment = true → c.children = []
  noRole : ∀ c ∈ root.preorderAll, c.isComment = true → c.role = none

theorem CommentsBare.of_mem {root n : Node} (h : root.CommentsBare)
    (hn : n ∈ root.preorderAll) (hcomment : n.isComment = false) : n.CommentsBare where
  rooted := hcomment
  leaf c hc := h.leaf c (mem_preorderAll_trans hc hn)
  noRole c hc := h.noRole c (mem_preorderAll_trans hc hn)

theorem CommentsBare.child {n c : Node} (h : n.CommentsBare) (hc : c ∈ n.children)
    (hcomment : c.isComment = false) : c.CommentsBare :=
  h.of_mem (mem_preorderAll_of_child hc (self_mem_preorderAll c)) hcomment

/-! ### What a node keeps -/

section Fields

variable (n : Node)

@[simp] theorem kind_withoutComments : n.withoutComments.kind = n.kind := by
  cases n
  rfl

@[simp] theorem role_withoutComments : n.withoutComments.role = n.role := by
  cases n
  rfl

@[simp] theorem start_withoutComments : n.withoutComments.start = n.start := by
  cases n
  rfl

@[simp] theorem stop_withoutComments : n.withoutComments.stop = n.stop := by
  cases n
  rfl

@[simp] theorem children_withoutComments :
    n.withoutComments.children = dropComments n.children := by
  cases n
  rfl

@[simp] theorem isNamed_withoutComments : n.withoutComments.isNamed = n.isNamed := by
  simp [isNamed]

@[simp] theorem text_withoutComments : n.withoutComments.text source = n.text source := by
  simp [text]

@[simp] theorem name_withoutComments : n.withoutComments.name source = n.name source := by
  simp [name]

@[simp] theorem location_withoutComments :
    n.withoutComments.location source = n.location source := by
  simp [location]

end Fields

/-! ### Lists of nodes -/

section Lists

variable {α : Type} {cs : List Node} {p q : Node → Bool}

theorem dropComments_eq (cs : List Node) :
    dropComments cs = (cs.filter fun c => !c.isComment).map withoutComments := by
  induction cs with
  | nil => rfl
  | cons c cs ih =>
      cases hc : c.isComment with
      | true => simp [dropComments, hc, ih]
      | false => simp [dropComments, hc, ih]

theorem dropComments_eq_map (h : ∀ c ∈ cs, c.isComment = false) :
    dropComments cs = cs.map withoutComments := by
  rw [dropComments_eq, List.filter_eq_self.mpr fun c hc => by rw [h c hc]; rfl]

/-- What is read from each node is the same if nothing is read from comments. -/
theorem flatMap_dropComments {f g : Node → List α}
    (hf : ∀ c ∈ cs, c.isComment = false → f c.withoutComments = g c)
    (hg : ∀ c ∈ cs, c.isComment = true → g c = []) :
    (dropComments cs).flatMap f = cs.flatMap g := by
  induction cs with
  | nil => rfl
  | cons c cs ih =>
      have hrest := ih (fun d hd => hf d (List.mem_cons_of_mem _ hd))
        fun d hd => hg d (List.mem_cons_of_mem _ hd)
      cases hc : c.isComment with
      | true => simp [dropComments, hc, hrest, hg c List.mem_cons_self hc]
      | false => simp [dropComments, hc, hrest, hf c List.mem_cons_self hc]

theorem filterMap_dropComments {f g : Node → Option α}
    (hf : ∀ c ∈ cs, c.isComment = false → f c.withoutComments = g c)
    (hg : ∀ c ∈ cs, c.isComment = true → g c = none) :
    (dropComments cs).filterMap f = cs.filterMap g := by
  rw [List.filterMap_eq_flatMap_toList, List.filterMap_eq_flatMap_toList]
  refine flatMap_dropComments (fun c hc h => ?_) fun c hc h => ?_
  · rw [hf c hc h]
  · rw [hg c hc h, Option.toList_none]

theorem filter_dropComments
    (hp : ∀ c ∈ cs, c.isComment = false → p c.withoutComments = q c) :
    (dropComments cs).filter p = dropComments (cs.filter q) := by
  rw [dropComments_eq, dropComments_eq, List.filter_map, List.filter_filter,
    List.filter_filter]
  congr 1
  refine List.filter_congr fun c hc => ?_
  cases hcomment : c.isComment with
  | true => simp
  | false => simp [hp c hc hcomment]

theorem find?_dropComments (hp : ∀ c ∈ cs, c.isComment = false → p c.withoutComments = q c)
    (hq : ∀ c ∈ cs, c.isComment = true → q c = false) :
    (dropComments cs).find? p = (cs.find? q).map withoutComments := by
  rw [dropComments_eq, List.find?_map, List.find?_filter]
  congr 1
  refine List.find?_congr fun c hc => ?_
  cases hcomment : c.isComment with
  | true => simp [hq c hc hcomment]
  | false => simp [hp c hc hcomment]

theorem any_dropComments (hp : ∀ c ∈ cs, c.isComment = false → p c.withoutComments = q c)
    (hq : ∀ c ∈ cs, c.isComment = true → q c = false) :
    (dropComments cs).any p = cs.any q := by
  rw [Bool.eq_iff_iff, List.any_eq_true, List.any_eq_true, ← List.find?_isSome,
    ← List.find?_isSome, find?_dropComments hp hq, Option.isSome_map]

theorem dropComments_flatMap (f : Node → List Node) (cs : List Node) :
    dropComments (cs.flatMap f) = cs.flatMap fun c => dropComments (f c) := by
  simp only [dropComments_eq, List.filter_flatMap, List.map_flatMap]

end Lists

/-! ### Children -/

section Children

variable {n c : Node} {r : Role}

theorem CommentsBare.leaf_child (h : n.CommentsBare) (hc : c ∈ n.children)
    (hcomment : c.isComment = true) : c.children = [] :=
  h.leaf c (mem_preorderAll_of_child hc (self_mem_preorderAll c)) hcomment

theorem CommentsBare.role_child (h : n.CommentsBare) (hc : c ∈ n.children)
    (hcomment : c.isComment = true) : c.role = none :=
  h.noRole c (mem_preorderAll_of_child hc (self_mem_preorderAll c)) hcomment

theorem CommentsBare.isComment_of_role (h : n.CommentsBare) (hc : c ∈ n.children)
    (hrole : c.role = some r) : c.isComment = false := by
  cases hcomment : c.isComment with
  | false => rfl
  | true =>
      exact absurd (hrole.symm.trans (h.role_child hc hcomment)) (Option.some_ne_none r)

theorem namedChildren_withoutComments (n : Node) :
    n.withoutComments.namedChildren = dropComments n.namedChildren := by
  rw [namedChildren, children_withoutComments]
  exact filter_dropComments fun c _ _ => isNamed_withoutComments c

theorem child?_withoutComments (h : n.CommentsBare) (r : Role) :
    n.withoutComments.child? r = (n.child? r).map withoutComments := by
  rw [child?, children_withoutComments]
  refine find?_dropComments (fun c _ _ => by rw [role_withoutComments])
    fun c hc hcomment => ?_
  rw [h.role_child hc hcomment]
  rfl

/-- What plays a role is no comment, nor does any lie below it but in the same way. -/
theorem CommentsBare.child? (h : n.CommentsBare)
    (hc : n.child? r = some c) : c.CommentsBare :=
  have hmem := mem_children_of_child? hc
  h.child hmem (h.isComment_of_role hmem (by simpa using List.find?_some hc))

/-- What is read from the child of a role. -/
theorem map_child?_withoutComments {α : Type} (h : n.CommentsBare) (r : Role)
    {f g : Node → α} (hf : ∀ c ∈ n.children, c.CommentsBare → f c.withoutComments = g c) :
    (n.withoutComments.child? r).map f = (n.child? r).map g := by
  rw [child?_withoutComments h]
  cases hc : n.child? r with
  | none => rfl
  | some c => exact congrArg some (hf c (mem_children_of_child? hc) (h.child? hc))

/-- What is read from the named children, if nothing is read from comments. -/
theorem flatMap_namedChildren_withoutComments {α : Type} (h : n.CommentsBare)
    {f g : Node → List α}
    (hf : ∀ c ∈ n.children, c.CommentsBare → f c.withoutComments = g c)
    (hg : ∀ c : Node, c.isComment = true → c.children = [] → g c = []) :
    n.withoutComments.namedChildren.flatMap f = n.namedChildren.flatMap g := by
  rw [namedChildren_withoutComments]
  refine flatMap_dropComments (fun c hc hcomment => ?_) fun c hc hcomment => ?_
  · have hmem := (mem_namedChildren.mp hc).1
    exact hf c hmem (h.child hmem hcomment)
  · exact hg c hcomment (h.leaf_child (mem_namedChildren.mp hc).1 hcomment)

end Children

/-! ### Listings -/

section Listings

variable {n c root : Node}

theorem CommentsBare.of_mem_preorder {n : Node} (h : root.CommentsBare)
    (hn : n ∈ root.preorder) (hcomment : n.isComment = false) : n.CommentsBare :=
  h.of_mem (mem_preorderAll_of_mem_preorder hn) hcomment

/-- A comment is no parent, as nothing lies below it. -/
theorem CommentsBare.parent {n f : Node} (h : root.CommentsBare)
    (hn : (some f, n) ∈ root.withParents none) : f.CommentsBare := by
  rcases mem_withParents.mp hn with ⟨hf, -⟩ | ⟨q, hq, hf, hchild⟩
  · cases hf
  · obtain rfl := Option.some.inj hf
    refine h.of_mem_preorder hq ?_
    cases hcomment : f.isComment with
    | false => rfl
    | true =>
        have hleaf := h.leaf f (mem_preorderAll_of_mem_preorder hq) hcomment
        rw [namedChildren, hleaf] at hchild
        cases hchild

theorem withParents_of_isComment {c : Node} (hleaf : c.children = [])
    (parent : Option Node) : c.withParents parent = [(parent, c)] := by
  rw [withParents_eq, namedChildren, hleaf]
  rfl

/-- The nodes with their parents stay in their order. -/
theorem withParents_withoutComments (h : n.CommentsBare) (parent : Option Node) :
    n.withoutComments.withParents (parent.map withoutComments) =
      ((n.withParents parent).filter fun v => !v.2.isComment).map
        fun v => (v.1.map withoutComments, v.2.withoutComments) := by
  induction n using induct generalizing parent with
  | h n ih =>
      rw [withParents_eq, withParents_eq parent n,
        List.filter_cons_of_pos (by simp [h.rooted]), List.map_cons, List.filter_flatMap,
        List.map_flatMap]
      congr 1
      refine flatMap_namedChildren_withoutComments h
        (fun c hc hbare => ih c hc hbare (some n))
        fun c hc hleaf => ?_
      rw [withParents_of_isComment hleaf, List.filter_cons_of_neg (by simp [hc])]
      rfl

theorem preorder_withoutComments (h : n.CommentsBare) :
    n.withoutComments.preorder = dropComments n.preorder := by
  rw [← map_snd_withParents none n,
    ← map_snd_withParents (Option.map withoutComments none), withParents_withoutComments h,
    dropComments_eq, List.filter_map, List.map_map, List.map_map]
  rfl

theorem preorderAll_withoutComments (h : n.CommentsBare) :
    n.withoutComments.preorderAll = dropComments n.preorderAll := by
  induction n using induct with
  | h n ih =>
      rw [preorderAll_eq, preorderAll_eq n, dropComments, if_neg (by simp [h.rooted]),
        children_withoutComments, dropComments_flatMap]
      congr 1
      refine flatMap_dropComments (fun c hc hcomment => ih c hc (h.child hc hcomment))
        fun c hc hcomment => ?_
      rw [preorderAll_eq, h.leaf_child hc hcomment, List.flatMap_nil, dropComments,
        if_pos hcomment]
      rfl

end Listings

end Node

end ScriptLint.Script
