import Mathlib.Data.List.Basic
import ScriptLint.Script.EarlyError

namespace ScriptLint.Script

/-! Trees and the orders in which their nodes are visited. -/

namespace Node

/-! ### Induction -/

mutual

/-- Induction on a tree, with the hypothesis for every child. -/
theorem induct {P : Node → Prop}
    (h : ∀ n : Node, (∀ c ∈ n.children, P c) → P n) : ∀ n : Node, P n
  | mk k r s e m cs => h (mk k r s e m cs) (induct_all h cs)

theorem induct_all {P : Node → Prop}
    (h : ∀ n : Node, (∀ c ∈ n.children, P c) → P n) : ∀ cs : List Node, ∀ c ∈ cs, P c
  | [] => by simp
  | c :: cs => List.forall_mem_cons.mpr ⟨induct h c, induct_all h cs⟩

end

theorem mem_namedChildren {n c : Node} :
    c ∈ n.namedChildren ↔ c ∈ n.children ∧ c.isNamed = true := by
  simp [namedChildren]

/-! ### Listings -/

theorem preorderList_eq (cs : List Node) :
    preorderList cs = (cs.filter isNamed).flatMap preorder := by
  induction cs with
  | nil => rfl
  | cons c cs ih =>
      by_cases hc : c.isNamed <;> simp [preorderList, hc, ih]

theorem preorder_eq (n : Node) : n.preorder = n :: n.namedChildren.flatMap preorder := by
  cases n with
  | mk k r s e m cs => simp [preorder, preorderList_eq, namedChildren, children]

theorem mem_preorder_iff {n d : Node} :
    d ∈ n.preorder ↔ d = n ∨ ∃ c ∈ n.namedChildren, d ∈ c.preorder := by
  rw [preorder_eq, List.mem_cons, List.mem_flatMap]

theorem self_mem_preorder (n : Node) : n ∈ n.preorder := mem_preorder_iff.mpr (.inl rfl)

theorem mem_preorder_of_child {n c d : Node} (hc : c ∈ n.namedChildren)
    (hd : d ∈ c.preorder) : d ∈ n.preorder :=
  mem_preorder_iff.mpr (.inr ⟨c, hc, hd⟩)

theorem mem_preorder_trans {root n d : Node} (hd : d ∈ n.preorder)
    (hn : n ∈ root.preorder) : d ∈ root.preorder := by
  induction root using induct with
  | h root ih =>
      obtain rfl | ⟨c, hc, hn⟩ := mem_preorder_iff.mp hn
      · exact hd
      · exact mem_preorder_of_child hc (ih c (mem_namedChildren.mp hc).1 hn)

theorem preorderAllList_eq (cs : List Node) :
    preorderAllList cs = cs.flatMap preorderAll := by
  induction cs with
  | nil => rfl
  | cons c cs ih => rw [preorderAllList, ih, List.flatMap_cons]

theorem preorderAll_eq (n : Node) :
    n.preorderAll = n :: n.children.flatMap preorderAll := by
  cases n with
  | mk k r s e m cs => rw [preorderAll, preorderAllList_eq, children]

theorem mem_preorderAll_iff {n d : Node} :
    d ∈ n.preorderAll ↔ d = n ∨ ∃ c ∈ n.children, d ∈ c.preorderAll := by
  rw [preorderAll_eq, List.mem_cons, List.mem_flatMap]

theorem self_mem_preorderAll (n : Node) : n ∈ n.preorderAll :=
  mem_preorderAll_iff.mpr (.inl rfl)

theorem mem_preorderAll_of_child {n c d : Node} (hc : c ∈ n.children)
    (hd : d ∈ c.preorderAll) : d ∈ n.preorderAll :=
  mem_preorderAll_iff.mpr (.inr ⟨c, hc, hd⟩)

theorem mem_preorderAll_trans {root n d : Node} (hd : d ∈ n.preorderAll)
    (hn : n ∈ root.preorderAll) : d ∈ root.preorderAll := by
  induction root using induct with
  | h root ih =>
      obtain rfl | ⟨c, hc, hn⟩ := mem_preorderAll_iff.mp hn
      · exact hd
      · exact mem_preorderAll_of_child hc (ih c hc hn)

theorem mem_preorderAll_of_mem_preorder {root n : Node} (hn : n ∈ root.preorder) :
    n ∈ root.preorderAll := by
  induction root using induct with
  | h root ih =>
      obtain rfl | ⟨c, hc, hn⟩ := mem_preorder_iff.mp hn
      · exact self_mem_preorderAll n
      · exact mem_preorderAll_of_child (mem_namedChildren.mp hc).1
          (ih c (mem_namedChildren.mp hc).1 hn)

/-- Nothing with a name lies below a mark or a keyword. -/
def TokensBare (root : Node) : Prop :=
  ∀ t ∈ root.preorderAll, t.isNamed = false → ∀ d ∈ t.preorderAll, d.isNamed = false

theorem TokensBare.child {n c : Node} (h : n.TokensBare)
    (hc : c ∈ n.children) : c.TokensBare :=
  fun t ht => h t (mem_preorderAll_of_child hc ht)

/-- Where tokens are bare, both listings of a tree have the same named nodes in the same
order. -/
theorem TokensBare.filter_isNamed {root : Node} (h : root.TokensBare) :
    root.preorderAll.filter isNamed = root.preorder.filter isNamed := by
  induction root using induct with
  | h root ih =>
      have hbelow (cs : List Node) (hcs : ∀ c ∈ cs, c ∈ root.children) :
          (cs.flatMap preorderAll).filter isNamed =
            ((cs.filter isNamed).flatMap preorder).filter isNamed := by
        induction cs with
        | nil => rfl
        | cons c cs ihcs =>
            have hc : c ∈ root.children := hcs c List.mem_cons_self
            have hrest := ihcs fun d hd => hcs d (List.mem_cons_of_mem _ hd)
            rw [List.flatMap_cons, List.filter_append, hrest]
            by_cases hnamed : c.isNamed = true
            · rw [List.filter_cons_of_pos hnamed, List.flatMap_cons, List.filter_append,
                ih c hc (h.child hc)]
            · have hnone : c.preorderAll.filter isNamed = [] := by
                rw [List.filter_eq_nil_iff]
                intro d hd
                rw [h c (mem_preorderAll_of_child hc (self_mem_preorderAll c))
                  (Bool.eq_false_iff.mpr hnamed) d hd]
                exact Bool.false_ne_true
              rw [List.filter_cons_of_neg hnamed, hnone, List.nil_append]
      rw [preorderAll_eq, preorder_eq, List.filter_cons, List.filter_cons,
        hbelow root.children fun c hc => hc]
      rfl

theorem withParentsList_eq (parent : Node) (cs : List Node) :
    withParentsList parent cs =
      (cs.filter isNamed).flatMap (withParents (some parent)) := by
  induction cs with
  | nil => rfl
  | cons c cs ih =>
      by_cases hc : c.isNamed <;> simp [withParentsList, hc, ih]

theorem withParents_eq (parent : Option Node) (n : Node) :
    n.withParents parent =
      (parent, n) :: n.namedChildren.flatMap (withParents (some n)) := by
  cases n with
  | mk k r s e m cs => simp [withParents, withParentsList_eq, namedChildren, children]

theorem map_snd_withParents (parent : Option Node) (n : Node) :
    (n.withParents parent).map (·.2) = n.preorder := by
  induction n using induct generalizing parent with
  | h n ih =>
      rw [withParents_eq, preorder_eq, List.map_cons, List.map_flatMap]
      congr 1
      exact List.flatMap_congr fun c hc => ih c (mem_namedChildren.mp hc).1 (some n)

/-- A node is listed with its parent: the root with what is given, and every other node
with one that it is a named child of. -/
theorem mem_withParents {parent p : Option Node} {root n : Node} :
    (p, n) ∈ root.withParents parent ↔
      p = parent ∧ n = root ∨ ∃ q ∈ root.preorder, p = some q ∧ n ∈ q.namedChildren := by
  induction root using induct generalizing parent with
  | h root ih =>
      rw [withParents_eq, List.mem_cons, List.mem_flatMap, Prod.mk.injEq]
      refine or_congr_right ?_
      constructor
      · rintro ⟨c, hc, hn⟩
        rcases (ih c (mem_namedChildren.mp hc).1).mp hn with ⟨rfl, rfl⟩ | ⟨q, hq, hp, hn⟩
        · exact ⟨root, self_mem_preorder root, rfl, hc⟩
        · exact ⟨q, mem_preorder_of_child hc hq, hp, hn⟩
      · rintro ⟨q, hq, hp, hn⟩
        obtain rfl | ⟨c, hc, hq⟩ := mem_preorder_iff.mp hq
        · exact ⟨n, hn, (ih n (mem_namedChildren.mp hn).1).mpr (.inl ⟨hp, rfl⟩)⟩
        · exact ⟨c, hc, (ih c (mem_namedChildren.mp hc).1).mpr (.inr ⟨q, hq, hp, hn⟩)⟩

end Node

/-! ### Visits -/

namespace Walk

theorem step?_eq_none_iff {w : Walk} : w.step? = none ↔ w.pending = [] := by
  unfold step?
  cases w.pending <;> simp

theorem step?_eq_some_iff {w v : Walk} {n : Node} :
    w.step? = some (n, v) ↔
      ∃ rest, w.pending = n :: rest ∧ v = { w with pending := w.next n ++ rest } := by
  unfold step?
  cases hpending : w.pending with
  | nil => simp
  | cons m rest =>
      simp only [Option.some.injEq, Prod.mk.injEq, List.cons.injEq]
      constructor
      · rintro ⟨rfl, rfl⟩
        exact ⟨rest, ⟨rfl, rfl⟩, rfl⟩
      · rintro ⟨_, ⟨rfl, rfl⟩, rfl⟩
        exact ⟨rfl, rfl⟩

def listing (namedOnly : Bool) (n : Node) : List Node :=
  if namedOnly then n.preorder else n.preorderAll

theorem listing_eq (w : Walk) (n : Node) :
    listing w.namedOnly n = n :: (w.next n).flatMap (listing w.namedOnly) := by
  unfold listing next
  cases w.namedOnly with
  | true => exact Node.preorder_eq n
  | false => exact Node.preorderAll_eq n

/-- A visit goes through the listings of the nodes still to be visited. -/
theorem find?_eq (w : Walk) (p : Node → Bool) :
    w.find? p = (w.pending.flatMap (listing w.namedOnly)).find? p := by
  fun_induction find? w p with
  | case1 w h => rw [step?_eq_none_iff.mp h, List.flatMap_nil, List.find?_nil]
  | case2 w n v h hp =>
      obtain ⟨rest, hpending, rfl⟩ := step?_eq_some_iff.mp h
      rw [hpending, List.flatMap_cons, listing_eq, List.cons_append,
        List.find?_cons_of_pos hp]
  | case3 w n v h hp ih =>
      obtain ⟨rest, hpending, rfl⟩ := step?_eq_some_iff.mp h
      rw [ih, hpending, List.flatMap_cons, listing_eq w n, List.cons_append,
        List.find?_cons_of_neg hp, List.flatMap_append]

end Walk

theorem Node.find?_eq (n : Node) (p : Node → Bool) : n.find? p = n.preorder.find? p := by
  rw [find?, Walk.find?_eq, Walk.ofNode, List.flatMap_singleton, Walk.listing, if_pos rfl]

theorem Node.findAny?_eq (n : Node) (p : Node → Bool) :
    n.findAny? p = n.preorderAll.find? p := by
  rw [findAny?, Walk.find?_eq, Walk.ofNode, List.flatMap_singleton, Walk.listing,
    if_neg Bool.false_ne_true]

end ScriptLint.Script
