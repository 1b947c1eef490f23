import Mathlib.Data.List.Flatten
import ScriptLint.Proofs.Script.Layout
import ScriptLint.Proofs.Script.Path

namespace ScriptLint.Script

/-! Visits of a tree: what they yield step by step, that they come to an end, and the order
in which they meet nodes. -/

namespace Walk

variable {w v : Walk} {n : Node} {ns : List Node}

/-- The nodes still to be visited, with the next one on top, which is at the end. -/
def stack (w : Walk) : List Node := w.pending.reverse

/-- A step takes the node on top, and puts what comes next below it there, the first on
top. -/
theorem step?_eq_some_iff_stack : w.step? = some (n, v) ↔
    ∃ base, w.stack = base ++ [n] ∧ v.stack = base ++ (w.next n).reverse ∧
      v.namedOnly = w.namedOnly := by
  rw [step?_eq_some_iff]
  constructor
  · rintro ⟨rest, hpending, rfl⟩
    exact ⟨rest.reverse, by rw [stack, hpending, List.reverse_cons],
      List.reverse_append, rfl⟩
  · rintro ⟨base, hstack, hstack', hnamed⟩
    obtain ⟨namedOnly, pending⟩ := v
    rw [stack, List.reverse_eq_iff] at hstack hstack'
    rw [List.reverse_append, List.reverse_singleton, List.singleton_append] at hstack
    rw [List.reverse_append, List.reverse_reverse] at hstack'
    obtain rfl : pending = _ := hstack'
    obtain rfl : namedOnly = _ := hnamed
    exact ⟨base.reverse, hstack, rfl⟩

/-- `w.Yields ns v`: going on from `w` yields the nodes `ns`, and then `v` is left to
do. -/
inductive Yields : Walk → List Node → Walk → Prop
  | nothing (w : Walk) : Yields w [] w
  | next {w v u : Walk} {n : Node} {ns : List Node} (hstep : w.step? = some (n, v))
      (hrest : Yields v ns u) : Yields w (n :: ns) u

/-- The nodes still to be visited, each with all that is met below it. -/
def remaining (w : Walk) : List Node := w.pending.flatMap (listing w.namedOnly)

theorem remaining_ofNode (namedOnly : Bool) (n : Node) :
    (ofNode namedOnly n).remaining = listing namedOnly n :=
  List.flatMap_singleton _ _

theorem remaining_of_step?_eq_none (h : w.step? = none) : w.remaining = [] := by
  rw [remaining, step?_eq_none_iff.mp h, List.flatMap_nil]

/-- What a step yields is the first of what remains. -/
theorem remaining_of_step? (h : w.step? = some (n, v)) :
    w.remaining = n :: v.remaining := by
  obtain ⟨rest, hpending, rfl⟩ := step?_eq_some_iff.mp h
  simp only [remaining, hpending, List.flatMap_cons, List.flatMap_append, listing_eq w n,
    List.cons_append]

theorem Yields.remaining_eq (h : w.Yields ns v) : w.remaining = ns ++ v.remaining := by
  induction h with
  | nothing w => rfl
  | next hstep _ ih => rw [remaining_of_step? hstep, ih, List.cons_append]

/-- With every node that is yielded less is left of the tree. -/
theorem Yields.length_add_size_le (h : w.Yields ns v) : ns.length + v.size ≤ w.size := by
  induction h with
  | nothing w => exact (Nat.zero_add _).le
  | next hstep _ ih =>
      have hlt := size_lt_of_step? hstep
      rw [List.length_cons]
      omega

theorem exists_yields_toList (w : Walk) : ∃ v, w.Yields w.toList v ∧ v.step? = none := by
  fun_induction toList w with
  | case1 w h => exact ⟨w, .nothing w, h⟩
  | case2 w n v h ih =>
      obtain ⟨u, hrest, hover⟩ := ih
      exact ⟨u, .next h hrest, hover⟩

theorem toList_eq_remaining (w : Walk) : w.toList = w.remaining := by
  obtain ⟨v, hyields, hover⟩ := w.exists_yields_toList
  rw [hyields.remaining_eq, remaining_of_step?_eq_none hover, List.append_nil]

theorem find?_eq_toList (w : Walk) (p : Node → Bool) : w.find? p = w.toList.find? p := by
  rw [find?_eq, toList_eq_remaining, remaining]

theorem toList_ofNode (namedOnly : Bool) (n : Node) :
    (ofNode namedOnly n).toList = listing namedOnly n := by
  rw [toList_eq_remaining, remaining_ofNode]

end Walk

namespace Node

variable {n : Node}

/-! ### Where the nodes start -/

theorem preorder_sublist_preorderAll (n : Node) : n.preorder.Sublist n.preorderAll := by
  induction n using induct with
  | h n ih =>
      rw [preorder_eq, preorderAll_eq]
      have hnamed : n.namedChildren.Sublist n.children := List.filter_sublist
      refine .cons_cons n (.trans ?_ (hnamed.flatMap preorderAll))
      exact List.Sublist.flatMap_right _ fun c hc => ih c (mem_namedChildren.mp hc).1

theorem Laid.pairwise_start (h : n.Laid) :
    n.preorderAll.Pairwise fun c d => c.start.byte ≤ d.start.byte := by
  induction n using induct with
  | h n ih =>
      have hroot : ∀ d ∈ n.preorderAll, n.start.byte ≤ d.start.byte :=
        fun d hd => (h.within hd).1
      rw [preorderAll_eq] at hroot ⊢
      rw [List.pairwise_cons, List.pairwise_flatMap]
      refine ⟨(List.forall_mem_cons.mp hroot).2, fun c hc => ih c hc (h.of_child hc), ?_⟩
      refine h.pairwise_apart.imp_of_mem ?_
      intro c c' hc _ hapart d hd d' hd'
      calc d.start.byte ≤ d.stop := h.forward d (mem_preorderAll_of_child hc hd)
        _ ≤ d'.start.byte := hapart d hd d' hd'

theorem Laid.pairwise_start_listing (h : n.Laid) (namedOnly : Bool) :
    (Walk.listing namedOnly n).Pairwise fun c d => c.start.byte ≤ d.start.byte := by
  cases namedOnly with
  | true => exact h.pairwise_start.sublist n.preorder_sublist_preorderAll
  | false => exact h.pairwise_start

/-! ### Nodes without a name -/

theorem isNamed_of_mem_preorder (hn : n.isNamed = true) :
    ∀ d ∈ n.preorder, d.isNamed = true := by
  induction n using induct with
  | h n ih =>
      intro d hd
      obtain rfl | ⟨c, hc, hd⟩ := mem_preorder_iff.mp hd
      · exact hn
      · obtain ⟨hchild, hnamed⟩ := mem_namedChildren.mp hc
        exact ih c hchild hnamed d hd

/-- Where tokens are bare, a visit through named children meets what is left of all nodes
when those without a name are taken out, but for the root, which it meets in any case. -/
theorem TokensBare.preorder_eq_cons (h : n.TokensBare) :
    n.preorder = n :: n.preorderAll.tail.filter isNamed := by
  have hboth := h.filter_isNamed
  have hbelow : ∀ d ∈ n.namedChildren.flatMap preorder, d.isNamed = true := by
    intro d hd
    obtain ⟨c, hc, hd⟩ := List.mem_flatMap.mp hd
    exact isNamed_of_mem_preorder (mem_namedChildren.mp hc).2 d hd
  rw [preorder_eq, preorderAll_eq, List.tail_cons] at *
  congr 1
  by_cases hn : n.isNamed = true
  · rw [List.filter_cons_of_pos hn, List.filter_cons_of_pos hn] at hboth
    rw [(List.cons.inj hboth).2, List.filter_eq_self.mpr hbelow]
  · rw [List.filter_cons_of_neg hn, List.filter_cons_of_neg hn] at hboth
    rw [hboth, List.filter_eq_self.mpr hbelow]

theorem TokensBare.preorder_eq_filter (h : n.TokensBare) (hn : n.isNamed = true) :
    n.preorder = n.preorderAll.filter isNamed := by
  rw [h.preorder_eq_cons, preorderAll_eq, List.filter_cons_of_pos hn, List.tail_cons]

end Node

/-- Visits come to an end, after no more steps than the tree has nodes, and go through the
recursive listings, as searches do up to what they find. They meet every node that a path
leads to, through all children or through those with a name, once and in order: the root
first, each node before those below it and those in the children behind it, and in a tree
that is laid out as its text, no node after one that starts behind it. Where tokens are
bare, the two visits differ by the nodes without a name. -/
theorem Walk.toList_in_order (n : Node) :
    (∀ w c v, step? w = some (c, v) ↔
      ∃ base, w.stack = base ++ [c] ∧ v.stack = base ++ (w.next c).reverse ∧
        v.namedOnly = w.namedOnly) ∧
    (∀ namedOnly ns w, (ofNode namedOnly n).Yields ns w →
      ns.length + w.size ≤ n.size ∧
      ∃ rest v, w.Yields rest v ∧ v.step? = none ∧
      ns ++ rest = (ofNode namedOnly n).toList) ∧
    (ofNode false n).toList = n.preorderAll ∧
    (ofNode true n).toList = n.preorder ∧
    (∀ namedOnly,
      (∀ p, (ofNode namedOnly n).find? p = (ofNode namedOnly n).toList.find? p) ∧
      (ofNode namedOnly n).toList.head? = some n ∧
      (ofNode namedOnly n).toList = (n.places namedOnly).map (·.2) ∧
      (∀ path d, (path, d) ∈ n.places namedOnly ↔ n.Leads namedOnly path d) ∧
      ((n.places namedOnly).map (·.1)).Nodup ∧
      ((n.places namedOnly).Pairwise fun t u => t.1.Precedes u.1) ∧
      (n.Laid →
        (ofNode namedOnly n).toList.Pairwise fun c d => c.start.byte ≤ d.start.byte)) ∧
    (n.TokensBare →
      n.preorder = n :: n.preorderAll.tail.filter Node.isNamed ∧
      (n.isNamed = true → n.preorder = n.preorderAll.filter Node.isNamed)) := by
  refine ⟨fun w c v => step?_eq_some_iff_stack, fun namedOnly ns w hyields => ?_,
    toList_ofNode false n, toList_ofNode true n, fun namedOnly => ?_,
    fun hbare => ⟨hbare.preorder_eq_cons, hbare.preorder_eq_filter⟩⟩
  · obtain ⟨v, hrest, hover⟩ := w.exists_yields_toList
    have hsize : (ofNode namedOnly n).size = n.size := Nat.add_zero _
    refine ⟨hsize ▸ hyields.length_add_size_le, w.toList, v, hrest, hover, ?_⟩
    rw [toList_eq_remaining, toList_eq_remaining, hyields.remaining_eq]
  · have hsearch (p : Node → Bool) := find?_eq_toList (ofNode namedOnly n) p
    rw [toList_ofNode] at hsearch ⊢
    refine ⟨hsearch, ?_, (n.map_snd_places namedOnly).symm,
      fun path d => Node.mem_places_iff_leads,
      n.nodup_map_fst_places namedOnly, n.pairwise_places namedOnly,
      fun hlaid => hlaid.pairwise_start_listing namedOnly⟩
    rw [← n.map_snd_places, Node.places_eq]
    rfl

/-! ### Two statements -/

namespace Node

/-- The statement `a;` from a place in a line on. -/
def nameStatement (start : Nat) : Node :=
  .mk (.other "expression_statement") none ⟨start, 0, start⟩ (start + 2) false [
    .mk .identifier none ⟨start, 0, start⟩ (start + 1) false [],
    .mk (.token ";") none ⟨start + 1, 0, start + 1⟩ (start + 2) false []]

/-- The script `a; a;`. -/
def nameStatements : Node :=
  .mk .program none ⟨0, 0, 0⟩ 5 false [nameStatement 0, nameStatement 3]

theorem nameStatements_in_order :
    nameStatements.Laid ∧ nameStatements.TokensBare ∧
      (Walk.ofNode true nameStatements).toList.map (·.start.byte) = [0, 0, 0, 3, 3] ∧
      ((Walk.ofNode false nameStatements).toList.Pairwise
        fun c d => c.start.byte ≤ d.start.byte) ∧
      nameStatements.preorder = nameStatements.preorderAll.filter isNamed := by
  have hlaid : nameStatements.Laid := by decide
  have hbare : nameStatements.TokensBare := by decide
  obtain ⟨-, -, -, hnamed, hlisted, hbelow⟩ := Walk.toList_in_order nameStatements
  obtain ⟨-, -, -, -, -, -, hstarts⟩ := hlisted false
  refine ⟨hlaid, hbare, ?_, hstarts hlaid, (hbelow hbare).2 rfl⟩
  rw [hnamed]
  decide

end Node

end ScriptLint.Script
