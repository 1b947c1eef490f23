import ScriptLint.Proofs.Parse.Follow
import ScriptLint.Proofs.Script.Visit

namespace ScriptLint.Script

open ScriptLint.Grammar ScriptLint.Parse ScriptLint.Text

/-! The nodes of a text's tree lie where its subtrees do: one behind the other, each in its
parent. -/

variable {source : List Char} {lo mid hi p q : Nat} {n : Node} {ns ms : List Node}

namespace Node

/-- Nodes one behind the other, between two bytes. -/
structure InLine (lo : Nat) (ns : List Node) (hi : Nat) : Prop where
  le : lo ≤ hi
  laid : ∀ n ∈ ns, n.Laid
  within : ∀ n ∈ ns, lo ≤ n.start.byte ∧ n.stop ≤ hi
  apart : ns.Pairwise fun c d => c.stop ≤ d.start.byte

theorem InLine.nil (h : lo ≤ hi) : InLine lo [] hi := ⟨h, nofun, nofun, List.Pairwise.nil⟩

theorem InLine.singleton (hn : n.Laid) (hlo : lo ≤ n.start.byte) (hhi : n.stop ≤ hi) :
    InLine lo [n] hi where
  le := calc lo ≤ n.start.byte := hlo
    _ ≤ n.stop := hn.forward n (self_mem_preorderAll n)
    _ ≤ hi := hhi
  laid := List.forall_mem_singleton.mpr hn
  within := List.forall_mem_singleton.mpr ⟨hlo, hhi⟩
  apart := List.pairwise_singleton _ n

theorem InLine.mono (h : InLine lo ns hi) (hlo : mid ≤ lo) : InLine mid ns hi where
  le := Nat.le_trans hlo h.le
  laid := h.laid
  within n hn := ⟨Nat.le_trans hlo (h.within n hn).1, (h.within n hn).2⟩
  apart := h.apart

theorem InLine.append (h : InLine lo ns mid) (h' : InLine mid ms hi) :
    InLine lo (ns ++ ms) hi where
  le := Nat.le_trans h.le h'.le
  laid := List.forall_mem_append.mpr ⟨h.laid, h'.laid⟩
  within := by
    refine List.forall_mem_append.mpr ⟨fun n hn => ?_, fun m hm => ?_⟩
    · exact ⟨(h.within n hn).1, Nat.le_trans (h.within n hn).2 h'.le⟩
    · exact ⟨Nat.le_trans h.le (h'.within m hm).1, (h'.within m hm).2⟩
  apart := by
    refine List.pairwise_append.mpr ⟨h.apart, h'.apart, fun n hn m hm => ?_⟩
    exact Nat.le_trans (h.within n hn).2 (h'.within m hm).1

/-- A node lies well if its children stand in line in it. -/
theorem InLine.laid_parent (h : InLine n.start.byte n.children n.stop) : n.Laid := by
  constructor
  · intro d hd
    obtain rfl | ⟨c, hc, hd⟩ := mem_preorderAll_iff.mp hd
    · exact h.le
    · exact (h.laid c hc).forward d hd
  · intro d hd
    obtain rfl | ⟨c, hc, hd⟩ := mem_preorderAll_iff.mp hd
    · exact h.within
    · exact (h.laid c hc).inside d hd
  · intro d hd
    obtain rfl | ⟨c, hc, hd⟩ := mem_preorderAll_iff.mp hd
    · exact h.apart
    · exact (h.laid c hc).ordered d hd

theorem laid_default : (default : Node).Laid := InLine.laid_parent (.nil (Nat.le_refl 0))

end Node

/-! ### From places to bytes -/

theorem byte_mark (hp : p ≤ source.length) :
    ((Input.ofChars source).mark p).byte = byteLength (source.take p) := by
  rw [Input.mark_ofChars hp, (Mark.follows_after _).byte]

theorem byte_mark_mono (h : p ≤ q) (hq : q ≤ source.length) :
    ((Input.ofChars source).mark p).byte ≤ ((Input.ofChars source).mark q).byte := by
  rw [byte_mark (Nat.le_trans h hq), byte_mark hq]
  exact byteLength_mono (List.take_prefix_take_left h)

/-! ### From subtrees to nodes -/

/-- Subtrees in a row leave nodes in line, whatever is hidden of them. -/
theorem Node.inLine_ofSubtree {table : Table} {rename : Option Alias}
    {role : Option String} {t : Subtree} (ht : t.Laid)
    (hstop : t.facts.stop ≤ source.length) :
    InLine ((Input.ofChars source).mark t.facts.start).byte
      (ofSubtree table (.ofChars source) rename role t)
      ((Input.ofChars source).mark t.facts.stop).byte := by
  refine ofSubtree.induct table
    (fun rename role t => t.Laid → t.facts.stop ≤ source.length →
      InLine ((Input.ofChars source).mark t.facts.start).byte
        (ofSubtree table (.ofChars source) rename role t)
        ((Input.ofChars source).mark t.facts.stop).byte)
    (fun layout inherited index ts => ∀ p q, Row p ts q → q ≤ source.length →
      InLine ((Input.ofChars source).mark p).byte
        (ofSubtrees table (.ofChars source) layout inherited index ts)
        ((Input.ofChars source).mark q).byte) ?_ ?_ ?_ ?_ ?_ rename role t ht hstop
  · intro rename role f cs hempty ht hstop
    rw [ofSubtree.eq_def]
    dsimp only
    rw [if_pos hempty]
    exact .nil (byte_mark_mono ht.start_le_stop hstop)
  · intro rename role f cs layout hempty hvisible ih ht hstop
    rw [ofSubtree.eq_def]
    dsimp only
    rw [if_neg hempty, if_pos hvisible]
    refine .singleton (InLine.laid_parent ?_) (Nat.le_refl _) (Nat.le_refl _)
    exact ih _ _ ht.row_children hstop
  · intro rename role f cs layout hempty hvisible ih ht hstop
    rw [ofSubtree.eq_def]
    dsimp only
    rw [if_neg hempty, if_neg hvisible]
    exact ih _ _ ht.row_children hstop
  · intro layout inherited index p q hrow hq
    rw [ofSubtrees]
    exact .nil (byte_mark_mono hrow.le hq)
  · intro layout outer index c cs extra rename role hlayout hextra hown hrest p q hrow hq
    rw [ofSubtrees, hlayout]
    cases hrow with
    | cons hp hc hcs =>
        have hstop := Nat.le_trans hcs.le hq
        have hlo := byte_mark_mono hp (Nat.le_trans hc.start_le_stop hstop)
        refine InLine.append ?_ (hrest _ _ hcs hq)
        split
        · exact (hextra hc hstop).mono hlo
        · exact (hown hc hstop).mono hlo

/-! ### The tree of a text -/

/-- The tree of every text lies in the text. -/
theorem laid_ofText (text : List Char) : (ofText text).root.Laid := by
  obtain ⟨-, hlaid, hstop⟩ := Row.singleton_iff.mp (row_parse table.get (.ofChars text))
  have hnodes : Node.InLine _ (Node.ofSubtree table.get (.ofChars text) none none
      (Parse.parse table.get (.ofChars text))) _ := Node.inLine_ofSubtree hlaid hstop
  simp only [ofText, Tree.ofSource]
  cases hroot : Node.ofSubtree table.get (.ofChars text) none none
      (Parse.parse table.get (.ofChars text)) with
  | nil => exact Node.laid_default
  | cons root rest =>
      rw [hroot] at hnodes
      exact hnodes.laid root List.mem_cons_self

/-- A visit to the nodes of a text never goes back in the text. -/
theorem toList_ofText_forward (namedOnly : Bool) (text : List Char) :
    (Walk.ofNode namedOnly (ofText text).root).toList.Pairwise fun c d =>
      c.start.byte ≤ d.start.byte := by
  rw [Walk.toList_ofNode]
  exact (laid_ofText text).pairwise_start_listing namedOnly

/-- Nothing but the shape of its words is left to ask of the tree of a text. -/
theorem laidOut_ofText_iff (text : List Char) :
    (ofText text).LaidOut ↔ (ofText text).root.Worded := by
  constructor
  · intro h
    exact h.worded
  · intro hworded
    exact ⟨laid_ofText text, hworded, fun n hn => within_of_mem_ofText hn⟩

end ScriptLint.Script
