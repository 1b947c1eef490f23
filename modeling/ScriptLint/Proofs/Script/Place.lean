import ScriptLint.Proofs.Script.Tree
import ScriptLint.Proofs.Text.Mark
import ScriptLint.Script.Basic

namespace ScriptLint

open ScriptLint.Grammar ScriptLint.Parse ScriptLint.Script ScriptLint.Text

/-! Where the nodes of a text's tree start. -/

/-- A mark between two characters of a source. -/
def Text.Mark.Within (source : List Char) (m : Mark) : Prop :=
  ∃ before, before <+: source ∧ m.Follows before

theorem Text.Mark.within_origin (source : List Char) : Mark.origin.Within source :=
  ⟨[], List.nil_prefix, follows_origin⟩

namespace Parse.Input

/-- One step of going through a text: the mark reached is kept, and one more character
passed. -/
private def walk (s : Array Mark × Mark) (c : Char) : Array Mark × Mark :=
  (s.1.push s.2, s.2.advance c)

private theorem foldl_walk (cs : List Char) :
    cs.foldl walk (#[], Mark.origin) =
      (((List.range cs.length).map fun i => Mark.after (cs.take i)).toArray,
        Mark.after cs) := by
  induction cs using List.reverseRecOn with
  | nil => rfl
  | append_singleton cs c ih =>
      have htake : ((List.range cs.length).map fun i => Mark.after ((cs ++ [c]).take i)) =
          (List.range cs.length).map fun i => Mark.after (cs.take i) := by
        refine List.map_congr_left fun i hi => ?_
        rw [List.take_append_of_le_length (Nat.le_of_lt (List.mem_range.mp hi))]
      rw [List.foldl_append, ih, List.length_append, List.length_singleton,
        List.range_succ, List.map_append, htake, Mark.after, Mark.after, List.foldl_append]
      simp [walk, Mark.after]

theorem marks_ofChars (source : List Char) :
    (ofChars source).marks =
      ((List.range (source.length + 1)).map fun p => Mark.after
        (source.take p)).toArray := by
  have hwalk := congrArg Prod.fst (foldl_walk source)
  rw [List.range_succ, List.map_append, List.map_singleton, List.take_length]
  change (source.foldl walk (#[], Mark.origin)).1.push (Mark.after source) = _
  rw [hwalk, List.push_toArray]

/-- The mark of a place is that of the text before it. -/
theorem mark_ofChars {source : List Char} {p : Nat} (hp : p ≤ source.length) :
    (ofChars source).mark p = Mark.after (source.take p) := by
  rw [mark, marks_ofChars]
  simp [Nat.lt_succ_of_le hp]

theorem within_mark (source : List Char) (p : Nat) :
    ((ofChars source).mark p).Within source := by
  by_cases hp : p ≤ source.length
  · rw [mark_ofChars hp]
    exact ⟨source.take p, List.take_prefix p source, Mark.follows_after _⟩
  · have hsize : (ofChars source).marks.size ≤ p := by
      rw [marks_ofChars, List.size_toArray, List.length_map, List.length_range]
      omega
    rw [mark, Array.getD_eq_getD_getElem?, Array.getElem?_eq_none hsize]
    exact Mark.within_origin source

end Parse.Input

namespace Script

theorem Node.within_of_mem_ofSubtree (source : List Char) (table : Table)
    (rename : Option Alias) (role : Option String) (t : Subtree) :
    ∀ n ∈ preorderAllList (ofSubtree table (.ofChars source) rename role t),
      n.start.Within source := by
  -- A hidden subtree hands on what its children leave: the induction is on lists of nodes.
  refine ofSubtree.induct table
    (fun rename role t => ∀ n ∈ preorderAllList
      (ofSubtree table (.ofChars source) rename role t),
      n.start.Within source)
    (fun layout inherited index ts =>
      ∀ n ∈ preorderAllList (ofSubtrees table (.ofChars source) layout inherited index ts),
        n.start.Within source) ?_ ?_ ?_ ?_ ?_ rename role t
  · intro rename role f cs hempty
    rw [ofSubtree.eq_def]
    dsimp only
    rw [if_pos hempty]
    nofun
  · intro rename role f cs layout hempty hvisible ih
    rw [ofSubtree.eq_def]
    dsimp only
    rw [if_neg hempty, if_pos hvisible]
    simp only [preorderAllList, preorderAll, List.append_nil]
    exact List.forall_mem_cons.mpr ⟨Input.within_mark source f.start, ih⟩
  · intro rename role f cs layout hempty hvisible ih
    rw [ofSubtree.eq_def]
    dsimp only
    rw [if_neg hempty, if_neg hvisible]
    exact ih
  · intro layout inherited index
    rw [ofSubtrees]
    nofun
  · intro layout inherited index c cs extra rename role hrow hextra hown hrest
    rw [ofSubtrees, hrow]
    simp only [preorderAllList_eq, List.flatMap_append, List.forall_mem_append] at *
    refine ⟨?_, hrest⟩
    split
    · exact hextra
    · exact hown

/-- Every node of a text's tree starts between two characters. -/
theorem within_of_mem_ofText {text : List Char} {n : Node}
    (hn : n ∈ (ofText text).root.preorderAll) : n.start.Within text := by
  have hall := Node.within_of_mem_ofSubtree text table.get none none
    (Parse.parse table.get (.ofChars text))
  simp only [ofText, Tree.ofSource] at hn
  cases hroot : Node.ofSubtree table.get (.ofChars text) none none
      (Parse.parse table.get (.ofChars text)) with
  | nil =>
      rw [hroot, List.headD_nil] at hn
      obtain rfl := List.mem_singleton.mp hn
      exact Mark.within_origin text
  | cons root rest =>
      rw [hroot, List.headD_cons] at hn
      rw [hroot] at hall
      exact hall n (List.mem_append_left _ hn)

/-- The places of nodes are in the order of their offsets. -/
theorem Node.precedes_iff_of_within {source : List Char} {n m : Node}
    (hn : n.start.Within source) (hm : m.start.Within source) :
    (n.location source).Precedes (m.location source) ↔ n.start.byte < m.start.byte := by
  obtain ⟨before, hbefore, hstart⟩ := hn
  obtain ⟨before', hbefore', hstart'⟩ := hm
  exact Location.precedes_iff hstart hstart' hbefore hbefore'

end Script

end ScriptLint
