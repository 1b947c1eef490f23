import ScriptLint.Proofs.Check.Anchor
import ScriptLint.Proofs.Check.Position
import ScriptLint.Proofs.Script.Place
import ScriptLint.Proofs.Text.Rows

namespace ScriptLint

open ScriptLint.Script ScriptLint.Text

/-! No finding points outside of the text: its line is that of a row, and its column is
that of a character of the row or the next one. -/

variable {s : Script} {x : Finding} {n : Node}

/-- The line of a finding is one of the text, and so is its column if it has one. -/
structure Finding.Inside (source : List Char) (x : Finding) : Prop where
  line : ∃ l, x.line = some l ∧ 1 ≤ l ∧ l ≤ 1 + source.count '\n' ∧ l < UInt32.size
  column : ∀ c, x.column = some c → ∃ l row, x.line = some l ∧
    (rowsOf source)[l - 1]? = some row ∧ 1 ≤ c ∧ c ≤ 1 + row.length ∧ c < UInt32.size

/-! ### Places -/

theorem Text.count_of_mem_lines {source line : List Char} {k : Nat}
    (h : (lines source)[k]? = some line) : k ≤ source.count '\n' := by
  have hbegins : lineStart source k <+: source :=
    (List.prefix_append _ _).trans (lineStart_append_begins h)
  rw [← count_of_mem_line h hbegins (Nat.le_refl _) (Nat.le_add_right _ _)]
  exact hbegins.sublist.count_le _

namespace Script.Node

/-- Where a node starts is a place in the row with the number of its line. -/
theorem exists_row_of_within {source : List Char} (hn : n.start.Within source) :
    ∃ row, (rowsOf source)[(n.location source).line - 1]? = some row ∧
      (1 ≤ (n.location source).line ∧ (n.location source).line ≤ 1 + source.count '\n') ∧
      1 ≤ (n.location source).column ∧ (n.location source).column ≤ 1 + row.length := by
  obtain ⟨before, hbefore, hstart⟩ := hn
  obtain ⟨row, hrow, hopen⟩ := exists_row_of_begins hbefore
  have hcount : before.count '\n' ≤ source.count '\n' := hbefore.sublist.count_le _
  have hlength : (openLine before).length ≤ row.length := hopen.length_le
  rw [location_eq hstart hbefore]
  refine ⟨row, ?_, ?_, ?_⟩
  · rwa [Nat.add_sub_cancel_left]
  · dsimp only
    omega
  · dsimp only
    omega

theorem location_lt_of_within {source : List Char}
    (hsize : byteLength source < UInt32.size - 1) (hn : n.start.Within source) :
    (n.location source).line < UInt32.size ∧ (n.location source).column < UInt32.size := by
  obtain ⟨before, hbefore, hstart⟩ := hn
  obtain ⟨hline, hcolumn⟩ := location_le hstart hbefore
  omega

end Script.Node

/-- What anchors of a script lead to lies inside its text. -/
theorem Script.Anchors.inside (hsize : byteLength s.source < UInt32.size - 1)
    (hnodes : ∀ n ∈ s.root.preorderAll, n.start.Within s.source)
    (h : s.Anchors x.line x.column) : x.Inside s.source := by
  have hcount : s.source.count '\n' ≤ byteLength s.source :=
    List.count_le_length.trans (length_le_byteLength _)
  generalize hl : x.line = line, hc : x.column = column at h
  cases h with
  | top => exact ⟨⟨1, hl, by omega, by omega, by decide⟩, by simp [hc]⟩
  | @line k _ hline =>
      have hk := count_of_mem_lines hline
      exact ⟨⟨k + 1, hl, by omega, by omega, by omega⟩, by simp [hc]⟩
  | row hn =>
      obtain ⟨row, -, hline, -⟩ := Node.exists_row_of_within (hnodes _ hn)
      have hlt := Node.location_lt_of_within hsize (hnodes _ hn)
      exact ⟨⟨_, hl, hline.1, hline.2, hlt.1⟩, by simp [hc]⟩
  | node hn =>
      obtain ⟨row, hrow, hline, hcolumn⟩ := Node.exists_row_of_within (hnodes _ hn)
      have hlt := Node.location_lt_of_within hsize (hnodes _ hn)
      refine ⟨⟨_, hl, hline.1, hline.2, hlt.1⟩, fun c hcol => ?_⟩
      obtain rfl := Option.some.inj (hc.symm.trans hcol)
      exact ⟨_, row, hl, hrow, hcolumn.1, hcolumn.2, hlt.2⟩

/-! ### All findings -/

/-- Every finding on a script has a place in its text. A rejection has a column, and on
what is no rejection those findings have one that show a node. -/
structure Script.Placed (s : Script) (entryName : String) (fs : List Finding) : Prop where
  inside : ∀ x ∈ fs, x.Inside s.source
  rejected : ∀ r, s.rejection? = some r → ∃ x, fs = [x] ∧ x.message = r.message ∧
    x.line = some r.location.line ∧ x.column = some r.location.column
  accepted : s.rejection? = none → ∀ x ∈ fs, x.column.isSome ↔ x.Pinpoints entryName

namespace Validator

variable {rules : List Rule} {entryName : String} {outputs : List Socket}
  {inputs : Option (List Socket)}

theorem anchored_of_mem_judge (hs : s.rejection? = none)
    (hx : x ∈ ((ofRules rules entryName).judge s outputs inputs).findings) :
    (Context.ofScript s entryName outputs inputs).Anchored x := by
  rw [judge_ofRules_of_none hs] at hx
  exact Check.anchored_of_mem_report (fun _ hf => Context.mem_topLevel_of_function? hf) hx

theorem anchors_of_mem_judge
    (hx : x ∈ ((ofRules rules entryName).judge s outputs inputs).findings) :
    s.Anchors x.line x.column := by
  cases hs : s.rejection? with
  | some r =>
      obtain ⟨n, hn, hlocation⟩ := exists_location_of_rejection? hs
      rw [judge_of_rejection hs, List.mem_singleton] at hx
      rw [hx, Rejection.finding, Finding.atLocation, hlocation]
      exact .node hn
  | none => exact (anchored_of_mem_judge hs hx).place

theorem placed_judge (hsize : byteLength s.source < UInt32.size - 1)
    (hnodes : ∀ n ∈ s.root.preorderAll, n.start.Within s.source) :
    s.Placed entryName ((ofRules rules entryName).judge s outputs inputs).findings where
  inside _ hx := (anchors_of_mem_judge hx).inside hsize hnodes
  rejected r hr := by
    rw [judge_of_rejection hr]
    exact ⟨r.finding, rfl, rfl, rfl, rfl⟩
  accepted hs _ hx := (anchored_of_mem_judge hs hx).column

/-- All findings on a text of less than 4 GiB point into it, and only a rejection, a
top-level return and an undeclared input are shown by their columns. This holds for any
tree whose nodes start in the text, and so for the tree that a text has. -/
theorem findings_placed (rules : List Rule) (entryName : String) (outputs : List Socket)
    (inputs : Option (List Socket)) :
    (∀ s : Script, byteLength s.source < UInt32.size - 1 →
      (∀ n ∈ s.root.preorderAll, n.start.Within s.source) →
        s.Placed entryName ((ofRules rules entryName).judge s outputs inputs).findings) ∧
    ∀ text : List Char, byteLength text < UInt32.size - 1 →
      (Script.ofText text).Placed entryName
        ((ofRules rules entryName).validate text outputs inputs).findings :=
  ⟨fun _ hsize hnodes => placed_judge hsize hnodes,
    fun _ hsize => placed_judge hsize fun _ hn => within_of_mem_ofText hn⟩

def returnBehindComment : Node :=
  .mk .returnStatement none ⟨7, 1, 6⟩ 13 false [
    .mk (.token "return") none ⟨7, 1, 6⟩ 13 false []]

/-- A script that returns in its second line, behind a comment with a character of two
bytes. -/
def returningBehindComment : Script where
  source := ['\n', '/', '*', 'é', '*', '/', 'r', 'e', 't', 'u', 'r', 'n']
  root := .mk .program none ⟨0, 0, 0⟩ 13 false [
    .mk .comment none ⟨1, 1, 0⟩ 7 false [],
    returnBehindComment]
  flawed := false

theorem findings_placed_behind_comment :
    (byteLength returningBehindComment.source < UInt32.size - 1 ∧
      ∀ n ∈ returningBehindComment.root.preorderAll,
        n.start.Within returningBehindComment.source) ∧
    returningBehindComment.Placed "f"
      ((ofRules [] "f").judge returningBehindComment [] none).findings ∧
    (Script.ofText returningBehindComment.source).Placed "f"
      ((ofRules [] "f").validate returningBehindComment.source [] none).findings ∧
    ∃ x ∈ ((ofRules [] "f").judge returningBehindComment [] none).findings,
      x.line = some 2 ∧ x.column = some 6 := by
  have hsize : byteLength returningBehindComment.source < UInt32.size - 1 := by decide
  have hnodes : ∀ n ∈ returningBehindComment.root.preorderAll,
      n.start.Within returningBehindComment.source := by
    have hstarts : ∀ n ∈ returningBehindComment.root.preorderAll,
        n.start = ⟨0, 0, 0⟩ ∨ n.start = ⟨1, 1, 0⟩ ∨ n.start = ⟨7, 1, 6⟩ := by decide
    intro n hn
    rcases hstarts n hn with h | h | h <;> rw [h]
    · exact Mark.within_origin _
    · exact ⟨['\n'], ⟨_, rfl⟩, ⟨by decide, by decide, by decide⟩⟩
    · exact ⟨['\n', '/', '*', 'é', '*', '/'], ⟨_, rfl⟩, ⟨by decide, by decide, by decide⟩⟩
  have haccepted : returningBehindComment.rejection? = none := by
    rw [rejection?_eq_none_iff rfl]
    exact ⟨rfl, by decide, by decide⟩
  obtain ⟨htree, htext⟩ := findings_placed [] "f" [] none
  refine ⟨⟨hsize, hnodes⟩, htree _ hsize hnodes, htext _ hsize, ?_⟩
  have hreturns :
      Check.Structure.topLevelReturns (.ofScript returningBehindComment "f" [] none) =
      [returnBehindComment] := rfl
  have hmem := List.mem_singleton_self returnBehindComment
  rw [← hreturns] at hmem
  rw [judge_ofRules_of_none haccepted]
  refine ⟨_,
    Check.mem_report.mpr (.inl (List.mem_append_right _ (List.mem_map_of_mem hmem))),
    ?_, ?_⟩
  · decide
  · decide

end Validator

end ScriptLint
