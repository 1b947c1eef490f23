import ScriptLint.Proofs.Check.Numbering
import ScriptLint.Proofs.Text.Lines
import ScriptLint.Script.Basic

namespace ScriptLint

open ScriptLint.Text ScriptLint.Check.Heuristics

/-! Places of nodes and numbers of lines: the tree counts line feeds, the checks count
lines. -/

namespace Script.Node

variable {source before before' : List Char} {n m : Node}

theorem location_eq (hn : n.start.Follows before) (hbefore : before <+: source) :
    n.location source = ⟨1 + before.count '\n', 1 + (openLine before).length⟩ := by
  rw [location, Location.ofMark_of_follows hn hbefore, Nat.add_comm 1, Nat.add_comm 1]

/-- No place in a text is further than its length. -/
theorem location_le (hn : n.start.Follows before) (hbefore : before <+: source) :
    (n.location source).line ≤ byteLength source + 1 ∧
      (n.location source).column ≤ byteLength source + 1 := by
  have hlength : before.length ≤ byteLength source :=
    (length_le_byteLength before).trans (byteLength_mono hbefore)
  have hopen : (openLine before).length ≤ before.length :=
    (List.rtakeWhile_suffix _ before).length_le
  have hcount : before.count '\n' ≤ before.length := List.count_le_length
  rw [location_eq hn hbefore]
  constructor <;> dsimp only <;> omega

/-- The place of a node in a text of less than 4 GiB counts the line feeds before it and
the characters since the last. Places are in the order of offsets, and a node in a line has
the number that the line has in the checks. -/
theorem location_numbers_lines (hsize : byteLength source < UInt32.size - 1)
    (hbefore : before <+: source) (hn : n.start.Follows before) :
    n.location source = ⟨1 + before.count '\n', 1 + (openLine before).length⟩ ∧
    slice? source (n.start.byte - n.start.column) n.start.byte = some (openLine before) ∧
    ((n.location source).line < UInt32.size ∧ (n.location source).column < UInt32.size) ∧
    (∀ before' (m : Node), before' <+: source → m.start.Follows before' →
      ((n.location source).Precedes (m.location source) ↔ n.start.byte < m.start.byte)) ∧
    ∀ k line, (lines source)[k]? = some line →
      byteLength (lineStart source k) ≤ n.start.byte →
      n.start.byte ≤ byteLength (lineStart source k) + byteLength line →
      (n.location source).line = k + 1 ∧
      (∀ rules, ((Rule.scan rules source).filter fun x =>
          x.line == some (n.location source).line) =
        Rule.scanLine rules line (n.location source).line) ∧
      ((codeLines source).filter fun l => l.2 == (n.location source).line) =
        if isCommentLine line then [] else [(line, (n.location source).line)] := by
  refine ⟨location_eq hn hbefore, hn.slice?_eq hbefore, ?_, ?_, ?_⟩
  · obtain ⟨hline, hcolumn⟩ := location_le hn hbefore
    omega
  · intro before' m hbefore' hm
    exact Location.precedes_iff hn hm hbefore hbefore'
  · intro k line hline hstart hstop
    rw [hn.byte] at hstart hstop
    have hnumber : (n.location source).line = k + 1 := by
      rw [location_eq hn hbefore, count_of_mem_line hline hbefore hstart hstop]
      exact Nat.add_comm 1 k
    rw [hnumber]
    exact ⟨rfl, fun rules => Rule.filter_scan rules hline, filter_codeLines hline⟩

/-- Two nodes in a line that holds a carriage return and characters of several bytes. -/
theorem location_in_second_line :
    let source := ['é', '\r', '\n', '\u2028', 'b', '\r', '😀', 'x', '\n']
    let before := ['é', '\r', '\n', '\u2028', 'b', '\r']
    let line := ['\u2028', 'b', '\r', '😀', 'x']
    let n := mk .identifier none ⟨9, 1, 5⟩ 13 false []
    let m := mk .identifier none ⟨13, 1, 9⟩ 14 false []
    (byteLength source < UInt32.size - 1 ∧ before <+: source ∧ n.start.Follows before ∧
      before ++ ['😀'] <+: source ∧ m.start.Follows (before ++ ['😀']) ∧
      (lines source)[1]? = some line ∧ byteLength (lineStart source 1) ≤ n.start.byte ∧
      n.start.byte ≤ byteLength (lineStart source 1) + byteLength line) ∧
    n.location source = ⟨2, 4⟩ ∧
    slice? source (n.start.byte - n.start.column) n.start.byte =
      some ['\u2028', 'b', '\r'] ∧
    (n.location source).Precedes (m.location source) ∧
    ((Rule.scan Rule.builtin source).filter fun x => x.line == some
      (n.location source).line) =
      Rule.scanLine Rule.builtin line (n.location source).line ∧
    ((codeLines source).filter fun l => l.2 == (n.location source).line) =
      [(line, 2)] := by
  intro source before line n m
  have hsize : byteLength source < UInt32.size - 1 := by decide
  have hbefore : before <+: source := ⟨['😀', 'x', '\n'], rfl⟩
  have hn : n.start.Follows before := ⟨by decide, by decide, by decide⟩
  have hbefore' : before ++ ['😀'] <+: source := ⟨['x', '\n'], rfl⟩
  have hm : m.start.Follows (before ++ ['😀']) := ⟨by decide, by decide, by decide⟩
  have hline : (lines source)[1]? = some line := by
    rw [lines_eq_map_pieces]
    decide
  have hstart : byteLength (lineStart source 1) ≤ n.start.byte := by decide
  have hstop : n.start.byte ≤ byteLength (lineStart source 1) + byteLength line := by
    decide
  obtain ⟨hlocation, hslice, -, hprecedes, hnumber⟩ :=
    location_numbers_lines hsize hbefore hn
  obtain ⟨hsecond, hscan, hcode⟩ := hnumber 1 line hline hstart hstop
  refine ⟨⟨hsize, hbefore, hn, hbefore', hm, hline, hstart, hstop⟩, hlocation, hslice, ?_,
    hscan Rule.builtin, ?_⟩
  · exact (hprecedes _ m hbefore' hm).mpr (by decide)
  · rw [hsecond] at hcode ⊢
    exact hcode

end Script.Node

end ScriptLint
