import Mathlib.Data.List.Forall2
import Mathlib.Data.List.Infix
import ScriptLint.Proofs.Check.Numbering
import ScriptLint.Proofs.Text.Lines

namespace ScriptLint

open ScriptLint.Text

/-! The scan of a source for rules: the order of what it finds, and how it goes through the
lines. -/

/-! ### Lines of texts put together -/

namespace Text

variable {a line : List Char}

/-- A text is empty, one line without an end, or a line with its end and a text behind
it. -/
@[elab_as_elim]
theorem lines_induction {motive : List Char → Prop} (nil : motive [])
    (last : ∀ line, line ≠ [] → '\n' ∉ line → motive line)
    (feed : ∀ line rest, '\n' ∉ line → motive rest → motive (line ++ '\n' :: rest))
    (source : List Char) : motive source := by
  fun_induction lines source with
  | case1 => exact nil
  | case2 c cs line h =>
      obtain ⟨-, hmem⟩ := splitLine_none h
      exact last (c :: cs) (List.cons_ne_nil c cs) hmem
  | case3 c cs line rest h ih =>
      obtain ⟨hcs, hmem⟩ := splitLine_some h
      rw [hcs]
      exact feed line rest hmem ih

theorem lines_nil : lines [] = [] := by rw [lines_eq_map_pieces, pieces, List.map_nil]

theorem lines_append_feed (h : '\n' ∉ line) (rest : List Char) :
    lines (line ++ '\n' :: rest) = dropReturn line :: lines rest := by
  rw [lines_eq_map_pieces, pieces_append_feed h, List.map_cons, lineOf_append_feed,
    ← lines_eq_map_pieces]

def Ended (a : List Char) : Prop := a = [] ∨ a.getLast? = some '\n'

theorem Ended.of_append_feed {rest : List Char} (h : Ended (line ++ '\n' :: rest)) :
    Ended rest := by
  cases rest with
  | nil => exact .inl rfl
  | cons c rest =>
      obtain hnil | hlast := h
      · exact absurd hnil (List.append_ne_nil_of_right_ne_nil line (List.cons_ne_nil _ _))
      · rw [List.getLast?_append_cons, List.getLast?_cons_cons] at hlast
        exact .inr hlast

theorem Ended.feed_mem (hne : a ≠ []) (h : Ended a) : '\n' ∈ a :=
  List.mem_of_getLast? (h.resolve_left hne)

theorem lines_append (b : List Char) (h : Ended a) :
    lines (a ++ b) = lines a ++ lines b := by
  induction a using lines_induction with
  | nil => rw [lines_nil, List.nil_append, List.nil_append]
  | last line hne hmem => exact absurd (h.feed_mem hne) hmem
  | feed line rest hmem ih =>
      rw [List.append_assoc, List.cons_append, lines_append_feed hmem,
        lines_append_feed hmem, ih h.of_append_feed, List.cons_append]

theorem length_lines (h : Ended a) : (lines a).length = a.count '\n' := by
  induction a using lines_induction with
  | nil => rw [lines_nil, List.length_nil, List.count_nil]
  | last line hne hmem => exact absurd (h.feed_mem hne) hmem
  | feed line rest hmem ih =>
      rw [lines_append_feed hmem, List.length_cons, ih h.of_append_feed, List.count_append,
        List.count_eq_zero.mpr hmem, List.count_cons_self, Nat.zero_add]

/-! ### Lines that end in two characters -/

def withReturns (source : List Char) : List Char :=
  source.flatMap fun c => if c = '\n' then ['\r', '\n'] else [c]

theorem withReturns_of_not_mem (h : '\n' ∉ line) : withReturns line = line := by
  induction line with
  | nil => rfl
  | cons c line ih =>
      rw [List.mem_cons, not_or] at h
      rw [withReturns, List.flatMap_cons, if_neg (Ne.symm h.1), ← withReturns, ih h.2,
        List.singleton_append]

theorem withReturns_append_feed (h : '\n' ∉ line) (rest : List Char) :
    withReturns (line ++ '\n' :: rest) = (line ++ ['\r']) ++ '\n' :: withReturns rest := by
  rw [withReturns, List.flatMap_append, List.flatMap_cons, if_pos rfl, ← withReturns,
    ← withReturns, withReturns_of_not_mem h, List.append_assoc]
  rfl

theorem dropReturn_append_return (line : List Char) :
    dropReturn (line ++ ['\r']) = line := by
  simp [dropReturn]

theorem dropReturn_of_append_feed {rest : List Char}
    (h : ¬ ['\r', '\n'] <:+: line ++ '\n' :: rest) : dropReturn line = line := by
  apply if_neg
  intro hlast
  apply h
  refine ⟨line.dropLast, rest, ?_⟩
  conv_rhs => rw [← List.dropLast_append_getLast? _ hlast]
  simp

theorem lines_withReturns {source : List Char} (h : ¬ ['\r', '\n'] <:+: source) :
    lines (withReturns source) = lines source := by
  induction source using lines_induction with
  | nil => rfl
  | last line hne hmem => rw [withReturns_of_not_mem hmem]
  | feed line rest hmem ih =>
      have hreturn : '\n' ∉ line ++ ['\r'] := by simpa using hmem
      have hrest : ¬ ['\r', '\n'] <:+: rest := fun hr =>
        h (hr.trans (List.suffix_append_of_suffix (List.suffix_cons '\n' rest)).isInfix)
      rw [withReturns_append_feed hmem, lines_append_feed hreturn, lines_append_feed hmem,
        dropReturn_append_return, dropReturn_of_append_feed h, ih hrest]

end Text

/-! ### Findings in order -/

def Finding.later (n : Nat) (x : Finding) : Finding :=
  { x with line := x.line.map (· + n) }

namespace Rule

variable {rules : List Rule} {source : List Char}

/-- The line with the first number matches the rule with the second as its index in a
table. -/
def Hits (rules : List Rule) (source : List Char) (place : Nat × Nat)
    (x : Finding) : Prop :=
  ∃ k line r, place.1 = k + 1 ∧ (lines source)[k]? = some line ∧ rules[place.2]? = some r ∧
    r.matchesLine line = true ∧ x = r.finding place.1

/-- What rules find on a line, with the places of the findings. -/
def hitsOn (rules : List Rule) (line : List Char) (number : Nat) :
    List ((Nat × Nat) × Finding) :=
  (rules.zipIdx.filter fun (r, _) => r.matchesLine line).map
    fun (r, i) => ((number, i), r.finding number)

def hits (rules : List Rule) (source : List Char) : List ((Nat × Nat) × Finding) :=
  ((lines source).zipIdx 1).flatMap fun (line, number) => hitsOn rules line number

theorem map_snd_hitsOn (rules : List Rule) (line : List Char) (number : Nat) :
    (hitsOn rules line number).map Prod.snd = scanLine rules line number := by
  have hrules : rules.filter (·.matchesLine line) =
      (rules.zipIdx.filter fun (r, _) => r.matchesLine line).map Prod.fst := by
    conv_lhs => rw [← List.zipIdx_map_fst 0 rules]
    rw [List.filter_map]
    rfl
  rw [hitsOn, scanLine, hrules, List.map_map, List.map_map]
  rfl

theorem map_snd_hits (rules : List Rule) (source : List Char) :
    (hits rules source).map Prod.snd = scan rules source := by
  rw [hits, List.map_flatMap]
  simp only [map_snd_hitsOn]
  rfl

theorem mem_hits_iff {h : (Nat × Nat) × Finding} :
    h ∈ hits rules source ↔ Hits rules source h.1 h.2 := by
  obtain ⟨⟨number, i⟩, x⟩ := h
  simp only [hits, hitsOn, Hits, List.mem_flatMap, List.mem_map, List.mem_filter,
    Prod.exists, mem_numbered_iff, List.mk_mem_zipIdx_iff_getElem?, Prod.mk.injEq]
  constructor
  · rintro ⟨line, n, ⟨k, hline, rfl⟩, r, j, ⟨hr, hmatch⟩, ⟨rfl, rfl⟩, rfl⟩
    exact ⟨k, line, r, rfl, hline, hr, hmatch, rfl⟩
  · rintro ⟨k, line, r, rfl, hline, hr, hmatch, rfl⟩
    exact ⟨line, k + 1, ⟨k, hline, rfl⟩, r, i, ⟨hr, hmatch⟩, ⟨rfl, rfl⟩, rfl⟩

theorem pairwise_zipIdx {α : Type} (as : List α) (n : Nat) :
    (as.zipIdx n).Pairwise fun a b => a.2 < b.2 := by
  apply List.Pairwise.of_map Prod.snd fun _ _ h => h
  rw [List.zipIdx_map_snd]
  exact List.pairwise_lt_range'

theorem pairwise_hits (rules : List Rule) (source : List Char) :
    ((hits rules source).map Prod.fst).Pairwise (Prod.Lex (· < ·) (· < ·)) := by
  rw [List.pairwise_map, hits, List.pairwise_flatMap]
  constructor
  · intro (line, number) _
    simp only [hitsOn, List.pairwise_map]
    apply ((pairwise_zipIdx rules 0).filter _).imp
    intro a b h
    exact Prod.Lex.right _ h
  · apply (pairwise_zipIdx (lines source) 1).imp
    intro l l' hl a ha b hb
    obtain ⟨r, -, rfl⟩ := List.mem_map.mp ha
    obtain ⟨r', -, rfl⟩ := List.mem_map.mp hb
    exact Prod.Lex.left _ _ hl

theorem scanLine_add (rules : List Rule) (line : List Char) (number n : Nat) :
    scanLine rules line (number + n) =
      (scanLine rules line number).map (Finding.later n) := by
  rw [scanLine, scanLine, List.map_map]
  rfl

theorem scan_append {a : List Char} (b : List Char) (h : Ended a) :
    scan rules (a ++ b) =
      scan rules a ++ (scan rules b).map (Finding.later (a.count '\n')) := by
  -- Each line feed of `a` ends one of its lines, so the lines of `b` are numbered on from
  -- there.
  have hshift : (lines b).zipIdx (1 + a.count '\n') =
      ((lines b).zipIdx 1).map fun (line, number) => (line, number + a.count '\n') := by
    conv_rhs => rw [List.zipIdx_eq_map_add, List.map_map]
    rw [List.zipIdx_eq_map_add]
    apply List.map_congr_left
    intro (line, number) _
    exact congrArg (Prod.mk line) (Nat.add_right_comm 1 (a.count '\n') number)
  rw [scan, lines_append b h, List.zipIdx_append, List.flatMap_append, length_lines h,
    hshift, List.flatMap_map, scan, scan, List.map_flatMap]
  simp only [scanLine_add]

/-- A scan finds the rules that match a line, in the order of lines and of rules on a line,
the built-in ones first; it goes on with the lines behind others as it does from the start,
and the way in which lines end makes no difference. -/
theorem scan_line_by_line (extra : List Rule) :
    (∀ source, ∃ places : List (Nat × Nat),
      places.Pairwise (Prod.Lex (· < ·) (· < ·)) ∧
      (∀ place, place ∈ places ↔ ∃ x, Hits (builtin ++ extra) source place x) ∧
      List.Forall₂ (Hits (builtin ++ extra) source) places
        (scan (withBuiltin extra) source)) ∧
    (∀ a b, a = [] ∨ a.getLast? = some '\n' →
      scan (withBuiltin extra) (a ++ b) =
        scan (withBuiltin extra) a ++
          (scan (withBuiltin extra) b).map (Finding.later (a.count '\n'))) ∧
    ∀ source, ¬ ['\r', '\n'] <:+: source →
      scan (withBuiltin extra) (withReturns source) = scan (withBuiltin extra) source := by
  refine ⟨?_, ?_, ?_⟩
  · intro source
    refine ⟨(hits (builtin ++ extra) source).map Prod.fst, pairwise_hits _ source, ?_, ?_⟩
    · intro place
      simp only [List.mem_map, Prod.exists, exists_and_right, exists_eq_right,
        mem_hits_iff]
    · rw [withBuiltin, ← map_snd_hits, List.forall₂_map_left_iff,
        List.forall₂_map_right_iff, List.forall₂_same]
      intro h hmem
      exact mem_hits_iff.mp hmem
  · intro a b h
    exact scan_append b h
  · intro source h
    rw [scan, scan, lines_withReturns h]

def blankLine : Rule := ⟨"^$", "blank line", .seq (.look .textStart) (.look .textEnd)⟩

theorem scan_line_by_line_blankLine :
    ("a\n".toList.getLast? = some '\n' ∧
      scan (withBuiltin [blankLine]) ("a\n".toList ++ "\nb".toList) =
        scan (withBuiltin [blankLine]) "a\n".toList ++
          (scan (withBuiltin [blankLine]) "\nb".toList).map (Finding.later 1)) ∧
    (¬ ['\r', '\n'] <:+: "a\n\nb".toList ∧
      scan (withBuiltin [blankLine]) "a\r\n\r\nb".toList =
        scan (withBuiltin [blankLine]) "a\n\nb".toList) := by
  obtain ⟨-, happend, hreturns⟩ := scan_line_by_line [blankLine]
  have hlast : "a\n".toList.getLast? = some '\n' := rfl
  have hfree : ¬ ['\r', '\n'] <:+: "a\n\nb".toList := by decide
  exact ⟨⟨hlast, happend "a\n".toList "\nb".toList (.inr hlast)⟩,
    hfree, hreturns "a\n\nb".toList hfree⟩

end Rule

end ScriptLint
