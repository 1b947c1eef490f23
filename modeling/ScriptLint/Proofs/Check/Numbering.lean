import Mathlib.Data.List.Basic
import ScriptLint.Check.Heuristics

namespace ScriptLint

open ScriptLint.Text

/-! The numbers that checks give to lines. -/

variable {source : List Char} {line : List Char} {number : Nat}

/-- Lines are numbered from 1 in their order. -/
theorem mem_numbered_iff {ls : List (List Char)} :
    (line, number) ∈ ls.zipIdx 1 ↔ ∃ k, ls[k]? = some line ∧ number = k + 1 := by
  rw [List.mk_mem_zipIdx_iff_le_and_getElem?_sub]
  constructor
  · rintro ⟨hle, hget⟩
    exact ⟨number - 1, hget, by omega⟩
  · rintro ⟨k, hget, rfl⟩
    exact ⟨by omega, by simpa using hget⟩

/-- Each number is given to one line. -/
theorem filter_zipIdx {ls : List (List Char)} {k : Nat} (first : Nat)
    (h : ls[k]? = some line) :
    ((ls.zipIdx first).filter fun l => l.2 == first + k) = [(line, first + k)] := by
  induction ls generalizing first k with
  | nil => cases h
  | cons l ls ih =>
      rw [List.zipIdx_cons, List.filter_cons]
      cases k with
      | zero =>
          obtain rfl := Option.some.inj h
          have hlater : ((ls.zipIdx (first + 1)).filter fun l => l.2 == first) = [] := by
            refine List.filter_eq_nil_iff.mpr ?_
            rintro ⟨l', number⟩ hl'
            have hle := List.le_snd_of_mem_zipIdx hl'
            rw [beq_iff_eq]
            exact Nat.ne_of_gt hle
          simp [hlater]
      | succ k =>
          have hfirst : ¬ (first == first + (k + 1)) = true := by simp
          rw [if_neg hfirst, Nat.add_comm k 1, ← Nat.add_assoc]
          exact ih (first + 1) h

theorem filter_numbered {ls : List (List Char)} {k : Nat} (h : ls[k]? = some line) :
    ((ls.zipIdx 1).filter fun l => l.2 == k + 1) = [(line, k + 1)] := by
  have hfilter := filter_zipIdx 1 h
  rwa [Nat.add_comm] at hfilter

theorem Rule.mem_scan_iff {rules : List Rule} {x : Finding} :
    x ∈ scan rules source ↔ ∃ k line, (lines source)[k]? = some line ∧
      ∃ r ∈ rules, r.matchesLine line = true ∧ x = r.finding (k + 1) := by
  simp only [scan, scanLine, List.mem_flatMap, List.mem_map, List.mem_filter, Prod.exists,
    mem_numbered_iff]
  constructor
  · rintro ⟨line, number, ⟨k, hget, rfl⟩, r, ⟨hr, hmatch⟩, rfl⟩
    exact ⟨k, line, hget, r, hr, hmatch, rfl⟩
  · rintro ⟨k, line, hget, r, hr, hmatch, rfl⟩
    exact ⟨line, k + 1, ⟨k, hget, rfl⟩, r, ⟨hr, hmatch⟩, rfl⟩

theorem Rule.exists_mem_scan_iff {rules : List Rule} :
    (∃ x, x ∈ scan rules source) ↔
      ∃ line ∈ lines source, ∃ r ∈ rules, r.matchesLine line = true := by
  simp only [mem_scan_iff]
  constructor
  · rintro ⟨x, k, line, hget, r, hr, hmatch, -⟩
    exact ⟨line, List.mem_of_getElem? hget, r, hr, hmatch⟩
  · rintro ⟨line, hline, r, hr, hmatch⟩
    obtain ⟨k, hget⟩ := List.getElem?_of_mem hline
    exact ⟨r.finding (k + 1), k, line, hget, r, hr, hmatch, rfl⟩

theorem Rule.filter_scanLine (rules : List Rule) (line : List Char) (k number : Nat) :
    ((scanLine rules line k).filter fun x => x.line == some number) =
      if k == number then scanLine rules line k else [] := by
  split
  · next hk =>
      refine List.filter_eq_self.mpr fun x hx => ?_
      obtain ⟨r, -, rfl⟩ := List.mem_map.mp hx
      simpa [finding] using hk
  · next hk =>
      refine List.filter_eq_nil_iff.mpr fun x hx => ?_
      obtain ⟨r, -, rfl⟩ := List.mem_map.mp hx
      simpa [finding] using hk

theorem Rule.filter_flatMap_scanLine (rules : List Rule) (ls : List (List Char × Nat))
    (number : Nat) :
    ((ls.flatMap fun l => scanLine rules l.1 l.2).filter fun x => x.line == some number) =
      (ls.filter fun l => l.2 == number).flatMap fun l => scanLine rules l.1 l.2 := by
  induction ls with
  | nil => rfl
  | cons l ls ih =>
      rw [List.flatMap_cons, List.filter_append, ih, filter_scanLine, List.filter_cons]
      split
      · rw [List.flatMap_cons]
      · rw [List.nil_append]

/-- The findings with the number of a line are those on the line. -/
theorem Rule.filter_scan (rules : List Rule) {k : Nat}
    (h : (lines source)[k]? = some line) :
    ((scan rules source).filter fun x => x.line == some (k + 1)) =
      scanLine rules line (k + 1) := by
  have hscan := filter_flatMap_scanLine rules ((lines source).zipIdx 1) (k + 1)
  rw [filter_numbered h, List.flatMap_singleton] at hscan
  exact hscan

theorem Check.Heuristics.filter_codeLines {k : Nat} (h : (lines source)[k]? = some line) :
    ((codeLines source).filter fun l => l.2 == k + 1) =
      if isCommentLine line then [] else [(line, k + 1)] := by
  rw [codeLines, List.filter_comm, filter_numbered h]
  by_cases hcomment : isCommentLine line <;> simp [hcomment]

end ScriptLint
