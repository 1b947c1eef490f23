import Mathlib.Data.Finset.Card
import Mathlib.Data.Finset.Range
import Mathlib.Logic.Function.Iterate
import ScriptLint.Pattern.Basic

namespace ScriptLint

open ScriptLint.Text

/-! What a pattern matches, said of texts and of what stands around them, and that the
search for a match by sets of places finds exactly this. -/

/-- What may be said of a text between two others. -/
abbrev Stretch := List Char → List Char → List Char → Prop

namespace Stretch

variable {R S : Stretch} {line : List Char} {i j : Nat}

def Then (R S : Stretch) : Stretch := fun before inner after =>
  ∃ x y, inner = x ++ y ∧ R before x (y ++ after) ∧ S (before ++ x) y after

def Repeats (R : Stretch) : Nat → Stretch
  | 0 => fun _ inner _ => inner = []
  | n + 1 => R.Then (R.Repeats n)

/-- In a line a stretch of a kind leads from one place to another. -/
def Links (line : List Char) (R : Stretch) (i j : Nat) : Prop :=
  ∃ before inner after, line = before ++ (inner ++ after) ∧ before.length = i ∧
    (before ++ inner).length = j ∧ R before inner after

theorem Links.le_length (h : Links line R i j) : j ≤ line.length := by
  obtain ⟨before, inner, after, rfl, -, rfl, -⟩ := h
  rw [← List.append_assoc]
  exact (List.prefix_append (before ++ inner) after).length_le

theorem links_then :
    Links line (R.Then S) i j ↔ ∃ k, Links line R i k ∧ Links line S k j := by
  constructor
  · rintro ⟨before, _, after, rfl, rfl, rfl, x, y, rfl, hx, hy⟩
    refine ⟨(before ++ x).length, ⟨before, x, y ++ after, ?_, rfl, rfl, hx⟩,
      ⟨before ++ x, y, after, ?_, rfl, ?_, hy⟩⟩
    · rw [List.append_assoc x]
    · simp only [List.append_assoc]
    · rw [List.append_assoc]
  · rintro ⟨_, ⟨before, x, rest, rfl, rfl, rfl, hx⟩,
      ⟨before', y, after, hline, hlength, rfl, hy⟩⟩
    rw [← List.append_assoc] at hline
    obtain ⟨rfl, rfl⟩ := List.append_inj hline hlength.symm
    refine ⟨before, x ++ y, after, ?_, rfl, ?_, x, y, rfl, hx, hy⟩
    · rw [List.append_assoc x]
    · rw [List.append_assoc]

theorem links_empty :
    Links line (fun _ inner _ => inner = []) i j ↔ i ≤ line.length ∧ i = j := by
  constructor
  · rintro ⟨before, _, after, rfl, rfl, rfl, rfl⟩
    simp
  · rintro ⟨hle, rfl⟩
    exact ⟨line.take i, [], line.drop i, by simp, by simp [hle], by simp [hle], rfl⟩

end Stretch

open Stretch

namespace Pattern

/-- The pattern matches a text between two others. -/
def Reads (word : Bool → Char → Bool) : Pattern → Stretch
  | empty => fun _ inner _ => inner = []
  | chars set => fun _ inner _ => ∃ c, inner = [c] ∧ set.contains c = true
  | look l => fun before inner after =>
      inner = [] ∧ l.fits word before.getLast? after.head? = true
  | seq p q => (p.Reads word).Then (q.Reads word)
  | alt p q => fun before inner after => p.Reads word before inner after ∨
      q.Reads word before inner after
  | times least most p => fun before inner after =>
      ∃ n, least ≤ n ∧ (∀ m, most = some m → n ≤ max least m) ∧
        (p.Reads word).Repeats n before inner after

theorem reads_atLeast (word : Bool → Char → Bool) (least : Nat) (p : Pattern) :
    (times least none p).Reads word = fun before inner after =>
      ∃ n, least ≤ n ∧ (p.Reads word).Repeats n before inner after := by
  funext before inner after
  simp [Reads]

theorem reads_atMost (word : Bool → Char → Bool) (least m : Nat) (p : Pattern) :
    (times least (some m) p).Reads word = fun before inner after =>
      ∃ n, (least ≤ n ∧ n ≤ max least m) ∧
        (p.Reads word).Repeats n before inner after := by
  funext before inner after
  simp [Reads, and_assoc]

end Pattern

/-! ### Sets of places -/

namespace Places

variable {line : List Char} {s : Places} {j k : Nat} {p : Option Char → Option Char → Bool}

def Within (line : List Char) (s : Places) : Prop :=
  ∀ i, s.testBit i = true → i ≤ line.length

theorem testBit_put (acc k j : Nat) (b : Bool) :
    (if b then acc ||| 1 <<< k else acc).testBit j = true ↔
      acc.testBit j = true ∨ b = true ∧ j = k := by
  cases b with
  | false => simp only [Bool.false_eq_true, if_false, false_and, or_false]
  | true =>
      rw [if_pos rfl, Nat.testBit_or, Bool.or_eq_true, Nat.one_shiftLeft,
        Nat.testBit_two_pow, decide_eq_true_eq, eq_comm (a := k), eq_self, true_and]

theorem getLast?_cons_or (c : Char) (x : List Char) (before : Option Char) :
    (c :: x).getLast?.or before = x.getLast?.or (some c) := by
  rw [List.getLast?_cons]
  cases x.getLast? <;> rfl

theorem testBit_go (before : Option Char) (acc k : Nat) (cs : List Char) :
    (Pattern.placesWhere.go p before acc (1 <<< k) cs).testBit j = true ↔
      acc.testBit j = true ∨ ∃ x y, cs = x ++ y ∧ j = k + x.length ∧
        p (x.getLast?.or before) y.head? = true := by
  induction cs generalizing before acc k with
  | nil =>
      rw [Pattern.placesWhere.go, testBit_put]
      refine or_congr_right ?_
      constructor
      · rintro ⟨hp, rfl⟩
        exact ⟨[], [], rfl, rfl, hp⟩
      · rintro ⟨x, y, hnil, rfl, hp⟩
        obtain ⟨rfl, rfl⟩ := List.append_eq_nil_iff.mp hnil.symm
        exact ⟨hp, rfl⟩
  | cons c cs ih =>
      rw [Pattern.placesWhere.go, ← Nat.shiftLeft_add, ih, testBit_put, or_assoc]
      refine or_congr_right ?_
      constructor
      · rintro (⟨hp, rfl⟩ | ⟨x, y, rfl, rfl, hp⟩)
        · exact ⟨[], c :: cs, rfl, rfl, hp⟩
        · refine ⟨c :: x, y, rfl, by rw [List.length_cons]; omega, ?_⟩
          rwa [getLast?_cons_or]
      · rintro ⟨x, y, hsplit, rfl, hp⟩
        cases x with
        | nil =>
            obtain rfl : c :: cs = y := hsplit
            exact .inl ⟨hp, rfl⟩
        | cons d x =>
            obtain ⟨rfl, rfl⟩ := List.cons_eq_cons.mp hsplit
            refine .inr ⟨x, y, rfl, by rw [List.length_cons]; omega, ?_⟩
            rwa [getLast?_cons_or] at hp

/-- Bit by bit, a set of places has the places where the characters on both sides fit. -/
theorem testBit_placesWhere :
    (Pattern.placesWhere p line).testBit j = true ↔
      ∃ before after, line = before ++ after ∧ before.length = j ∧
        p before.getLast? after.head? = true := by
  rw [Pattern.placesWhere, ← Nat.shiftLeft_zero (n := 1), testBit_go]
  simp only [Nat.zero_testBit, Bool.false_eq_true, false_or, Nat.zero_add, Option.or_none,
    eq_comm (a := j)]

/-- From the places of a line, `f` leads on as the stretches of a kind do. -/
def Moves (line : List Char) (f : Places → Places) (R : Stretch) : Prop :=
  ∀ s, Within line s → ∀ j, (f s).testBit j = true ↔
    ∃ i, s.testBit i = true ∧ R.Links line i j

theorem Moves.within {f : Places → Places} {R : Stretch} (h : Moves line f R)
    (hs : Within line s) : Within line (f s) := by
  intro j hj
  obtain ⟨i, -, hlink⟩ := (h s hs j).mp hj
  exact hlink.le_length

/-! ### One step and several -/

section Moves

variable {f g : Places → Places} {R S : Stretch} {n fuel : Nat} {reached fresh : Places}

theorem moves_id : Moves line (fun s => s) (fun _ inner _ => inner = []) := by
  intro s hs j
  simp only [links_empty]
  constructor
  · intro hj
    exact ⟨j, hj, hs j hj, rfl⟩
  · rintro ⟨i, hi, -, rfl⟩
    exact hi

theorem moves_stay (p : Option Char → Option Char → Bool) :
    Moves line (fun s => s &&& Pattern.placesWhere p line) fun before inner after =>
      inner = [] ∧ p before.getLast? after.head? = true := by
  intro s _ j
  rw [Nat.testBit_and, Bool.and_eq_true, testBit_placesWhere]
  constructor
  · rintro ⟨hj, before, after, rfl, rfl, hp⟩
    exact ⟨_, hj, before, [], after, rfl, rfl, by rw [List.append_nil], rfl, hp⟩
  · rintro ⟨_, hi, before, _, after, rfl, rfl, rfl, rfl, hp⟩
    rw [List.append_nil]
    exact ⟨hi, before, after, rfl, rfl, hp⟩

theorem moves_read (set : CharSet) :
    Moves line (fun s =>
      (s &&& Pattern.placesWhere (fun _ c => (c.map set.contains).getD false) line) <<< 1)
      fun _ inner _ => ∃ c, inner = [c] ∧ set.contains c = true := by
  intro s _ j
  rw [Nat.testBit_shiftLeft, Bool.and_eq_true, decide_eq_true_eq, Nat.testBit_and,
    Bool.and_eq_true, testBit_placesWhere]
  constructor
  · rintro ⟨hpos, hj, before, after, rfl, hlength, hread⟩
    cases after with
    | nil => cases hread
    | cons c after =>
        refine ⟨j - 1, hj, before, [c], after, rfl, hlength, ?_, c, rfl, hread⟩
        rw [List.length_append, hlength, List.length_singleton]
        omega
  · rintro ⟨_, hi, before, _, after, rfl, rfl, rfl, c, rfl, hread⟩
    rw [List.length_append, List.length_singleton, Nat.add_sub_cancel]
    exact ⟨Nat.le_add_left 1 _, hi, before, c :: after, rfl, rfl, hread⟩

theorem Moves.then (hf : Moves line f R) (hg : Moves line g S) :
    Moves line (fun s => g (f s)) (R.Then S) := by
  intro s hs j
  simp only [hg (f s) (hf.within hs) j, hf s hs, links_then]
  constructor
  · rintro ⟨k, ⟨i, hi, hik⟩, hkj⟩
    exact ⟨i, hi, k, hik, hkj⟩
  · rintro ⟨i, hi, k, hik, hkj⟩
    exact ⟨k, ⟨i, hi, hik⟩, hkj⟩

theorem Moves.alt (hf : Moves line f R) (hg : Moves line g S) :
    Moves line (fun s => f s ||| g s) fun before inner after =>
      R before inner after ∨ S before inner after := by
  intro s hs j
  simp only [Nat.testBit_or, Bool.or_eq_true, hf s hs j, hg s hs j, Links, and_or_left,
    exists_or]

theorem Moves.iterate (hf : Moves line f R) (n : Nat) :
    Moves line f^[n] (R.Repeats n) := by
  induction n with
  | zero => exact moves_id
  | succ n ih => exact hf.then ih

theorem exactly_eq (f : Places → Places) (n : Nat) (s : Places) :
    Flow.exactly f n s = f^[n] s := by
  induction n generalizing s with
  | zero => rfl
  | succ n ih =>
      simp only [Flow.exactly]
      split
      · next hfix => rw [Function.iterate_fixed hfix]
      · rw [ih, Function.iterate_succ_apply]

theorem testBit_upTo (f : Places → Places) (n : Nat) (s : Places) :
    (Flow.upTo f n s).testBit j = true ↔ ∃ k ≤ n, (f^[k] s).testBit j = true := by
  induction n generalizing s with
  | zero => simp [Flow.upTo]
  | succ n ih =>
      simp only [Flow.upTo]
      split
      · next hfix =>
          simp only [Function.iterate_fixed hfix]
          exact ⟨fun h => ⟨0, Nat.zero_le _, h⟩, fun ⟨_, _, h⟩ => h⟩
      · rw [Nat.testBit_or, Bool.or_eq_true, ih]
        constructor
        · rintro (h | ⟨k, hk, h⟩)
          · exact ⟨0, Nat.zero_le _, h⟩
          · exact ⟨k + 1, Nat.succ_le_succ hk, h⟩
        · rintro ⟨k, hk, h⟩
          cases k with
          | zero => exact .inl h
          | succ k => exact .inr ⟨k, Nat.le_of_succ_le_succ hk, h⟩

/-- How many places of a line are not yet reached. -/
def unreached (line : List Char) (reached : Places) : Nat :=
  ((Finset.range (line.length + 1)).filter fun i => reached.testBit i = false).card

theorem unreached_lt
    (hadd : ∃ j ≤ line.length, s.testBit j = true ∧ reached.testBit j = false) :
    unreached line (reached ||| s) < unreached line reached := by
  obtain ⟨j, hj, hs, hreached⟩ := hadd
  apply Finset.card_lt_card
  rw [Finset.ssubset_iff_of_subset]
  · refine ⟨j, ?_, ?_⟩
    · rw [Finset.mem_filter, Finset.mem_range]
      exact ⟨Nat.lt_succ_of_le hj, hreached⟩
    · simp [hs]
  · intro i hi
    rw [Finset.mem_filter, Nat.testBit_or, Bool.or_eq_false_iff] at hi
    rw [Finset.mem_filter]
    exact ⟨hi.1, hi.2.1⟩

theorem mem_of_unreached_eq_zero (h : unreached line reached = 0) (hj : j ≤ line.length) :
    reached.testBit j = true := by
  rw [unreached, Finset.card_eq_zero, Finset.filter_eq_empty_iff] at h
  have hnot := h (Finset.mem_range.mpr (Nat.lt_succ_of_le hj))
  rwa [Bool.not_eq_false] at hnot

theorem exists_new (h : reached ||| s ≠ reached) :
    ∃ j, s.testBit j = true ∧ reached.testBit j = false := by
  obtain ⟨j, hj⟩ := Nat.exists_testBit_ne_of_ne h
  rw [Nat.testBit_or] at hj
  refine ⟨j, ?_⟩
  cases hreached : reached.testBit j with
  | true => exact absurd (by rw [hreached, Bool.true_or]) hj
  | false => simpa [hreached] using hj

theorem testBit_fresh (s reached : Places) (j : Nat) :
    (s ^^^ (s &&& reached)).testBit j = true ↔
      s.testBit j = true ∧ reached.testBit j = false := by
  rw [Nat.testBit_xor, Nat.testBit_and]
  cases s.testBit j <;> cases reached.testBit j <;> simp

def LeadsTo (line : List Char) (R : Stretch) (s : Places) (j : Nat) : Prop :=
  ∃ n i, s.testBit i = true ∧ (R.Repeats n).Links line i j

theorem testBit_of_closed
    (hclosed : ∀ i j, reached.testBit i = true → R.Links line i j →
      reached.testBit j = true)
    {i : Nat} (hi : reached.testBit i = true) (hlink : (R.Repeats n).Links line i j) :
    reached.testBit j = true := by
  induction n generalizing i with
  | zero =>
      obtain ⟨-, rfl⟩ := links_empty.mp hlink
      exact hi
  | succ n ih =>
      obtain ⟨k, hik, hkj⟩ := links_then.mp hlink
      exact ih (hclosed i k hi hik) hkj

/-- A closed set has all that any number of steps leads to. -/
theorem testBit_iff_of_closed (hreached : Within line reached)
    (hclosed : ∀ i j, reached.testBit i = true → R.Links line i j →
      reached.testBit j = true) :
    reached.testBit j = true ↔ LeadsTo line R reached j := by
  constructor
  · intro hj
    exact ⟨0, j, hj, links_empty.mpr ⟨hreached j hj, rfl⟩⟩
  · rintro ⟨n, i, hi, hlink⟩
    exact testBit_of_closed hclosed hi hlink

/-- What holds of the places reached and those that are fresh among them: only from fresh
places may a step lead on to what is not reached. -/
structure Spreading (line : List Char) (R : Stretch) (reached fresh : Places) : Prop where
  within : Within line reached
  reached_of_fresh : ∀ i, fresh.testBit i = true → reached.testBit i = true
  reached_or_fresh : ∀ i j, reached.testBit i = true → R.Links line i j →
    reached.testBit j = true ∨ fresh.testBit i = true

theorem testBit_join (reached s : Places) (i : Nat) :
    (reached ||| s).testBit i = true ↔ reached.testBit i = true ∨ s.testBit i = true := by
  rw [Nat.testBit_or, Bool.or_eq_true]

namespace Spreading

theorem start (hs : Within line s) : Spreading line R s s :=
  ⟨hs, fun _ hi => hi, fun _ _ hi _ => .inr hi⟩

theorem within_fresh (h : Spreading line R reached fresh) : Within line fresh :=
  fun i hi => h.within i (h.reached_of_fresh i hi)

theorem step (hf : Moves line f R) (h : Spreading line R reached fresh) :
    Spreading line R (reached ||| f fresh) (f fresh ^^^ (f fresh &&& reached)) := by
  have hnext := hf fresh h.within_fresh
  constructor
  · intro i hi
    rcases (testBit_join _ _ i).mp hi with hi | hi
    · exact h.within i hi
    · exact hf.within h.within_fresh i hi
  · intro i hi
    exact (testBit_join _ _ i).mpr (.inr ((testBit_fresh _ _ i).mp hi).1)
  · intro i j hi hlink
    rw [testBit_join, testBit_fresh]
    by_cases hold : reached.testBit i = true
    · rcases h.reached_or_fresh i j hold hlink with hj | hi
      · exact .inl (.inl hj)
      · exact .inl (.inr ((hnext j).mpr ⟨i, hi, hlink⟩))
    · exact .inr
        ⟨((testBit_join _ _ i).mp hi).resolve_left hold, Bool.eq_false_iff.mpr hold⟩

theorem leadsTo_step (hf : Moves line f R) (h : Spreading line R reached fresh) :
    LeadsTo line R (reached ||| f fresh) j ↔ LeadsTo line R reached j := by
  constructor
  · rintro ⟨n, i, hi, hlink⟩
    rcases (testBit_join _ _ i).mp hi with hi | hi
    · exact ⟨n, i, hi, hlink⟩
    · obtain ⟨k, hk, hki⟩ := (hf fresh h.within_fresh i).mp hi
      exact ⟨n + 1, k, h.reached_of_fresh k hk, links_then.mpr ⟨i, hki, hlink⟩⟩
  · rintro ⟨n, i, hi, hlink⟩
    exact ⟨n, i, (testBit_join _ _ i).mpr (.inl hi), hlink⟩

/-- If a step adds nothing, all is reached. -/
theorem testBit_iff_of_same (hf : Moves line f R) (h : Spreading line R reached fresh)
    (hsame : reached ||| f fresh = reached) :
    reached.testBit j = true ↔ LeadsTo line R reached j := by
  apply testBit_iff_of_closed h.within
  intro i j hi hlink
  rcases h.reached_or_fresh i j hi hlink with hj | hi
  · exact hj
  · rw [← hsame, testBit_join]
    exact .inr ((hf fresh h.within_fresh j).mpr ⟨i, hi, hlink⟩)

end Spreading

/-- What is reached grows until a step adds nothing: there is fuel for each place not yet
reached. -/
theorem testBit_spread (hf : Moves line f R) (h : Spreading line R reached fresh)
    (hfuel : unreached line reached ≤ fuel) :
    (Flow.spread f fuel reached fresh).testBit j = true ↔ LeadsTo line R reached j := by
  induction fuel generalizing reached fresh with
  | zero =>
      apply testBit_iff_of_closed h.within
      intro i j _ hlink
      exact mem_of_unreached_eq_zero (Nat.le_zero.mp hfuel) hlink.le_length
  | succ fuel ih =>
      simp only [Flow.spread]
      split
      · next hsame => exact h.testBit_iff_of_same hf hsame
      · next hgrows =>
          have hnext := h.step hf
          -- The step reaches a new place, so the fuel left is enough for the others.
          have hless : unreached line (reached ||| f fresh) < unreached line reached := by
            obtain ⟨k, hk, hnew⟩ := exists_new hgrows
            exact unreached_lt
              ⟨k, hnext.within k ((testBit_join _ _ k).mpr (.inr hk)), hk, hnew⟩
          rw [ih hnext (Nat.le_of_lt_succ (hless.trans_le hfuel))]
          exact h.leadsTo_step hf

theorem exists_iterate_iff (hf : Moves line f R) (hs : Within line s)
    (bound : Nat → Prop) :
    (∃ n, bound n ∧ (f^[n] s).testBit j = true) ↔
      ∃ i, s.testBit i = true ∧ Links line (fun before inner after =>
        ∃ n, bound n ∧ R.Repeats n before inner after) i j := by
  constructor
  · rintro ⟨n, hn, hj⟩
    obtain ⟨i, hi, before, inner, after, hline, hbefore, hinner, hrepeats⟩ :=
      (hf.iterate n s hs j).mp hj
    exact ⟨i, hi, before, inner, after, hline, hbefore, hinner, n, hn, hrepeats⟩
  · rintro ⟨i, hi, before, inner, after, hline, hbefore, hinner, n, hn, hrepeats⟩
    exact ⟨n, hn, (hf.iterate n s hs j).mpr
      ⟨i, hi, before, inner, after, hline, hbefore, hinner, hrepeats⟩⟩

theorem moves_atLeast (hf : Moves line f R) (least : Nat) :
    Moves line (fun s => let s := Flow.exactly f least s
        Flow.spread f (line.length + 1) s s)
      fun before inner after => ∃ n, least ≤ n ∧ R.Repeats n before inner after := by
  intro s hs j
  have hleast := (hf.iterate least).within hs
  have hunreached : unreached line (f^[least] s) ≤ line.length + 1 :=
    (Finset.card_filter_le _ _).trans_eq (Finset.card_range _)
  have hmore (n : Nat) :
      (∃ i, (f^[least] s).testBit i = true ∧ (R.Repeats n).Links line i j) ↔
      (f^[n + least] s).testBit j = true := by
    rw [Function.iterate_add_apply]
    exact (hf.iterate n _ hleast j).symm
  rw [← exists_iterate_iff hf hs (least ≤ ·)]
  simp only [exactly_eq]
  rw [testBit_spread hf (.start hleast) hunreached]
  simp only [LeadsTo, hmore]
  constructor
  · rintro ⟨n, hj⟩
    exact ⟨n + least, Nat.le_add_left _ _, hj⟩
  · rintro ⟨n, hn, hj⟩
    exact ⟨n - least, by rwa [Nat.sub_add_cancel hn]⟩

theorem moves_atMost (hf : Moves line f R) (least m : Nat) :
    Moves line (fun s => Flow.upTo f (m - least) (Flow.exactly f least s))
      fun before inner after => ∃ n, (least ≤ n ∧ n ≤ max least m) ∧
        R.Repeats n before inner after := by
  intro s hs j
  rw [← exists_iterate_iff hf hs fun n => least ≤ n ∧ n ≤ max least m]
  simp only [exactly_eq, testBit_upTo, ← Function.iterate_add_apply]
  constructor
  · rintro ⟨k, hk, hj⟩
    exact ⟨k + least, ⟨Nat.le_add_left _ _, by omega⟩, hj⟩
  · rintro ⟨n, ⟨hleast, hmost⟩, hj⟩
    exact ⟨n - least, by omega, by rwa [Nat.sub_add_cancel hleast]⟩

end Moves

/-- A search goes on from a set of places as the pattern reads on from them. -/
theorem moves_run (word : Bool → Char → Bool) (p : Pattern) :
    Moves line ((p.resolve word line).run line.length) (p.Reads word) := by
  induction p with
  | empty => exact moves_id
  | chars set => exact moves_read set
  | look l => exact moves_stay _
  | seq p q ihp ihq => exact ihp.then ihq
  | alt p q ihp ihq => exact ihp.alt ihq
  | times least most p ih =>
      cases most with
      | none =>
          rw [Pattern.reads_atLeast]
          exact moves_atLeast ih least
      | some m =>
          rw [Pattern.reads_atMost]
          exact moves_atMost ih least m

end Places

namespace Pattern

/-- The search says yes exactly if the pattern matches some part of the line. -/
theorem matchesIn_iff (word : Bool → Char → Bool) (p : Pattern) (line : List Char) :
    p.matchesIn word line = true ↔
      ∃ before inner after, line = before ++ (inner ++ after) ∧
        p.Reads word before inner after := by
  have hall : Places.Within line ((1 <<< (line.length + 1)) - 1) := by
    intro i hi
    rw [Nat.one_shiftLeft, Nat.testBit_two_pow_sub_one, decide_eq_true_eq] at hi
    exact Nat.le_of_lt_succ hi
  rw [matchesIn, bne_iff_ne]
  constructor
  · intro hne
    obtain ⟨j, hj⟩ := Nat.exists_testBit_of_ne_zero hne
    obtain ⟨i, -, before, inner, after, hline, -, -, hreads⟩ :=
      (Places.moves_run word p _ hall j).mp hj
    exact ⟨before, inner, after, hline, hreads⟩
  · rintro ⟨before, inner, after, rfl, hreads⟩ hzero
    have hstart :
        ((1 <<< ((before ++ (inner ++ after)).length + 1)) - 1).testBit before.length
        = true := by
      rw [Nat.one_shiftLeft, Nat.testBit_two_pow_sub_one, decide_eq_true_eq,
        List.length_append]
      omega
    have hstop := (Places.moves_run word p _ hall _).mpr
      ⟨before.length, hstart, before, inner, after, rfl, rfl, rfl, hreads⟩
    rw [hzero, Nat.zero_testBit] at hstop
    cases hstop

end Pattern

end ScriptLint
