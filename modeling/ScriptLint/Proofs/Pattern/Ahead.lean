import ScriptLint.Proofs.Pattern.Search

namespace ScriptLint.Pattern

open ScriptLint.Text

/-! Patterns one behind another, read off a text from its front. With one equation for each
form of a pattern, a search unfolds into what it says of a line. -/

variable {word : Bool → Char → Bool} {p q : Pattern} {ps : List Pattern} {set : CharSet}
  {before after line cs : List Char}

/-- Patterns match one behind the other at the front of `after`. -/
def Ahead (word : Bool → Char → Bool) : List Pattern → List Char → List Char → Prop
  | [], _, _ => True
  | p :: ps, before, after =>
      ∃ inner rest, after = inner ++ rest ∧ p.Reads word before inner rest ∧
        Ahead word ps (before ++ inner) rest

theorem matchesIn_iff_ahead :
    p.matchesIn word line = true ↔
      ∃ before after, line = before ++ after ∧ Ahead word [p] before after := by
  rw [matchesIn_iff]
  constructor
  · rintro ⟨before, inner, rest, rfl, hreads⟩
    exact ⟨before, inner ++ rest, rfl, inner, rest, rfl, hreads, trivial⟩
  · rintro ⟨before, _, rfl, inner, rest, rfl, hreads, -⟩
    exact ⟨before, inner, rest, rfl, hreads⟩

theorem ahead_look {l : Look} :
    Ahead word (.look l :: ps) before after ↔
      l.fits word before.getLast? after.head? = true ∧ Ahead word ps before after := by
  constructor
  · rintro ⟨_, rest, rfl, ⟨rfl, hfits⟩, hps⟩
    rw [List.append_nil] at hps
    exact ⟨hfits, hps⟩
  · rintro ⟨hfits, hps⟩
    exact ⟨[], after, rfl, ⟨rfl, hfits⟩, by rwa [List.append_nil]⟩

theorem ahead_chars :
    Ahead word (.chars set :: ps) before after ↔
      ∃ c rest, after = c :: rest ∧ set.contains c = true ∧
        Ahead word ps (before ++ [c]) rest := by
  constructor
  · rintro ⟨_, rest, rfl, ⟨c, rfl, hc⟩, hps⟩
    exact ⟨c, rest, rfl, hc, hps⟩
  · rintro ⟨c, rest, rfl, hc, hps⟩
    exact ⟨[c], rest, rfl, ⟨c, rfl, hc⟩, hps⟩

theorem ahead_seq :
    Ahead word (.seq p q :: ps) before after ↔ Ahead word (p :: q :: ps) before after := by
  constructor
  · rintro ⟨_, rest, rfl, ⟨x, y, rfl, hx, hy⟩, hps⟩
    exact ⟨x, y ++ rest, List.append_assoc .., hx, y, rest, rfl,
      hy, by rwa [List.append_assoc]⟩
  · rintro ⟨x, _, rfl, hx, y, rest, rfl, hy, hps⟩
    exact ⟨x ++ y, rest, (List.append_assoc ..).symm, ⟨x, y, rfl, hx, hy⟩,
      by rwa [← List.append_assoc]⟩

def row (p : Pattern) (ps : List Pattern) : Pattern := ps.foldl seq p

theorem ahead_row :
    Ahead word [row p ps] before after ↔ Ahead word (p :: ps) before after := by
  induction ps generalizing p with
  | nil => rfl
  | cons q ps ih =>
      rw [row, List.foldl_cons, ← row, ih, ahead_seq]

theorem ahead_alt :
    Ahead word (.alt p q :: ps) before after ↔
      Ahead word (p :: ps) before after ∨ Ahead word (q :: ps) before after := by
  simp only [Ahead, Reads, or_and_right, and_or_left, exists_or]

/-- Repeated sets read texts of their characters. -/
theorem repeats_chars {n : Nat} :
    ((Pattern.chars set).Reads word).Repeats n before cs after ↔
      cs.length = n ∧ ∀ c ∈ cs, set.contains c = true := by
  induction n generalizing before cs with
  | zero =>
      rw [List.length_eq_zero_iff]
      constructor
      · rintro rfl
        exact ⟨rfl, List.forall_mem_nil _⟩
      · rintro ⟨rfl, -⟩
        rfl
  | succ n ih =>
      constructor
      · rintro ⟨_, rest, rfl, ⟨c, rfl, hc⟩, hrest⟩
        obtain ⟨hlength, hall⟩ := ih.mp hrest
        exact ⟨congrArg (· + 1) hlength, List.forall_mem_cons.mpr ⟨hc, hall⟩⟩
      · rintro ⟨hlength, hall⟩
        obtain ⟨c, rest, rfl⟩ := List.exists_cons_of_length_eq_add_one hlength
        obtain ⟨hc, hrest⟩ := List.forall_mem_cons.mp hall
        exact ⟨[c], rest, rfl, ⟨c, rfl, hc⟩, ih.mpr ⟨Nat.succ.inj hlength, hrest⟩⟩

theorem ahead_times {least : Nat} :
    Ahead word (.times least none (.chars set) :: ps) before after ↔
      ∃ inner rest, after = inner ++ rest ∧ least ≤ inner.length ∧
        (∀ c ∈ inner, set.contains c = true) ∧ Ahead word ps (before ++ inner) rest := by
  have hreads (inner rest : List Char) :
      (Pattern.times least none (.chars set)).Reads word before inner rest ↔
        least ≤ inner.length ∧ ∀ c ∈ inner, set.contains c = true := by
    simp [reads_atLeast, repeats_chars]
  simp only [Ahead, hreads, and_assoc]

end ScriptLint.Pattern
