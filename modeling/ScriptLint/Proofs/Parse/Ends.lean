import ScriptLint.Parse.Stack

namespace ScriptLint.Parse

/-! What the parser's actions lead to: one rule for each way of putting actions together,
and one for each of those that only look at the session. -/

variable {α β γ : Type} {c : Context} {s : Session} {m : Parser α}
  {P Q : α → Session → Prop}

/-- The action comes to a result and a session of which `Q` holds. -/
def Ends (c : Context) (s : Session) (m : Parser α) (Q : α → Session → Prop) : Prop :=
  Q ((m.run c).run s).1 ((m.run c).run s).2

/-- What holds behind one round of a loop, which is left or goes on. -/
def Rounds (I Q : β → Session → Prop) : ForInStep β → Session → Prop
  | .done b, s => Q b s
  | .yield b, s => I b s

namespace Ends

theorem mono (h : Ends c s m P) (himp : ∀ a s', P a s' → Q a s') : Ends c s m Q :=
  himp _ _ h

theorem bind {f : α → Parser β} {R : β → Session → Prop} (h : Ends c s m P)
    (hf : ∀ a s', P a s' → Ends c s' (f a) R) : Ends c s (m >>= f) R :=
  hf _ _ h

/-- A loop over a list, told by what is still to come. -/
theorem forIn_list {xs : List γ} {b : β} {f : γ → β → Parser (ForInStep β)}
    {R : β → Session → Prop} (I : List γ → β → Session → Prop) (hstart : I xs b s)
    (hround : ∀ x rest b s, I (x :: rest) b s → Ends c s (f x b) (Rounds (I rest) R))
    (hend : ∀ b s, I [] b s → R b s) : Ends c s (forIn xs b f) R := by
  induction xs generalizing b s with
  | nil => exact hend b s hstart
  | cons x rest ih =>
      rw [List.forIn_cons]
      refine (hround x rest b s hstart).bind fun step s' h => ?_
      cases step with
      | done b' => exact h
      | yield b' => exact ih h

theorem forIn_array {xs : Array γ} {b : β} {f : γ → β → Parser (ForInStep β)}
    {R : β → Session → Prop} (I : List γ → β → Session → Prop) (hstart : I xs.toList b s)
    (hround : ∀ x rest b s, I (x :: rest) b s → Ends c s (f x b) (Rounds (I rest) R))
    (hend : ∀ b s, I [] b s → R b s) : Ends c s (forIn xs b f) R := by
  rw [← Array.forIn_toList]
  exact forIn_list I hstart hround hend

/-- A loop that counts, told by what every round keeps. -/
theorem forIn_range {r : Std.Legacy.Range} {b : β} {f : Nat → β → Parser (ForInStep β)}
    {R : β → Session → Prop} (I : β → Session → Prop) (hstart : I b s)
    (hround : ∀ i ∈ r, ∀ b s, I b s → Ends c s (f i b) (Rounds I R))
    (hend : ∀ b s, I b s → R b s) : Ends c s (forIn r b f) R := by
  rw [Std.Legacy.Range.forIn_eq_forIn_range']
  refine forIn_list (fun rest b s => (∀ i ∈ rest, i ∈ r) ∧ I b s)
    ⟨fun _ hi => Std.Legacy.Range.mem_of_mem_range' hi, hstart⟩ ?_
    fun b s h => hend b s h.2
  intro i rest b s h
  obtain ⟨hi, hrest⟩ := List.forall_mem_cons.mp h.1
  refine (hround i hi b s h.2).mono fun step s' h' => ?_
  cases step with
  | done b' => exact h'
  | yield b' => exact ⟨hrest, h'⟩

/-- A loop of which every round keeps something of the session, however it goes on. -/
theorem forIn_list_keep {xs : List γ} {b : β} {f : γ → β → Parser (ForInStep β)}
    (I : Session → Prop) (hstart : I s)
    (hround : ∀ x ∈ xs, ∀ b s, I s → Ends c s (f x b) fun _ s' => I s') :
    Ends c s (forIn xs b f) fun _ s' => I s' := by
  refine forIn_list (fun rest _ s => (∀ x ∈ rest, x ∈ xs) ∧ I s)
    ⟨fun _ hx => hx, hstart⟩ ?_ fun _ _ h => h.2
  intro x rest b s h
  obtain ⟨hx, hrest⟩ := List.forall_mem_cons.mp h.1
  refine (hround x hx b s h.2).mono fun step s' h' => ?_
  cases step with
  | done b' => exact h'
  | yield b' => exact ⟨hrest, h'⟩

theorem forIn_array_keep {xs : Array γ} {b : β} {f : γ → β → Parser (ForInStep β)}
    (I : Session → Prop) (hstart : I s)
    (hround : ∀ x ∈ xs, ∀ b s, I s → Ends c s (f x b) fun _ s' => I s') :
    Ends c s (forIn xs b f) fun _ s' => I s' := by
  rw [← Array.forIn_toList]
  exact forIn_list_keep I hstart fun x hx => hround x (Array.mem_toList_iff.mp hx)

theorem forIn_range_keep {r : Std.Legacy.Range} {b : β}
    {f : Nat → β → Parser (ForInStep β)} (I : Session → Prop) (hstart : I s)
    (hround : ∀ i ∈ r, ∀ b s, I s → Ends c s (f i b) fun _ s' => I s') :
    Ends c s (forIn r b f) fun _ s' => I s' := by
  rw [Std.Legacy.Range.forIn_eq_forIn_range']
  exact forIn_list_keep I hstart fun i hi =>
    hround i (Std.Legacy.Range.mem_of_mem_range' hi)

theorem forM_list {xs : List γ} {f : γ → Parser Unit} {R : Session → Prop}
    (I : List γ → Session → Prop) (hstart : I xs s)
    (hround : ∀ x rest s, I (x :: rest) s → Ends c s (f x) fun _ s' => I rest s')
    (hend : ∀ s, I [] s → R s) : Ends c s (xs.forM f) fun _ s' => R s' := by
  induction xs generalizing s with
  | nil => exact hend s hstart
  | cons x rest ih =>
      exact (hround x rest s hstart).bind fun _ s' h => ih h

end Ends

section

variable {v n : Nat} {p : Prop} [Decidable p]

theorem ends_pure {a : α} : Ends c s (pure a) Q ↔ Q a s := Iff.rfl

theorem ends_bind {f : α → Parser β} {R : β → Session → Prop} :
    Ends c s (m >>= f) R ↔ Ends c s m fun a s' => Ends c s' (f a) R := Iff.rfl

theorem ends_read {R : Context → Session → Prop} : Ends c s read R ↔ R c s := Iff.rfl

theorem ends_get {R : Session → Session → Prop} : Ends c s get R ↔ R s s := Iff.rfl

theorem ends_modify {f : Session → Session} {R : Unit → Session → Prop} :
    Ends c s (modify f) R ↔ R () (f s) := Iff.rfl

theorem ends_head {R : Head → Session → Prop} :
    Ends c s (Parser.head v) R ↔ R s.heads[v]! s := Iff.rfl

theorem ends_nodeAt {R : StackNode → Session → Prop} :
    Ends c s (Parser.nodeAt n) R ↔ R s.nodes[n]! s := Iff.rfl

theorem ends_top {R : StackNode → Session → Prop} :
    Ends c s (Parser.top v) R ↔ R s.nodes[s.heads[v]!.node]! s := Iff.rfl

theorem ends_headCount {R : Nat → Session → Prop} :
    Ends c s Parser.headCount R ↔ R s.heads.size s := Iff.rfl

theorem ends_ite {m' : Parser α} :
    Ends c s (if p then m else m') Q ↔ if p then Ends c s m Q else Ends c s m' Q := by
  split <;> exact Iff.rfl

end

end ScriptLint.Parse
