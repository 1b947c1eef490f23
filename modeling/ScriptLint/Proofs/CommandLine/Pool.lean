import Mathlib.Data.List.Forall2
import Mathlib.Data.List.Induction
import ScriptLint.CommandLine.Pool

namespace ScriptLint.CommandLine.Pool

/-! What a pool hands on does not depend on the order in which its workers finish, but for
the choice among errors. -/

variable {α β : Type} {f : α → Except String β} {items : List α} {places before : List Nat}
  {p : Pool β} {i : Nat} {a : α} {b : β} {e : String}

/-! ### What a worker changes -/

theorem step_of_none (hitem : items[i]? = none) : p.step f items i = p := by
  rw [step, hitem]

theorem step_of_ok (hitem : items[i]? = some a) (hf : f a = .ok b) :
    p.step f items i = { p with slots := p.slots.set i (some b) } := by
  rw [step, hitem]
  simp only [hf, finish]

theorem step_of_error (hitem : items[i]? = some a) (hf : f a = .error e) :
    p.step f items i = { p with fault := p.fault <|> some e } := by
  rw [step, hitem]
  simp only [hf, finish]

/-- What holds of a pool whose workers are done with the items in some places. -/
structure Sound (f : α → Except String β) (items : List α) (places : List Nat)
    (p : Pool β) :
    Prop where
  slot : ∀ i, p.slots[i]? = items[i]?.map fun a => if i ∈ places then (f a).toOption
    else none
  smooth : p.fault = none → ∀ i ∈ places, ∀ a, items[i]? = some a → ∃ b, f a = .ok b
  fault : ∀ e, p.fault = some e → ∃ i ∈ places, ∃ a, items[i]? = some a ∧ f a = .error e

theorem sound_fresh (f : α → Except String β) (items : List α) :
    (fresh items.length : Pool β).Sound f items [] where
  slot := by
    intro i
    simp only [fresh, List.getElem?_replicate, List.not_mem_nil, if_false]
    by_cases hi : i < items.length
    · rw [if_pos hi, List.getElem?_eq_getElem hi]
      rfl
    · rw [if_neg hi, List.getElem?_eq_none (Nat.le_of_not_lt hi)]
      rfl
  smooth := nofun
  fault := nofun

theorem Sound.length_slots (h : p.Sound f items places) :
    p.slots.length = items.length := by
  apply Nat.le_antisymm
  · by_contra hlt
    have hslot := h.slot items.length
    rw [List.getElem?_eq_getElem (Nat.lt_of_not_le hlt),
      List.getElem?_eq_none (Nat.le_refl _)]
      at hslot
    cases hslot
  · by_contra hlt
    have hslot := h.slot p.slots.length
    rw [List.getElem?_eq_getElem (Nat.lt_of_not_le hlt),
      List.getElem?_eq_none (Nat.le_refl _)]
      at hslot
    cases hslot

theorem mem_concat_of_ne {j : Nat} (hj : j ≠ i) : j ∈ places ++ [i] ↔ j ∈ places := by
  simp [hj]

theorem Sound.skip (h : p.Sound f items places) (hitem : items[i]? = none) :
    p.Sound f items (places ++ [i]) where
  slot := by
    intro j
    rw [h.slot j]
    by_cases hj : j = i
    · rw [hj, hitem]
      rfl
    · simp only [mem_concat_of_ne hj]
  smooth := by
    intro hnone j hj a hja
    have hne : j ≠ i := by
      rintro rfl
      cases hitem.symm.trans hja
    exact h.smooth hnone j ((mem_concat_of_ne hne).mp hj) a hja
  fault := by
    intro e he
    obtain ⟨j, hj, found⟩ := h.fault e he
    exact ⟨j, List.mem_append_left _ hj, found⟩

theorem Sound.fill (h : p.Sound f items places) (hitem : items[i]? = some a)
    (hf : f a = .ok b) :
    { p with slots := p.slots.set i (some b) }.Sound f items (places ++ [i]) where
  slot := by
    intro j
    by_cases hj : j = i
    · obtain ⟨hlt, -⟩ := List.getElem?_eq_some_iff.mp hitem
      rw [hj, List.getElem?_set_self (h.length_slots ▸ hlt), hitem]
      simp [hf, Except.toOption]
    · rw [List.getElem?_set_ne (Ne.symm hj), h.slot j]
      simp only [mem_concat_of_ne hj]
  smooth := by
    intro hnone j hj a' hja
    by_cases hne : j = i
    · subst hne
      obtain rfl := Option.some.inj (hitem.symm.trans hja)
      exact ⟨b, hf⟩
    · exact h.smooth hnone j ((mem_concat_of_ne hne).mp hj) a' hja
  fault := by
    intro e he
    obtain ⟨j, hj, found⟩ := h.fault e he
    exact ⟨j, List.mem_append_left _ hj, found⟩

theorem Sound.fail (h : p.Sound f items places) (hitem : items[i]? = some a)
    (hf : f a = .error e) :
    { p with fault := p.fault <|> some e }.Sound f items (places ++ [i]) where
  slot := by
    intro j
    rw [h.slot j]
    by_cases hj : j = i
    · rw [hj, hitem]
      simp [hf, Except.toOption]
    · simp only [mem_concat_of_ne hj]
  smooth := by
    intro hnone
    cases hp : p.fault <;> simp [hp] at hnone
  fault := by
    intro e' he
    cases hp : p.fault with
    | none =>
        obtain rfl : e = e' := by simpa [hp] using he
        exact ⟨i, by simp, a, hitem, hf⟩
    | some e₀ =>
        obtain rfl : e₀ = e' := by simpa [hp] using he
        obtain ⟨j, hj, found⟩ := h.fault e₀ hp
        exact ⟨j, List.mem_append_left _ hj, found⟩

theorem Sound.step (h : p.Sound f items places) (i : Nat) :
    (p.step f items i).Sound f items (places ++ [i]) := by
  cases hitem : items[i]? with
  | none =>
      rw [step_of_none hitem]
      exact h.skip hitem
  | some a =>
      cases hf : f a with
      | ok b =>
          rw [step_of_ok hitem hf]
          exact h.fill hitem hf
      | error e =>
          rw [step_of_error hitem hf]
          exact h.fail hitem hf

theorem run_concat (f : α → Except String β) (items : List α) (places : List Nat)
    (i : Nat) : run f items (places ++ [i]) = (run f items places).step f items i := by
  rw [run, List.foldl_append]
  rfl

theorem sound_run (f : α → Except String β) (items : List α) (places : List Nat) :
    (run f items places).Sound f items places := by
  induction places using List.reverseRecOn with
  | nil => exact sound_fresh f items
  | append_singleton places i ih =>
      rw [run_concat]
      exact ih.step i

/-! ### What a pool hands on -/

theorem outcome_of_fault (h : p.fault = some e) : p.outcome = .error e := by
  rw [outcome, h]

theorem forall₂_filterMap_toOption (h : ∀ a ∈ items, ∃ b, f a = .ok b) :
    List.Forall₂ (fun a b => f a = .ok b) items
      (items.filterMap fun a => (f a).toOption) := by
  induction items with
  | nil => exact .nil
  | cons a items ih =>
      rw [List.forall_mem_cons] at h
      obtain ⟨b, hb⟩ := h.1
      rw [List.filterMap_cons_some (b := b) (by rw [hb]; rfl)]
      exact .cons hb (ih h.2)

theorem Sound.outcome_of_smooth (h : p.Sound f items places)
    (hall : ∀ i < items.length, i ∈ places) (hnone : p.fault = none) :
    ∃ bs, p.outcome = .ok bs ∧ List.Forall₂ (fun a b => f a = .ok b) items bs := by
  have hslots : p.slots = items.map fun a => (f a).toOption := by
    apply List.ext_getElem?
    intro i
    rw [h.slot i, List.getElem?_map]
    by_cases hi : i < items.length
    · simp only [if_pos (hall i hi)]
    · rw [List.getElem?_eq_none (Nat.le_of_not_lt hi)]
      rfl
  have hok : ∀ a ∈ items, ∃ b, f a = .ok b := by
    intro a ha
    obtain ⟨i, hi, rfl⟩ := List.getElem_of_mem ha
    exact h.smooth hnone i (hall i hi) _ (List.getElem?_eq_getElem hi)
  refine ⟨_, ?_, forall₂_filterMap_toOption hok⟩
  rw [outcome, hnone, hslots, List.filterMap_map]
  rfl

theorem Sound.outcome_cases (h : p.Sound f items places)
    (hall : ∀ i < items.length, i ∈ places) :
    (∃ bs, p.outcome = .ok bs ∧ List.Forall₂ (fun a b => f a = .ok b) items bs) ∨
      ∃ a ∈ items, ∃ e, f a = .error e ∧ p.outcome = .error e := by
  cases hfault : p.fault with
  | none => exact .inl (h.outcome_of_smooth hall hfault)
  | some e =>
      obtain ⟨i, -, a, hitem, hf⟩ := h.fault e hfault
      exact .inr ⟨a, List.mem_of_getElem? hitem, e, hf, outcome_of_fault hfault⟩

theorem not_error_of_forall₂ {bs : List β}
    (h : List.Forall₂ (fun a b => f a = .ok b) items bs) (ha : a ∈ items) :
    f a ≠ .error e := by
  induction h with
  | nil => cases ha
  | cons hab _ ih =>
      rcases List.mem_cons.mp ha with rfl | ha
      · rw [hab]
        nofun
      · exact ih ha

theorem forall₂_unique {bs bs' : List β}
    (h : List.Forall₂ (fun a b => f a = .ok b) items bs)
    (h' : List.Forall₂ (fun a b => f a = .ok b) items bs') : bs = bs' :=
  Relator.RightUnique.forall₂ (fun _ _ _ hb hb' => Except.ok.inj (hb.symm.trans hb')) h h'

variable (order : Order items.length)

theorem collect_cases :
    (∃ bs, collect f items order = .ok bs ∧
      List.Forall₂ (fun a b => f a = .ok b) items bs) ∨
      ∃ a ∈ items, ∃ e, f a = .error e ∧ collect f items order = .error e :=
  (sound_run f items order.places).outcome_cases fun _ hi => order.mem_places.mpr hi

/-- In every order the results of all items come in the order of the items. -/
theorem collect_eq_ok {bs : List β} (h : List.Forall₂ (fun a b => f a = .ok b) items bs) :
    collect f items order = .ok bs := by
  rcases collect_cases order with ⟨bs', hcollect, hbs'⟩ | ⟨a, ha, e, hf, -⟩
  · rw [hcollect, forall₂_unique hbs' h]
  · exact absurd hf (not_error_of_forall₂ h ha)

/-- In every order an error leaves no results, and some error is kept. -/
theorem collect_eq_error (ha : a ∈ items) (hf : f a = .error e) :
    ∃ a' ∈ items, ∃ e', f a' = .error e' ∧ collect f items order = .error e' := by
  rcases collect_cases order with ⟨bs, -, hbs⟩ | h
  · exact absurd hf (not_error_of_forall₂ hbs ha)
  · exact h

/-! ### Pools that are over -/

theorem step_fault (h : p.fault = some e) (i : Nat) :
    (p.step f items i).fault = some e := by
  unfold step
  cases items[i]? with
  | none => exact h
  | some a => cases hf : f a <;> simp [finish, h, hf]

theorem foldl_fault (h : p.fault = some e) (after : List Nat) :
    (after.foldl (step f items) p).fault = some e := by
  induction after generalizing p with
  | nil => exact h
  | cons i after ih => exact ih (step_fault h i)

theorem Sound.mem_of_filled (h : p.Sound f items places)
    (hfilled : p.slots.all Option.isSome) (hi : i < items.length) : i ∈ places := by
  by_contra hnot
  have hslot := h.slot i
  rw [List.getElem?_eq_getElem hi, Option.map_some, if_neg hnot] at hslot
  simpa using List.all_eq_true.mp hfilled none (List.mem_of_getElem? hslot)

/-- A pool that is over may stop: whatever its workers still do makes no difference. -/
theorem outcome_run_append (hover : (run f items before).isOver = true)
    (after : List Nat) :
    (run f items (before ++ after)).outcome = (run f items before).outcome := by
  have hsound := sound_run f items before
  cases hfault : (run f items before).fault with
  | some e =>
      rw [run, List.foldl_append]
      rw [outcome_of_fault hfault]
      exact outcome_of_fault (foldl_fault hfault after)
  | none =>
      have hfilled : (run f items before).slots.all Option.isSome = true := by
        simpa [isOver, hfault] using hover
      have hall : ∀ i < items.length, i ∈ before :=
        fun i hi => hsound.mem_of_filled hfilled hi
      obtain ⟨bs, houtcome, hbs⟩ := hsound.outcome_of_smooth hall hfault
      rw [houtcome]
      rcases (sound_run f items (before ++ after)).outcome_cases
        fun i hi =>
          List.mem_append_left _ (hall i hi) with ⟨bs', h', hbs'⟩ | ⟨a, ha, e, hf, -⟩
      · rw [h', forall₂_unique hbs' hbs]
      · exact absurd hf (not_error_of_forall₂ hbs ha)

end ScriptLint.CommandLine.Pool
