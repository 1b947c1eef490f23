import Mathlib.Data.List.Forall2
import ScriptLint.Validator.Basic

namespace ScriptLint.Check

/-! Running checks in order. -/

/-- The checks give findings together exactly if each of them does, and then nothing is
dropped or moved. -/
theorem runAll_eq_ok_iff {c : Context} {checks : List Check} {fs : List Finding} :
    runAll c checks = .ok fs ↔
      ∃ parts, List.Forall₂ (fun (k : Check) part => k.run c = .ok part) checks parts ∧
        fs = parts.flatten := by
  induction checks generalizing fs with
  | nil => simp [runAll, eq_comm]
  | cons k ks ih =>
      cases hk : k.run c with
      | error e => simp [runAll, hk, List.forall₂_cons_left_iff]
      | ok part =>
          simp only [runAll, hk, List.forall₂_cons_left_iff, Except.ok.injEq]
          constructor
          · intro h
            cases hks : runAll c ks with
            | error e => simp [hks, Except.map] at h
            | ok rest =>
                obtain ⟨parts, hparts, rfl⟩ := ih.mp hks
                refine ⟨part :: parts, ⟨part, parts, rfl, hparts, rfl⟩, ?_⟩
                simpa [hks, Except.map, eq_comm] using h
          · rintro ⟨_, ⟨_, parts, rfl, hparts, rfl⟩, rfl⟩
            simp [ih.mpr ⟨parts, hparts, rfl⟩, Except.map]

theorem runAll_eq_error_iff {c : Context} {checks : List Check} :
    (∃ e, runAll c checks = .error e) ↔ ∃ k ∈ checks, ∃ e, k.run c = .error e := by
  induction checks with
  | nil => simp [runAll]
  | cons k ks ih =>
      cases hk : k.run c with
      | error e => simp [runAll, hk]
      | ok part =>
          simp only [runAll, hk, List.mem_cons, exists_eq_or_imp, reduceCtorEq,
            exists_false, false_or, ← ih]
          cases runAll c ks <;> simp [Except.map]

theorem run_rightUnique (c : Context) :
    Relator.RightUnique fun (k : Check) (part : List Finding) => k.run c = .ok part :=
  fun _ _ _ h h' => Except.ok.inj (h.symm.trans h')

theorem run_ne_error {c : Context} {checks : List Check} {parts : List (List Finding)}
    (hparts : List.Forall₂ (fun (k : Check) part => k.run c = .ok part) checks parts)
    {k : Check} (hk : k ∈ checks) (e : CheckFault) : k.run c ≠ .error e := by
  intro he
  obtain ⟨fault, hfault⟩ := runAll_eq_error_iff.mpr ⟨k, hk, e, he⟩
  rw [runAll_eq_ok_iff.mpr ⟨parts, hparts, rfl⟩] at hfault
  cases hfault

end ScriptLint.Check
