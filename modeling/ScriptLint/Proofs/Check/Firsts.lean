import Mathlib.Data.List.Nodup
import ScriptLint.Check.Basic

namespace ScriptLint.Check

/-! The first entries of each name. -/

variable {α : Type} {seen seen' : List String} {name : String}

theorem mem_names_firsts (seen : List String) (entries : List (String × α)) :
    name ∈ (firsts seen entries).map (·.1) ↔ name ∈ entries.map (·.1) ∧ name ∉ seen := by
  induction entries generalizing seen with
  | nil => simp [firsts]
  | cons e entries ih =>
      by_cases he : e.1 ∈ seen
      · simp only [firsts, List.contains_iff_mem, he, if_true, ih, List.map_cons,
          List.mem_cons]
        constructor
        · exact fun h => ⟨.inr h.1, h.2⟩
        · rintro ⟨rfl | h, hname⟩
          · exact absurd he hname
          · exact ⟨h, hname⟩
      · simp only [firsts, List.contains_iff_mem, he, if_false, List.map_cons,
          List.mem_cons, ih, not_or]
        constructor
        · rintro (rfl | ⟨h, -, hname⟩)
          · exact ⟨.inl rfl, he⟩
          · exact ⟨.inr h, hname⟩
        · rintro ⟨rfl | h, hname⟩
          · exact .inl rfl
          · by_cases heq : name = e.1
            · exact .inl heq
            · exact .inr ⟨h, heq, hname⟩

theorem firsts_sublist (seen : List String) (entries : List (String × α)) :
    (firsts seen entries).Sublist entries := by
  induction entries generalizing seen with
  | nil => exact .slnil
  | cons e entries ih =>
      rw [firsts]
      split
      · exact (ih seen).cons e
      · exact (ih _).cons_cons e

theorem nodup_names_firsts (seen : List String) (entries : List (String × α)) :
    ((firsts seen entries).map (·.1)).Nodup := by
  induction entries generalizing seen with
  | nil => exact List.nodup_nil
  | cons e entries ih =>
      by_cases he : e.1 ∈ seen
      · simpa [firsts, he] using ih seen
      · rw [firsts, if_neg (by simpa using he), List.map_cons, List.nodup_cons]
        exact ⟨fun h => ((mem_names_firsts _ _).mp h).2 List.mem_cons_self,
          ih (e.1 :: seen)⟩

/-- An entry is the first of its name, and what is listed before it stands before it. -/
theorem exists_front_of_firsts_eq {entries listed rest : List (String × α)}
    {e : String × α} (h : firsts seen entries = listed ++ e :: rest) :
    ∃ front back, entries = front ++ e :: back ∧ e.1 ∉ front.map (·.1) ∧
      ∀ x ∈ listed, x ∈ front := by
  induction entries generalizing seen listed with
  | nil => simp [firsts] at h
  | cons a entries ih =>
      have hnotSeen : e.1 ∉ seen := by
        have hmem : e ∈ firsts seen (a :: entries) := by simp [h]
        exact ((mem_names_firsts _ _).mp (List.mem_map_of_mem hmem)).2
      by_cases ha : a.1 ∈ seen
      · rw [firsts, if_pos (by simpa using ha)] at h
        obtain ⟨front, back, rfl, hfirst, hlisted⟩ := ih h
        have hne : e.1 ≠ a.1 := fun heq => hnotSeen (heq ▸ ha)
        refine ⟨a :: front, back, rfl, ?_,
          fun x hx => List.mem_cons_of_mem _ (hlisted x hx)⟩
        rw [List.map_cons, List.mem_cons, not_or]
        exact ⟨hne, hfirst⟩
      · rw [firsts, if_neg (by simpa using ha)] at h
        cases listed with
        | nil =>
            obtain ⟨rfl, -⟩ := List.cons.inj h
            exact ⟨[], entries, rfl, List.not_mem_nil, nofun⟩
        | cons x listed =>
            -- The entry that is listed is seen from here on, so no later one has its name.
            obtain ⟨rfl, htail⟩ := List.cons.inj h
            have hne : e.1 ≠ a.1 := by
              have hmem : e ∈ firsts (a.1 :: seen) entries := by simp [htail]
              have hname := ((mem_names_firsts _ _).mp (List.mem_map_of_mem hmem)).2
              exact fun heq => hname (heq ▸ List.mem_cons_self)
            obtain ⟨front, back, rfl, hfirst, hlisted⟩ := ih htail
            refine ⟨a :: front, back, rfl, ?_, List.forall_mem_cons.mpr
              ⟨List.mem_cons_self, fun y hy => List.mem_cons_of_mem _ (hlisted y hy)⟩⟩
            rw [List.map_cons, List.mem_cons, not_or]
            exact ⟨hne, hfirst⟩

/-- The names seen count as a set. -/
theorem firsts_congr (hseen : ∀ x, x ∈ seen' ↔ x ∈ seen) (entries : List (String × α)) :
    firsts seen' entries = firsts seen entries := by
  induction entries generalizing seen seen' with
  | nil => rfl
  | cons e entries ih =>
      by_cases he : e.1 ∈ seen
      · have he' : e.1 ∈ seen' := (hseen e.1).mpr he
        simpa [firsts, he, he'] using ih hseen
      · have he' : e.1 ∉ seen' := fun h => he ((hseen e.1).mp h)
        have hmore : ∀ x, x ∈ e.1 :: seen' ↔ x ∈ e.1 :: seen := by
          intro x
          rw [List.mem_cons, List.mem_cons, hseen]
        simpa [firsts, he, he'] using ih hmore

/-- A name more among those seen takes its own entry out, and no other. -/
theorem firsts_of_mem_iff (hseen : ∀ x, x ∈ seen' ↔ x ∈ seen ∨ x = name)
    (entries : List (String × α)) :
    firsts seen' entries = (firsts seen entries).filter fun e => e.1 != name := by
  induction entries generalizing seen seen' with
  | nil => rfl
  | cons e entries ih =>
      by_cases he : e.1 ∈ seen
      · have he' : e.1 ∈ seen' := (hseen e.1).mpr (.inl he)
        simpa [firsts, he, he'] using ih hseen
      · by_cases hname : e.1 = name
        · have he' : e.1 ∈ seen' := (hseen e.1).mpr (.inr hname)
          have hsame : ∀ x, x ∈ seen' ↔ x ∈ e.1 :: seen ∨ x = name := by
            intro x
            rw [hseen, List.mem_cons, hname]
            tauto
          subst hname
          simpa [firsts, he, he'] using ih hsame
        · have he' : e.1 ∉ seen' := fun h => ((hseen e.1).mp h).elim he hname
          have hmore : ∀ x, x ∈ e.1 :: seen' ↔ x ∈ e.1 :: seen ∨ x = name := by
            intro x
            rw [List.mem_cons, List.mem_cons, hseen]
            tauto
          simpa [firsts, he, he', hname] using ih hmore

/-- Which entries are first shows in their names alone. -/
theorem firsts_map {β : Type} (f : α → β) (seen : List String)
    (entries : List (String × α)) :
    firsts seen (entries.map (Prod.map id f)) =
      (firsts seen entries).map (Prod.map id f) := by
  induction entries generalizing seen with
  | nil => rfl
  | cons e entries ih =>
      by_cases he : e.1 ∈ seen
      · simp only [List.map_cons, firsts, Prod.map_fst, id_eq, List.contains_iff_mem, he,
          if_true, ih]
      · simp only [List.map_cons, firsts, Prod.map_fst, id_eq, List.contains_iff_mem, he,
          if_false, ih]
        rfl

end ScriptLint.Check
