import ScriptLint.Proofs.Check.Sockets
import ScriptLint.Proofs.Config.Switches

namespace ScriptLint

open ScriptLint.Script

/-! The findings under a configuration are put together from those of each check alone: a
block for each check that is switched on, in a fixed order, and nothing that depends on the
other checks. -/

/-! ### Checks one at a time -/

def Check.alone (k : Check) (entryName : String) (s : Script) (outputs : List Socket)
    (inputs : Option (List Socket)) : List Finding :=
  ((⟨[k], entryName, none⟩ : Validator).judge s outputs inputs).findings

namespace Validator

variable {v : Validator} {s : Script} {outputs : List Socket}
  {inputs : Option (List Socket)}
  {k : Check} {fs : List Finding}

theorem alone_of_run (hs : s.rejection? = none)
    (hrun : k.run (v.context s outputs inputs) = .ok fs) :
    k.alone v.entryName s outputs inputs = fs := by
  have hall : Check.runAll (v.context s outputs inputs) [k] = .ok fs :=
    Check.runAll_eq_ok_iff.mpr ⟨[fs], .cons hrun .nil, by simp⟩
  have hjudge : (⟨[k], v.entryName, none⟩ : Validator).judge s outputs inputs = ⟨fs⟩ :=
    judge_of_runAll_ok hs hall
  rw [Check.alone, hjudge]

theorem judge_eq_flatMap_alone (hs : s.rejection? = none)
    (hsteady : ∀ k ∈ v.checks, ∃ fs, k.run (v.context s outputs inputs) = .ok fs) :
    (v.judge s outputs inputs).findings =
      v.checks.flatMap fun k => k.alone v.entryName s outputs inputs := by
  have hparts : List.Forall₂
      (fun (k : Check) part => k.run (v.context s outputs inputs) = .ok part) v.checks
      (v.checks.map fun k => k.alone v.entryName s outputs inputs) := by
    rw [List.forall₂_map_right_iff, List.forall₂_same]
    intro k hk
    obtain ⟨fs, hrun⟩ := hsteady k hk
    rw [alone_of_run hs hrun, hrun]
  rw [judge_of_runAll_ok hs (Check.runAll_eq_ok_iff.mpr ⟨_, hparts, rfl⟩),
    List.flatMap_def]

end Validator

/-! ### Blocks -/

namespace Config

variable {c c' : Config} {s : Script} {outputs : List Socket}
  {inputs : Option (List Socket)}
  {k : Check} {name : String}

def block (c : Config) (s : Script) (outputs : List Socket) (inputs : Option (List Socket))
    (k : Check) : List Finding :=
  if c.isEnabled k.name then k.alone c.entryName s outputs inputs else []

theorem flatMap_filter_eq {α β : Type} (p : α → Bool) (f : α → List β) (as : List α) :
    (as.filter p).flatMap f = as.flatMap fun a => if p a then f a else [] := by
  induction as with
  | nil => rfl
  | cons a as ih => cases h : p a <;> simp [h, ih]

theorem judge_eq_flatMap_block (hs : s.rejection? = none) :
    (c.validator.judge s outputs inputs).findings =
      (Check.withRules c.extraRules).flatMap (c.block s outputs inputs) := by
  rw [Validator.judge_eq_flatMap_alone hs]
  · rw [validator, c.checks_eq, flatMap_filter_eq]
    rfl
  · intro k hk
    obtain ⟨f, hf⟩ := Check.eq_ofFindings_of_mem (c.mem_withRules_of_mem hk)
    exact ⟨f (c.validator.context s outputs inputs), by rw [hf]; rfl⟩

theorem alone_security (hs : s.rejection? = none) (c : Config) :
    (Check.security c.extraRules).alone c.entryName s outputs inputs =
      Rule.scan c.rules s.source := by
  have hrun : (Check.security c.extraRules).run (c.validator.context s outputs inputs) =
      .ok (Rule.scan c.rules s.source) := rfl
  exact Validator.alone_of_run hs hrun

/-! ### Switching one check -/

/-- The same configuration, as far as findings go, but for whether one check is switched
on. -/
structure AgreesBut (c : Config) (name : String) (c' : Config) : Prop where
  entryName : c'.entryName = c.entryName
  patterns : c'.patterns = c.patterns
  others : ∀ name' ∈ Check.standard.map (·.name), name' ≠ name →
    c'.isEnabled name' = c.isEnabled name'

theorem lookup_put_self {α : Type} (key : String) (a : α) (entries : List (String × α)) :
    (put key a entries).lookup key = some a := by
  induction entries with
  | nil => simp [put]
  | cons e rest ih =>
      obtain ⟨k, b⟩ := e
      rw [put]
      by_cases hk : k = key
      · simp [hk]
      · rw [if_neg hk]
        split
        · simp
        · rw [List.lookup_cons, beq_false_of_ne (Ne.symm hk)]
          exact ih

theorem lookup_put_of_ne {α : Type} {key key' : String} (h : key' ≠ key) (a : α)
    (entries : List (String × α)) :
    (put key a entries).lookup key' = entries.lookup key' := by
  induction entries with
  | nil => simp [put, h]
  | cons e rest ih =>
      obtain ⟨k, b⟩ := e
      rw [put]
      by_cases hk : k = key
      · simp [hk, List.lookup_cons, beq_false_of_ne h]
      · rw [if_neg hk]
        split
        · simp [List.lookup_cons, beq_false_of_ne h]
        · rw [List.lookup_cons, List.lookup_cons, ih]

theorem isEnabled_standard (hname : name ∈ Check.standard.map (·.name)) (c : Config) :
    c.isEnabled name = ((c.switches.lookup name).bind id).getD true := by
  rw [isEnabled, normalize_standard hname]
  cases c.switches.lookup name <;> rfl

theorem isEnabled_setSwitch (hname : name ∈ Check.standard.map (·.name)) (c : Config)
    (on : Option Bool) : (c.setSwitch name on).isEnabled name = on.getD true := by
  rw [isEnabled_standard hname, setSwitch, lookup_put_self]
  rfl

theorem agreesBut_setSwitch (c : Config) (name : String) (on : Option Bool) :
    c.AgreesBut name (c.setSwitch name on) where
  entryName := rfl
  patterns := rfl
  others := by
    intro name' hname' hne
    rw [isEnabled_standard hname', isEnabled_standard hname', setSwitch,
      lookup_put_of_ne hne]

theorem name_mem_standard {extra : List Rule} (hk : k ∈ Check.withRules extra) :
    k.name ∈ Check.standard.map (·.name) := by
  rw [mem_standard_names_iff, ← map_name_withRules extra]
  exact List.mem_map_of_mem hk

theorem AgreesBut.block_eq (h : c.AgreesBut name c')
    (hk : k ∈ Check.withRules c.extraRules) (hne : k.name ≠ name) :
    c'.block s outputs inputs k = c.block s outputs inputs k := by
  rw [block, block, h.entryName, h.others _ (name_mem_standard hk) hne]

/-- The block of a check has a place of its own, with the others on both sides. -/
theorem exists_place_of_block (hs : s.rejection? = none) (c : Config)
    (outputs : List Socket) (inputs : Option (List Socket))
    (hk : k ∈ Check.withRules c.extraRules) :
    ∃ front back, ∀ c', c.AgreesBut k.name c' →
      (c'.validator.judge s outputs inputs).findings =
        front ++ (if c'.isEnabled k.name then k.alone c.entryName s outputs
          inputs else []) ++
          back := by
  have hnodup : ((Check.withRules c.extraRules).map (·.name)).Nodup := by
    rw [map_name_withRules]
    decide
  obtain ⟨before, after, hsplit⟩ := List.append_of_mem hk
  rw [hsplit, List.map_append, List.map_cons, List.nodup_middle, List.nodup_cons,
    List.mem_append] at hnodup
  refine ⟨before.flatMap (c.block s outputs inputs),
    after.flatMap (c.block s outputs inputs),
    fun c' h => ?_⟩
  have hblock : ∀ k' ∈ before ++ after,
      c'.block s outputs inputs k' = c.block s outputs inputs k' := by
    intro k' hk'
    refine h.block_eq (hsplit ▸ ?_) fun hname => hnodup.1 ?_
    · rcases List.mem_append.mp hk' with hk' | hk' <;> simp [hk']
    · rw [← List.mem_append, ← List.map_append, ← hname]
      exact List.mem_map_of_mem hk'
  rw [List.forall_mem_append] at hblock
  rw [judge_eq_flatMap_block hs, extraRules, h.patterns, ← extraRules, hsplit,
    List.flatMap_append, List.flatMap_cons, List.flatMap_congr hblock.1,
    List.flatMap_congr hblock.2, block, h.entryName, List.append_assoc]

/-! ### Patterns -/

/-- The configuration without the texts that are no patterns. -/
def compiling (c : Config) : Config :=
  { c with
    patterns := c.patterns.filter fun p => (Rule.ofText? p.pattern p.message).isSome }

theorem extraRules_compiling (c : Config) : c.compiling.extraRules = c.extraRules := by
  rw [extraRules, compiling, List.filterMap_filter]
  refine List.filterMap_congr fun p _ => ?_
  cases Rule.ofText? p.pattern p.message <;> rfl

theorem validator_eq (c : Config) :
    c.validator =
      ⟨(Check.withRules c.extraRules).filter fun k => c.isEnabled k.name, c.entryName,
        c.timeout⟩ := by
  rw [validator, c.checks_eq]

theorem validator_compiling (c : Config) : c.compiling.validator = c.validator := by
  rw [validator_eq, validator_eq, extraRules_compiling]
  rfl

/-- A script is judged by the checks that are switched on as if each ran alone, a block of
findings for each, so that switching one check only puts in or takes out its block. Texts
that are no patterns have no say, nor has the configuration on what is no script. -/
theorem validator_judge_blocks (s : Script) (outputs : List Socket)
    (inputs : Option (List Socket)) :
    (∀ r, s.rejection? = some r → ∀ c : Config,
      c.validator.judge s outputs inputs = ⟨[r.finding]⟩) ∧
    (s.rejection? = none → ∀ c : Config,
      (c.validator.judge s outputs inputs).findings =
        [Check.entryFunction, Check.coverage, Check.security c.extraRules,
          Check.heuristics].flatMap (fun k =>
            if c.isEnabled k.name then k.alone c.entryName s outputs inputs else []) ∧
      (Check.security c.extraRules).alone c.entryName s outputs inputs =
        Rule.scan c.rules s.source ∧
      ∀ k ∈ [Check.entryFunction, Check.coverage, Check.security c.extraRules,
        Check.heuristics],
        ∃ front back,
          (∀ c', c.AgreesBut k.name c' →
            (c'.validator.judge s outputs inputs).findings =
              front ++ (if c'.isEnabled k.name then k.alone c.entryName s outputs
                inputs else []) ++
                back) ∧
          ((c.setSwitch k.name (some true)).validator.judge s outputs inputs).findings =
            front ++ k.alone c.entryName s outputs inputs ++ back ∧
          ((c.setSwitch k.name (some false)).validator.judge s outputs inputs).findings =
            front ++ back) ∧
    ∀ c : Config,
      c.compiling.validator = c.validator ∧
      c.validator =
        ⟨(Check.withRules c.extraRules).filter fun k => c.isEnabled k.name, c.entryName,
          c.timeout⟩ := by
  refine ⟨fun r hr c => Validator.judge_of_rejection hr, fun hs c => ?_,
    fun c => ⟨c.validator_compiling, c.validator_eq⟩⟩
  refine ⟨judge_eq_flatMap_block hs, alone_security hs c, fun k hk => ?_⟩
  have hname : k.name ∈ Check.standard.map (·.name) := name_mem_standard hk
  obtain ⟨front, back, hplace⟩ := exists_place_of_block hs c outputs inputs hk
  refine ⟨front, back, hplace, ?_, ?_⟩
  · rw [hplace _ (c.agreesBut_setSwitch k.name _), isEnabled_setSwitch hname]
    rfl
  · rw [hplace _ (c.agreesBut_setSwitch k.name _), isEnabled_setSwitch hname]
    simp

theorem validator_judge_blocks_returning :
    Script.returning.rejection? = none ∧ ∃ front back,
      ((default.setSwitch "security" (some true)).validator.judge .returning
          [⟨"a", .any⟩] none).findings =
        front ++ Rule.scan default.rules Script.returning.source ++ back ∧
      ((default.setSwitch "security" (some false)).validator.judge .returning
          [⟨"a", .any⟩] none).findings = front ++ back := by
  have h := validator_judge_blocks .returning [⟨"a", .any⟩] none
  obtain ⟨-, hscan, hplace⟩ := h.2.1 Script.returning_rejection? default
  obtain ⟨front, back, -, hon, hoff⟩ :=
    hplace (Check.security default.extraRules) (by simp)
  rw [hscan] at hon
  exact ⟨Script.returning_rejection?, front, back, hon, hoff⟩

end Config

end ScriptLint
