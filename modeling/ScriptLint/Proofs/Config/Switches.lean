import Mathlib.Data.List.Nodup
import ScriptLint.Config.Basic

namespace ScriptLint.Config

/-! Which checks run under the switches of a configuration. A switch may be spelled in
several ways; the list of what is switched off reads all of them, the validator only the
normalized one. -/

variable {c : Config}

/-- No check has two switches, whatever their spelling. -/
def SwitchesDistinct (c : Config) : Prop := (c.switches.map fun s => normalize s.1).Nodup

theorem lookup_eq_some_iff_mem {α β : Type} [BEq α] [LawfulBEq α] {entries : List (α × β)}
    (hkeys : (entries.map (·.1)).Nodup) {key : α} {b : β} :
    entries.lookup key = some b ↔ (key, b) ∈ entries := by
  rw [List.lookup_eq_some_iff]
  constructor
  · rintro ⟨front, back, rfl, -⟩
    simp
  · intro hmem
    obtain ⟨front, back, rfl⟩ := List.append_of_mem hmem
    refine ⟨front, back, rfl, fun e he => ?_⟩
    rw [List.map_append, List.nodup_append] at hkeys
    rw [bne_iff_ne]
    exact (hkeys.2.2 e.1 (List.mem_map_of_mem he) key (by simp)).symm

theorem SwitchesDistinct.keys (h : c.SwitchesDistinct) : (c.switches.map (·.1)).Nodup := by
  have hmap : ((c.switches.map (·.1)).map normalize).Nodup := by
    simpa [SwitchesDistinct, Function.comp_def] using h
  exact hmap.of_map

theorem SwitchesDistinct.key_eq (h : c.SwitchesDistinct) {key key' : String}
    {on on' : Option Bool} (hkey : (key, on) ∈ c.switches)
    (hkey' : (key', on') ∈ c.switches) (hname : normalize key = normalize key') :
    key = key' :=
  congrArg Prod.fst (List.inj_on_of_nodup_map h hkey hkey' hname)

theorem map_name_withRules (extra : List Rule) :
    (Check.withRules extra).map (·.name) =
      ["structure", "output-coverage", "security", "heuristics"] := by
  simp only [Check.withRules, Check.entryFunction, Check.coverage, Check.security,
    Check.heuristics, Check.ofFindings, List.map_cons, List.map_nil]

theorem mem_standard_names_iff {name : String} :
    name ∈ Check.standard.map (·.name) ↔
      name ∈ ["structure", "output-coverage", "security", "heuristics"] := by
  rw [Check.standard, map_name_withRules]

theorem normalize_standard {name : String} (hname : name ∈ Check.standard.map (·.name)) :
    normalize name = name := by
  have hall : ∀ n ∈ ["structure", "output-coverage", "security", "heuristics"],
      normalize n = n := by decide +kernel
  exact hall name (mem_standard_names_iff.mp hname)

/-- A check is switched off under its own name only. -/
theorem isEnabled_eq_false_iff (h : c.SwitchesDistinct) {name : String}
    (hname : name ∈ Check.standard.map (·.name)) :
    c.isEnabled name = false ↔ (name, some false) ∈ c.switches := by
  rw [isEnabled, normalize_standard hname, ← lookup_eq_some_iff_mem h.keys]
  cases c.switches.lookup name with
  | none => simp
  | some on => cases on <;> simp

theorem mem_withRules_of_mem (c : Config) {k : Check} (hk : k ∈ c.validator.checks) :
    k ∈ Check.withRules c.extraRules := by
  rw [← c.checks_eq]
  exact (List.mem_filter.mp hk).1

theorem mem_validator_names_iff (h : c.SwitchesDistinct) {name : String}
    (hname : name ∈ Check.standard.map (·.name)) :
    name ∈ c.validator.checks.map (·.name) ↔ (name, some false) ∉ c.switches := by
  rw [← isEnabled_eq_false_iff h hname]
  rw [mem_standard_names_iff, ← map_name_withRules c.extraRules, ← c.checks_eq] at hname
  obtain ⟨k, hk, rfl⟩ := List.mem_map.mp hname
  constructor
  · intro hmem
    obtain ⟨k', hk', heq⟩ := List.mem_map.mp hmem
    simpa [← heq] using (List.mem_filter.mp hk').2
  · intro hon
    exact List.mem_map.mpr ⟨k, List.mem_filter.mpr ⟨hk, by simpa using hon⟩, rfl⟩

theorem mem_disabled_iff {name : String} :
    name ∈ c.disabled ↔ ∃ key, (key, some false) ∈ c.switches ∧ normalize key = name := by
  simp [disabled]

/-- A check runs unless it is switched off under its normalized name. So what runs is what
is not listed as switched off exactly if no other spelling of its name is used to switch it
off. -/
theorem runs_iff_not_disabled_iff (h : c.SwitchesDistinct) {name : String}
    (hname : name ∈ Check.standard.map (·.name)) :
    (name ∈ c.validator.checks.map (·.name) ↔ (name, some false) ∉ c.switches) ∧
      ((name ∈ c.validator.checks.map (·.name) ↔ name ∉ c.disabled) ↔
        ∀ key, (key, some false) ∈ c.switches → normalize key = name → key = name) := by
  refine ⟨mem_validator_names_iff h hname, ?_⟩
  rw [mem_validator_names_iff h hname, mem_disabled_iff, not_iff_not]
  constructor
  · intro hiff key hkey hnormal
    exact h.key_eq hkey (hiff.mpr ⟨key, hkey, hnormal⟩)
      (hnormal.trans (normalize_standard hname).symm)
  · intro hspelled
    constructor
    · intro hoff
      exact ⟨name, hoff, normalize_standard hname⟩
    · rintro ⟨key, hkey, hnormal⟩
      exact hspelled key hkey hnormal ▸ hkey

/-- A configuration that switches off two checks, one of them under another spelling. -/
def underscored : Config :=
  { default with switches := [("output_coverage", some false), ("security", some false)] }

theorem underscored_distinct : underscored.SwitchesDistinct := by
  unfold SwitchesDistinct
  decide +kernel

theorem runs_iff_not_disabled_security :
    underscored.SwitchesDistinct ∧ "security" ∈ Check.standard.map (·.name) ∧
      ("security" ∈ underscored.validator.checks.map (·.name) ↔
        ("security", some false) ∉ underscored.switches) ∧
      (("security" ∈ underscored.validator.checks.map (·.name) ↔
          "security" ∉ underscored.disabled) ↔
        ∀ key, (key, some false) ∈ underscored.switches → normalize key = "security" →
          key = "security") :=
  ⟨underscored_distinct, mem_standard_names_iff.mpr (by decide),
    runs_iff_not_disabled_iff underscored_distinct
      (mem_standard_names_iff.mpr (by decide))⟩

/-- Not every check that is listed as switched off is kept from running. -/
theorem output_coverage_runs_disabled :
    underscored.SwitchesDistinct ∧ "output-coverage" ∈ Check.standard.map (·.name) ∧
      "output-coverage" ∈ underscored.validator.checks.map (·.name) ∧
      "output-coverage" ∈ underscored.disabled := by
  have hname : "output-coverage" ∈ Check.standard.map (·.name) :=
    mem_standard_names_iff.mpr (by decide)
  refine ⟨underscored_distinct, hname, ?_, ?_⟩
  · rw [mem_validator_names_iff underscored_distinct hname]
    decide
  · exact mem_disabled_iff.mpr ⟨"output_coverage", by decide, by decide +kernel⟩

end ScriptLint.Config
