import Mathlib.Logic.Function.Iterate
import ScriptLint.Proofs.Script.Violation

namespace ScriptLint.Script

/-! Patterns of any depth, and which of the words in them they bind. -/

namespace Node

variable {n c d : Node}

/-! ### Words in target position -/

def IsDefaulted (n : Node) : Prop :=
  n.kind = .assignmentPattern ∨ n.kind = .objectAssignmentPattern

/-- Whether a node holds any number of targets, or the one for what is left over. -/
def IsGroup (n : Node) : Prop :=
  n.kind = .objectPattern ∨ n.kind = .arrayPattern ∨ n.kind = .restPattern

/-- Whether a pattern binds a word: it is the word, or binds it in what has a default, in
the value of a pair or in a part of a group. -/
inductive HasTarget : Node → Node → Prop
  | name {n : Node} (hword : n.IsWord) : HasTarget n n
  | defaulted {n left d : Node} (hkind : n.IsDefaulted)
      (hleft : n.child? .left = some left)
      (h : left.HasTarget d) : HasTarget n d
  | pair {n value d : Node} (hkind : n.kind = .pairPattern)
      (hvalue : n.child? .value = some value)
      (h : value.HasTarget d) : HasTarget n d
  | part {n c d : Node} (hkind : n.IsGroup) (hc : c ∈ n.namedChildren)
      (h : c.HasTarget d) :
      HasTarget n d

theorem IsDefaulted.not_isWord (h : n.IsDefaulted) : ¬ n.IsWord := by
  intro hword
  rcases hword with hk | hk <;> rcases h with hk' | hk' <;> cases hk.symm.trans hk'

theorem not_isWord_of_pair (h : n.kind = .pairPattern) : ¬ n.IsWord := by
  intro hword
  rcases hword with hk | hk <;> cases hk.symm.trans h

theorem IsGroup.not_isWord (h : n.IsGroup) : ¬ n.IsWord := by
  intro hword
  rcases hword with hk | hk <;> rcases h with hk' | hk' | hk' <;> cases hk.symm.trans hk'

theorem mem_targets_iff : c ∈ n.targets ↔
    n.IsDefaulted ∧ n.child? .left = some c ∨
      n.kind = .pairPattern ∧ n.child? .value = some c ∨ n.IsGroup ∧
        c ∈ n.namedChildren := by
  unfold targets IsDefaulted IsGroup
  cases n.kind <;> simp

theorem IsWord.bound_eq (h : n.IsWord) : n.bound = [n] :=
  (bound_eq_targets n).trans (if_pos h)

theorem bound_eq_of_not_isWord (h : ¬ n.IsWord) : n.bound = n.targets.flatMap bound :=
  (bound_eq_targets n).trans (if_neg h)

theorem mem_bound_iff_of_not_isWord (h : ¬ n.IsWord) :
    d ∈ n.bound ↔ ∃ c ∈ n.targets, d ∈ c.bound := by
  rw [bound_eq_of_not_isWord h, List.mem_flatMap]

/-- What a pattern binds are the words in target position. -/
theorem mem_bound_iff_hasTarget : d ∈ n.bound ↔ n.HasTarget d := by
  constructor
  · intro hd
    induction n using induct with
    | h n ih =>
        by_cases hword : n.IsWord
        · rw [hword.bound_eq, List.mem_singleton] at hd
          subst hd
          exact .name hword
        · obtain ⟨c, hc, hd⟩ := (mem_bound_iff_of_not_isWord hword).mp hd
          have htarget := ih c (mem_children_of_mem_targets hc) hd
          rcases mem_targets_iff.mp hc with ⟨hkind, hc⟩ | ⟨hkind, hc⟩ | ⟨hkind, hc⟩
          · exact .defaulted hkind hc htarget
          · exact .pair hkind hc htarget
          · exact .part hkind hc htarget
  · intro h
    induction h with
    | name hword =>
        rw [hword.bound_eq]
        exact List.mem_singleton_self _
    | @defaulted n left d hkind hleft _ ih =>
        rw [mem_bound_iff_of_not_isWord hkind.not_isWord]
        exact ⟨left, mem_targets_iff.mpr (.inl ⟨hkind, hleft⟩), ih⟩
    | @pair n value d hkind hvalue _ ih =>
        rw [mem_bound_iff_of_not_isWord (not_isWord_of_pair hkind)]
        exact ⟨value, mem_targets_iff.mpr (.inr (.inl ⟨hkind, hvalue⟩)), ih⟩
    | @part n c d hkind hc _ ih =>
        rw [mem_bound_iff_of_not_isWord hkind.not_isWord]
        exact ⟨c, mem_targets_iff.mpr (.inr (.inr ⟨hkind, hc⟩)), ih⟩

/-! ### Order -/

theorem Worded.start_lt_stop_of_mem_bound (h : n.Worded) (hd : d ∈ n.bound) :
    d.start.byte < d.stop :=
  h.texts d (mem_preorderAll_of_mem_bound hd) (.inr (isWord_of_mem_bound hd))

theorem Laid.pairwise_bound (hlaid : n.Laid) (hworded : n.Worded) :
    n.bound.Pairwise fun c d => c.start.byte < d.start.byte := by
  induction n using induct with
  | h n ih =>
      rw [bound_eq_targets]
      split
      · exact List.pairwise_singleton _ _
      rw [List.pairwise_flatMap]
      constructor
      · intro c hc
        have hchild := mem_children_of_mem_targets hc
        exact ih c hchild (hlaid.of_child hchild) (hworded.of_child hchild)
      · have hapart := hlaid.pairwise_apart.sublist n.targets_sublist
        apply hapart.imp_of_mem
        intro c c' hc _ hapart d hd d' hd'
        have hchild := mem_children_of_mem_targets hc
        calc d.start.byte < d.stop :=
              (hworded.of_child hchild).start_lt_stop_of_mem_bound hd
          _ ≤ d'.start.byte :=
            hapart d (mem_preorderAll_of_mem_bound hd) d'
              (mem_preorderAll_of_mem_bound hd')

/-! ### Words aside -/

def HoldsWord (n : Node) : Prop := ∃ d ∈ n.preorder, d.IsWord

/-- Whether a tree is a pattern of names, of targets with a default value, of pairs of a
key and a target, and of groups. Comments may stand anywhere in it. -/
inductive IsPattern : Node → Prop
  | name {n : Node} (hword : n.IsWord) : IsPattern n
  | defaulted {n left : Node} (hkind : n.IsDefaulted) (hleft : n.child? .left = some left)
      (hpattern : left.IsPattern)
      (hothers : ∀ c ∈ n.namedChildren, c.HoldsWord →
        c = left ∨ c.role = some (.other "right")) :
      IsPattern n
  | pair {n value : Node} (hkind : n.kind = .pairPattern)
      (hvalue : n.child? .value = some value)
      (hpattern : value.IsPattern)
      (hothers : ∀ c ∈ n.namedChildren, c.HoldsWord → c = value ∨ c.role = some .key) :
      IsPattern n
  | group {n : Node} (hkind : n.IsGroup)
      (hparts : ∀ c ∈ n.namedChildren, c.HoldsWord → c.IsPattern) : IsPattern n

def IsAside (n c : Node) : Prop :=
  n.IsDefaulted ∧ c.role = some (.other "right") ∨ n.kind = .pairPattern ∧
    c.role = some .key

/-- Whether a node stands in a default value or a key, at any depth. -/
def SetsAside (n d : Node) : Prop :=
  ∃ p ∈ n.preorder, ∃ c ∈ p.namedChildren, p.IsAside c ∧ d ∈ c.preorder

theorem setsAside_iff : n.SetsAside d ↔
    ∃ c ∈ n.namedChildren, n.IsAside c ∧ d ∈ c.preorder ∨ c.SetsAside d := by
  constructor
  · intro h
    obtain ⟨p, hp, c, hc, haside, hd⟩ := h
    obtain rfl | ⟨c', hc', hp⟩ := mem_preorder_iff.mp hp
    · exact ⟨c, hc, .inl ⟨haside, hd⟩⟩
    · exact ⟨c', hc', .inr ⟨p, hp, c, hc, haside, hd⟩⟩
  · intro h
    obtain ⟨c, hc, ⟨haside, hd⟩ | ⟨p, hp, c', hc', haside, hd⟩⟩ := h
    · exact ⟨n, self_mem_preorder n, c, hc, haside, hd⟩
    · exact ⟨p, mem_preorder_of_child hc hp, c', hc', haside, hd⟩

theorem SetsAside.mem_preorder (h : n.SetsAside d) : d ∈ n.preorder := by
  obtain ⟨p, hp, c, hc, -, hd⟩ := h
  exact mem_preorder_trans (mem_preorder_of_child hc hd) hp

theorem role_of_child? {r : Role} (hc : n.child? r = some c) : c.role = some r := by
  have hrole := List.find?_some hc
  exact beq_iff_eq.mp hrole

theorem not_isAside_of_mem_targets (hc : c ∈ n.targets) : ¬ n.IsAside c := by
  intro haside
  rcases mem_targets_iff.mp hc with ⟨hkind, hleft⟩ | ⟨hkind, hvalue⟩ | ⟨hkind, -⟩
  · obtain ⟨-, hrole⟩ | ⟨hpair, -⟩ := haside
    · cases hrole.symm.trans (role_of_child? hleft)
    · rcases hkind with hk | hk <;> cases hk.symm.trans hpair
  · obtain ⟨hdefaulted, -⟩ | ⟨-, hrole⟩ := haside
    · rcases hdefaulted with hk | hk <;> cases hk.symm.trans hkind
    · cases hrole.symm.trans (role_of_child? hvalue)
  · obtain ⟨hdefaulted, -⟩ | ⟨hpair, -⟩ := haside
    · rcases hkind with hk | hk | hk <;> rcases hdefaulted with hk' | hk' <;>
        cases hk.symm.trans hk'
    · rcases hkind with hk | hk | hk <;> cases hk.symm.trans hpair

theorem IsPattern.target_or_aside (h : n.IsPattern) (hword : ¬ n.IsWord)
    (hc : c ∈ n.namedChildren) (hholds : c.HoldsWord) :
    c ∈ n.targets ∧ c.IsPattern ∨ n.IsAside c := by
  cases h with
  | name h => exact absurd h hword
  | defaulted hkind hleft hpattern hothers =>
      rcases hothers c hc hholds with rfl | hrole
      · exact .inl ⟨mem_targets_iff.mpr (.inl ⟨hkind, hleft⟩), hpattern⟩
      · exact .inr (.inl ⟨hkind, hrole⟩)
  | pair hkind hvalue hpattern hothers =>
      rcases hothers c hc hholds with rfl | hrole
      · exact .inl ⟨mem_targets_iff.mpr (.inr (.inl ⟨hkind, hvalue⟩)), hpattern⟩
      · exact .inr (.inr ⟨hkind, hrole⟩)
  | group hkind hparts =>
      exact .inl ⟨mem_targets_iff.mpr (.inr (.inr ⟨hkind, hc⟩)), hparts c hc hholds⟩

theorem IsPattern.mem_bound (hpattern : n.IsPattern) (hworded : n.Worded)
    (hd : d ∈ n.preorder) (hword : d.IsWord) (haside : ¬ n.SetsAside d) : d ∈ n.bound := by
  induction n using induct with
  | h n ih =>
      rw [mem_preorder_iff] at hd
      by_cases hself : n.IsWord
      · rw [hworded.words n (self_mem_preorderAll n) hself] at hd
        obtain rfl | ⟨c, hc, -⟩ := hd
        · rw [hself.bound_eq]
          exact List.mem_singleton_self _
        · exact absurd hc List.not_mem_nil
      · obtain rfl | ⟨c, hc, hd⟩ := hd
        · exact absurd hword hself
        rw [setsAside_iff, not_exists] at haside
        obtain ⟨htarget, hpart⟩ | hset := hpattern.target_or_aside hself hc ⟨d, hd, hword⟩
        · have hchild := mem_children_of_mem_targets htarget
          have hrest : ¬ c.SetsAside d := fun h => haside c ⟨hc, .inr h⟩
          exact (mem_bound_iff_of_not_isWord hself).mpr
            ⟨c, htarget, ih c hchild hpart (hworded.of_child hchild) hd hrest⟩
        · exact absurd ⟨hc, .inl ⟨hset, hd⟩⟩ (haside c)

theorem Laid.eq_of_mem_preorder {c' : Node} (h : n.Laid) (hc : c ∈ n.namedChildren)
    (hc' : c' ∈ n.namedChildren) (hd : d ∈ c.preorder) (hd' : d ∈ c'.preorder)
    (htext : d.start.byte < d.stop) : c = c' := by
  by_contra hne
  have hwithin := (h.of_child (mem_namedChildren.mp hc).1).within
    (mem_preorderAll_of_mem_preorder hd)
  have hwithin' := (h.of_child (mem_namedChildren.mp hc').1).within
    (mem_preorderAll_of_mem_preorder hd')
  obtain hbefore | hbehind := h.disjoint hc hc' hne
  · omega
  · omega

theorem Worded.mem_of_target (h : n.Worded) (hc : c ∈ n.targets) (hd : d ∈ c.bound) :
    c ∈ n.namedChildren ∧ d ∈ c.preorder := by
  have hchild := mem_children_of_mem_targets hc
  have hmem := mem_preorderAll_of_mem_bound hd
  have hword := isWord_of_mem_bound hd
  refine ⟨mem_namedChildren.mpr ⟨hchild, ?_⟩, (h.of_child hchild).mem_preorder hmem hword⟩
  by_contra hnamed
  have hbare := h.bare c (mem_preorderAll_of_child hchild (self_mem_preorderAll c))
    (Bool.eq_false_iff.mpr hnamed) d hmem
  rw [hword.isNamed] at hbare
  cases hbare

/-- Nothing that a pattern binds stands in a default value or a key. -/
theorem Laid.not_setsAside (hlaid : n.Laid) (hworded : n.Worded) (hd : d ∈ n.bound) :
    ¬ n.SetsAside d := by
  induction n using induct with
  | h n ih =>
      rw [setsAside_iff]
      intro hset
      obtain ⟨c', hc', h⟩ := hset
      by_cases hself : n.IsWord
      · rw [hworded.words n (self_mem_preorderAll n) hself] at hc'
        exact List.not_mem_nil hc'
      · obtain ⟨c, htarget, hd⟩ := (mem_bound_iff_of_not_isWord hself).mp hd
        obtain ⟨hc, hmem⟩ := hworded.mem_of_target htarget hd
        have hchild := mem_children_of_mem_targets htarget
        have htext := (hworded.of_child hchild).start_lt_stop_of_mem_bound hd
        -- Two children cannot both hold `d`, so the one set aside would be the target.
        rcases h with ⟨haside, hmem'⟩ | hset
        · obtain rfl := hlaid.eq_of_mem_preorder hc hc' hmem hmem' htext
          exact not_isAside_of_mem_targets htarget haside
        · obtain rfl := hlaid.eq_of_mem_preorder hc hc' hmem hset.mem_preorder htext
          exact ih c hchild (hlaid.of_child hchild) (hworded.of_child hchild) hd hset

end Node

/-! ### Unpacking step by step -/

/-- A pattern under way: the names found so far, and what is still to be taken apart, the
next one first. -/
structure Unpacking where
  found : List Node
  pending : List Node

namespace Unpacking

open Node

def ofNode (n : Node) : Unpacking := ⟨[], [n]⟩

/-- Takes the next node: a word is a name that is found, and of any other node the targets
are taken next. -/
def step (u : Unpacking) : Unpacking :=
  match u.pending with
  | [] => u
  | n :: rest =>
      if n.IsWord then ⟨u.found ++ [n], rest⟩ else ⟨u.found, n.targets ++ rest⟩

theorem sizeList_le_of_sublist {cs ds : List Node} (h : cs.Sublist ds) :
    sizeList cs ≤ sizeList ds := by
  induction h with
  | slnil => exact Nat.le_refl _
  | cons d _ ih => exact Nat.le_trans ih (Nat.le_add_left _ _)
  | cons_cons d _ ih => exact Nat.add_le_add_left ih _

theorem size_step_lt (n : Node) (found rest : List Node) :
    sizeList (step ⟨found, n :: rest⟩).pending < sizeList (n :: rest) := by
  have htargets := sizeList_le_of_sublist n.targets_sublist
  simp only [step]
  split
  · simp only [sizeList_cons, size_eq]
    omega
  · simp only [sizeList_append, sizeList_cons, size_eq]
    omega

/-- A step keeps what is found together with what the nodes under way bind. -/
theorem step_bound (u : Unpacking) :
    u.step.found ++ u.step.pending.flatMap bound = u.found ++ u.pending.flatMap bound := by
  unfold step
  split
  · rfl
  · next n rest hpending =>
      rw [hpending]
      split
      · next hword => simp [hword.bound_eq]
      · next hword => simp [bound_eq_of_not_isWord hword]

/-- Nothing is left after at most as many steps as there are nodes, and then all is
found. -/
theorem exists_iterate_step (u : Unpacking) :
    ∃ k ≤ sizeList u.pending, step^[k] u = ⟨u.found ++ u.pending.flatMap bound, []⟩ := by
  generalize hsize : sizeList u.pending = size
  induction size using Nat.strong_induction_on generalizing u with
  | _ size ih =>
      obtain ⟨found, pending⟩ := u
      cases pending with
      | nil => exact ⟨0, Nat.zero_le _, by simp⟩
      | cons n rest =>
          have hlt := size_step_lt n found rest
          rw [← hsize] at ih ⊢
          obtain ⟨k, hk, hrun⟩ := ih _ hlt (step ⟨found, n :: rest⟩) rfl
          refine ⟨k + 1, Nat.le_trans (Nat.succ_le_succ hk) hlt, ?_⟩
          rw [Function.iterate_succ_apply, hrun, step_bound]

end Unpacking

/-- Taking a pattern apart comes to an end with the words in target position, in the order
in which they start; of the words of a pattern these are all but those in default values
and keys. -/
theorem Node.bound_pattern (n : Node) :
    (∃ k ≤ n.size, Unpacking.step^[k] (.ofNode n) = ⟨n.bound, []⟩) ∧
    (∀ d, d ∈ n.bound ↔ n.HasTarget d) ∧
    (n.Laid → n.Worded →
      (n.bound.Pairwise fun c d => c.start.byte < d.start.byte) ∧
      (∀ d ∈ n.bound, ¬ n.SetsAside d) ∧
      (n.IsPattern → ∀ d, d ∈ n.bound ↔ d ∈ n.preorder ∧ d.IsWord ∧ ¬ n.SetsAside d)) := by
  refine ⟨?_, fun d => mem_bound_iff_hasTarget, fun hlaid hworded => ?_⟩
  · simpa [Unpacking.ofNode] using (Unpacking.ofNode n).exists_iterate_step
  · refine ⟨hlaid.pairwise_bound hworded, fun d hd => hlaid.not_setsAside hworded hd, ?_⟩
    intro hpattern d
    constructor
    · intro hd
      have hword := isWord_of_mem_bound hd
      exact ⟨hworded.mem_preorder (mem_preorderAll_of_mem_bound hd) hword, hword,
        hlaid.not_setsAside hworded hd⟩
    · intro h
      obtain ⟨hd, hword, haside⟩ := h
      exact hpattern.mem_bound hworded hd hword haside

namespace Node

/-- The pattern `{a = b, [k]: [c, ...d]}`. -/
def nestedPattern : Node :=
  .mk .objectPattern none ⟨0, 0, 0⟩ 23 false [
    .mk (.token "\x7b") none ⟨0, 0, 0⟩ 1 false [],
    .mk .objectAssignmentPattern none ⟨1, 0, 1⟩ 6 false [
      .mk .shorthandPattern (some .left) ⟨1, 0, 1⟩ 2 false [],
      .mk (.token "=") none ⟨3, 0, 3⟩ 4 false [],
      .mk .identifier (some (.other "right")) ⟨5, 0, 5⟩ 6 false []],
    .mk (.token ",") none ⟨6, 0, 6⟩ 7 false [],
    .mk .pairPattern none ⟨8, 0, 8⟩ 22 false [
      .mk (.other "computed_property_name") (some .key) ⟨8, 0, 8⟩ 11 false [
        .mk (.token "[") none ⟨8, 0, 8⟩ 9 false [],
        .mk .identifier none ⟨9, 0, 9⟩ 10 false [],
        .mk (.token "]") none ⟨10, 0, 10⟩ 11 false []],
      .mk (.token ":") none ⟨11, 0, 11⟩ 12 false [],
      .mk .arrayPattern (some .value) ⟨13, 0, 13⟩ 22 false [
        .mk (.token "[") none ⟨13, 0, 13⟩ 14 false [],
        .mk .identifier none ⟨14, 0, 14⟩ 15 false [],
        .mk (.token ",") none ⟨15, 0, 15⟩ 16 false [],
        .mk .restPattern none ⟨17, 0, 17⟩ 21 false [
          .mk (.token "...") none ⟨17, 0, 17⟩ 20 false [],
          .mk .identifier none ⟨20, 0, 20⟩ 21 false []],
        .mk (.token "]") none ⟨21, 0, 21⟩ 22 false []]],
    .mk (.token "\x7d") none ⟨22, 0, 22⟩ 23 false []]

theorem isPattern_nestedPattern : nestedPattern.IsPattern := by
  refine .group (.inl rfl) ?_
  refine List.forall_mem_cons.mpr
    ⟨fun _ => ?_, List.forall_mem_cons.mpr ⟨fun _ => ?_, nofun⟩⟩
  · refine .defaulted (.inr rfl) rfl (.name (.inr rfl)) ?_
    refine List.forall_mem_cons.mpr
      ⟨fun _ => .inl rfl, List.forall_mem_cons.mpr ⟨?_, nofun⟩⟩
    exact fun _ => .inr rfl
  · refine .pair rfl rfl (.group (.inr (.inl rfl)) ?_) ?_
    · refine List.forall_mem_cons.mpr
        ⟨fun _ => .name (.inl rfl), List.forall_mem_cons.mpr ⟨fun _ => ?_, nofun⟩⟩
      refine .group (.inr (.inr rfl)) ?_
      exact List.forall_mem_cons.mpr ⟨fun _ => .name (.inl rfl), nofun⟩
    · refine List.forall_mem_cons.mpr
        ⟨fun _ => .inr rfl, List.forall_mem_cons.mpr ⟨?_, nofun⟩⟩
      exact fun _ => .inl rfl

theorem bound_pattern_nested :
    nestedPattern.Laid ∧ nestedPattern.Worded ∧ nestedPattern.IsPattern ∧
      nestedPattern.bound.map (·.start.byte) = [1, 14, 20] ∧
      ∀ d, d ∈ nestedPattern.bound ↔
        d ∈ nestedPattern.preorder ∧ d.IsWord ∧ ¬ nestedPattern.SetsAside d := by
  have hlaid : nestedPattern.Laid := by decide
  have hworded : nestedPattern.Worded := by decide
  refine ⟨hlaid, hworded, isPattern_nestedPattern, by decide, ?_⟩
  exact ((bound_pattern nestedPattern).2.2 hlaid hworded).2.2 isPattern_nestedPattern

end Node

end ScriptLint.Script
