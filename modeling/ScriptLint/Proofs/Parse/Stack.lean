import ScriptLint.Proofs.Parse.Session

namespace ScriptLint.Parse

open ScriptLint.Parse.Parser

/-! What one action on the stacks does to a session. -/

variable {c : Context} {s s' s'' : Session} {P : Nat → Prop}
  {i j n v w p q size state : Nat} {r : Stance} {l : Link} {x : StackNode}
  {tree : Option Subtree} {f : Head → Head} {g : StackNode → StackNode}

theorem ends_addNode {R : Nat → Session → Prop} :
    Ends c s (addNode x) R ↔ R s.nodes.size { s with nodes := s.nodes.push x } := Iff.rfl

theorem ends_modifyHead {R : Unit → Session → Prop} :
    Ends c s (modifyHead v f) R ↔ R () { s with heads := s.heads.modify v f } := Iff.rfl

theorem ends_removeHead {R : Unit → Session → Prop} :
    Ends c s (removeHead v) R ↔ R () { s with heads := s.heads.eraseIdxIfInBounds v } :=
  Iff.rfl

namespace Session

theorem Grows.of_nodes_eq (h : s'.nodes = s.nodes) : s.Grows s' where
  size := Nat.le_of_eq (by rw [h])
  place n _ := by rw [Session.place, h, Session.place]

/-- Readings that stand where readings may stand leave a session sound. -/
theorem Sound.heads_of (hs : s.Sound size) (hnodes : s'.nodes = s.nodes)
    (hfinished : s'.finished = s.finished)
    (hheads : ∀ v r, s'.stance? v = some r → r.Sound size s) : s'.Sound size := by
  have hgrows : s.Grows s' := .of_nodes_eq hnodes
  have hplace : ∀ n, s'.place n = s.place n := fun n => by
    rw [place, hnodes, place]
  refine ⟨hnodes ▸ hs.root, (hplace 0).trans hs.bottom, fun n => ?_, fun n l hl => ?_,
    fun v r hr => (hheads v r hr).grow hgrows, hfinished ▸ hs.finished⟩
  · rw [hplace]
    exact hs.within n
  · rw [hnodes] at hl
    rw [hplace]
    exact (hs.links n l hl).grow hgrows

theorem stance?_modify :
    ({ s with heads := s.heads.modify v f } : Session).stance? w =
      if v = w then s.heads[v]?.map (Head.stance ∘ f) else s.stance? w := by
  unfold stance?
  grind [Option.map_map]

theorem place_push :
    ({ s with nodes := s.nodes.push x } : Session).place n =
      if n = s.nodes.size then x.position else s.place n := by
  unfold place
  grind

theorem grows_push : s.Grows { s with nodes := s.nodes.push x } where
  size := by
    rw [Array.size_push]
    exact Nat.le_succ _
  place n hn := by rw [place_push, if_neg (Nat.ne_of_lt hn)]

/-- A node whose ways down are right may be added. -/
theorem Sound.push (hs : s.Sound size) (hx : x.position ≤ size)
    (hlinks : ∀ l ∈ x.links, l.Sound s x.position) :
    ({ s with nodes := s.nodes.push x } : Session).Sound size where
  root := by
    rw [Array.size_push]
    exact Nat.succ_pos _
  bottom := by rw [place_push, if_neg (Nat.ne_of_lt hs.root), hs.bottom]
  within n := by
    rw [place_push]
    split
    · exact hx
    · exact hs.within n
  links n l hl := by
    rw [place_push]
    by_cases hn : n = s.nodes.size
    · rw [if_pos hn]
      exact (hlinks l (by grind)).grow grows_push
    · rw [if_neg hn]
      exact (hs.links n l (by grind)).grow grows_push
  heads v r hr := (hs.heads v r hr).grow grows_push
  finished := hs.finished

theorem place_modify (hg : ∀ x, (g x).position = x.position) :
    ({ s with nodes := s.nodes.modify n g } : Session).place i = s.place i := by
  unfold place
  grind

theorem grows_modify (hg : ∀ x, (g x).position = x.position) :
    s.Grows { s with nodes := s.nodes.modify n g } where
  size := Nat.le_of_eq Array.size_modify.symm
  place _ _ := place_modify hg

/-- A node may get other ways down, as long as these are right. -/
theorem Sound.modify (hs : s.Sound size) (hg : ∀ x, (g x).position = x.position)
    (hlinks : ∀ l ∈ (g s.nodes[n]!).links, l.Sound s (s.place n)) :
    ({ s with nodes := s.nodes.modify n g } : Session).Sound size where
  root := by
    rw [Array.size_modify]
    exact hs.root
  bottom := by rw [place_modify hg, hs.bottom]
  within i := by
    rw [place_modify hg]
    exact hs.within i
  links i l hl := by
    rw [place_modify hg]
    by_cases hi : n = i ∧ i < s.nodes.size
    · obtain ⟨rfl, hlt⟩ := hi
      exact (hlinks l (by grind)).grow (grows_modify hg)
    · exact (hs.links i l (by grind)).grow (grows_modify hg)
  heads v r hr := (hs.heads v r hr).grow (grows_modify hg)
  finished := hs.finished

end Session

open Session

theorem Row.placeBehind (h : Row p tree.toList q)
    (hhollow : ∀ t ∈ tree, t.facts.hollow → t.facts.stop ≤ p) :
    Row p tree.toList (placeBehind p tree) ∧ placeBehind p tree ≤ q := by
  cases tree with
  | none => exact ⟨.nil (Nat.le_refl p), h.le⟩
  | some t =>
      obtain ⟨hstart, ht, hstop⟩ := Row.singleton_iff.mp h
      unfold Parser.placeBehind
      dsimp only
      split
      · rename_i hh
        exact ⟨.singleton hstart ht (hhollow t rfl hh), h.le⟩
      · exact ⟨.singleton hstart ht (Nat.le_refl _), hstop⟩

/-- A reading may be put on a new node. -/
theorem Session.sound_stand (hs : s.Sound size) (hr : s.stance? v = some r)
    (hx : x.position ≤ q) (hq : q ≤ size) (hlinks : ∀ l ∈ x.links, l.Sound s x.position)
    (hf : ∀ h, (f h).stance = { h.stance with node := s.nodes.size })
    (hfree : r.status = .active ∨ q ≤ s.place r.node) (hs' : s' = { s with
      nodes := s.nodes.push x
      heads := s.heads.modify v f }) :
    s'.Sound size ∧ s.Keeps (· ≠ v) s' ∧
      ∃ n, s'.stance? v = some { r with node := n } ∧ n < s'.nodes.size ∧
        s'.place n ≤ q := by
  have hpush := hs.push (Nat.le_trans hx hq) hlinks
  have hplace : ({ s with nodes := s.nodes.push x } : Session).place s.nodes.size =
      x.position := place_push.trans (if_pos rfl)
  have hsize : s.nodes.size < (s.nodes.push x).size := by
    rw [Array.size_push]
    exact Nat.lt_succ_self _
  have hv : s'.stance? v = some { r with node := s.nodes.size } := by
    obtain ⟨h, hh, rfl⟩ := Option.map_eq_some_iff.mp hr
    rw [hs']
    refine stance?_modify.trans ?_
    rw [if_pos rfl, hh]
    exact congrArg some (hf h)
  have hothers : ∀ w, w ≠ v → s'.stance? w = s.stance? w := by
    intro w hw
    rw [hs']
    exact stance?_modify.trans (if_neg (Ne.symm hw))
  subst hs'
  refine ⟨hpush.heads_of rfl rfl fun w r' hr' => ?_,
    ⟨⟨grows_push.size, grows_push.place⟩, hothers⟩, s.nodes.size, hv, hsize,
    Nat.le_trans (Nat.le_of_eq hplace) hx⟩
  by_cases hw : w = v
  · obtain rfl : { r with node := s.nodes.size } = r' :=
      Option.some.inj (hv.symm.trans (hw ▸ hr'))
    refine ⟨hsize, fun hpaused t ht => ?_⟩
    obtain hactive | hle := hfree
    · exact absurd (hactive.symm.trans hpaused) nofun
    · exact ((hs.heads v r hr).waits hpaused t ht).mono
        (Nat.le_trans (Nat.le_of_eq hplace) (Nat.le_trans hx hle))
  · exact (hs.heads w r' ((hothers w hw).symm.trans hr')).grow grows_push

/-- A tree is put on a reading behind what it has read; no other reading changes. -/
theorem ends_push (hs : s.Sound size) (hr : s.stance? v = some r)
    (hrow : Row (s.place r.node) tree.toList q) (hq : q ≤ size)
    (hhollow : ∀ t ∈ tree, t.facts.hollow → t.facts.stop ≤ s.place r.node)
    (hfree : r.status = .active ∨ q ≤ s.place r.node) :
    Ends c s (push v tree state) fun _ s' =>
      s'.Sound size ∧ s.Keeps (· ≠ v) s' ∧
        ∃ n, s'.stance? v = some { r with node := n } ∧ n < s'.nodes.size ∧
          s'.place n ≤ q := by
  have hv : s.heads[v]!.node = r.node := congrArg Stance.node (stance_of hr)
  obtain ⟨hbehind, hle⟩ := hrow.placeBehind hhollow
  unfold push
  simp only [ends_bind, ends_head, ends_nodeAt, ends_addNode, ends_modifyHead]
  rw [hv]
  refine sound_stand hs hr hle hq (fun l hl => ?_) (fun _ => rfl) hfree rfl
  obtain rfl := Array.mem_singleton.mp hl
  exact ⟨(hs.heads v r hr).on, hbehind⟩

theorem Session.sound_relink (hs : s.Sound size) (hg : ∀ x, (g x).position = x.position)
    (hlinks : ∀ l ∈ (g s.nodes[n]!).links, l.Sound s (s.place n)) :
    ({ s with nodes := s.nodes.modify n g } : Session).Sound size ∧
      s.KeepsAll { s with nodes := s.nodes.modify n g } :=
  ⟨hs.modify hg hlinks, grows_modify hg, fun _ _ => rfl⟩

theorem StackNode.position_eq {m : StackNode} (h : m.agrees x) :
    m.position = x.position := by
  simp only [agrees, Bool.and_eq_true, decide_eq_true_eq] at h
  exact h.1.2

/-- Links that are right on one node are right on any node of the same place. -/
theorem ends_forIn_links {ls : Array Link} {m : Link → Parser Unit} (hs : s.Sound size)
    (hself : n < s.nodes.size) (hls : ∀ l ∈ ls, l.Sound s (s.place n))
    (hm : ∀ s l, s.Sound size → n < s.nodes.size → l.Sound s (s.place n) →
      Ends c s (m l) fun _ s' => s'.Sound size ∧ s.KeepsAll s') :
    Ends c s (forIn ls PUnit.unit fun l _ => m l >>= fun _ => pure (.yield PUnit.unit))
      fun _ s' => s'.Sound size ∧ s.KeepsAll s' := by
  refine Ends.forIn_array
    (fun rest _ s' => (∀ l ∈ rest, l ∈ ls) ∧ s'.Sound size ∧ s.KeepsAll s')
    ⟨fun l hl => Array.mem_toList_iff.mp hl, hs, .rfl⟩ ?_ fun _ s' h => h.2
  intro l rest _ s' h
  obtain ⟨hmem, hs', hkeeps⟩ := h
  obtain ⟨hl, hrest⟩ := List.forall_mem_cons.mp hmem
  have hright : l.Sound s' (s'.place n) := by
    rw [hkeeps.place n hself]
    exact (hls l hl).grow hkeeps.toGrows
  have hself' := Nat.lt_of_lt_of_le hself hkeeps.size
  refine (hm s' l hs' hself' hright).bind fun _ s'' h'' => ?_
  exact ⟨hrest, h''.1, hkeeps.trans h''.2⟩

/-- Another way down to a node; the readings stay as they are. -/
theorem ends_addLink {fuel self : Nat} (hs : s.Sound size) (hself : self < s.nodes.size)
    (hl : l.Sound s (s.place self)) :
    Ends c s (addLink fuel self l) fun _ s' => s'.Sound size ∧ s.KeepsAll s' := by
  induction fuel generalizing s self l with
  | zero => exact ⟨hs, .rfl⟩
  | succ fuel ih =>
      rw [addLink]
      simp only [ends_bind, ends_read, ends_get, ends_ite, ends_pure]
      split
      · exact ⟨hs, .rfl⟩
      split
      · rename_i i hi
        obtain ⟨hlt, halike, -⟩ := Array.findIdx?_eq_some_iff_getElem.mp hi
        have hold := hs.links self _ (Array.getElem_mem hlt)
        rw [getElem!_pos s.nodes[self]!.links i hlt]
        generalize s.nodes[self]!.links[i] = old at halike hold
        rw [ends_ite]
        split
        · rename_i hnode
          rw [ends_ite]
          split
          · refine sound_relink hs (fun _ => rfl) fun l' hl' => ?_
            obtain hl' | rfl := Array.mem_or_eq_of_mem_setIfInBounds hl'
            · exact hs.links self l' hl'
            · rw [hnode]
              exact hl
          · exact ⟨hs, .rfl⟩
        · rename_i hnode
          have hplace : s.place old.node = s.place l.node := by
            rw [Bool.and_eq_true, Bool.or_eq_true, decide_eq_true_eq] at halike
            exact StackNode.position_eq (halike.2.resolve_left hnode)
          rw [ends_bind]
          refine (ends_forIn_links hs hold.on (fun l' hl' => ?_) fun s l hs hlt hl =>
            ih hs hlt hl).mono fun _ s' h' => ?_
          · rw [hplace]
            exact hs.links l.node l' hl'
          · obtain ⟨hs', hkeeps⟩ := h'
            obtain ⟨hs'', hkeeps'⟩ := sound_relink (n := self)
              (g := fun n => { n with weight := max n.weight _ }) hs' (fun _ => rfl)
              (hs'.links self)
            exact ⟨hs'', hkeeps.trans hkeeps'⟩
      · rw [ends_ite]
        split
        · refine sound_relink hs (fun _ => rfl) fun l' hl' => ?_
          obtain hl' | rfl := Array.mem_push.mp hl'
          · exact hs.links self l' hl'
          · exact hl
        · exact ⟨hs, .rfl⟩

theorem mem_of_mem_eraseIdxIfInBounds {α : Type} {xs : Array α} {x : α}
    (h : x ∈ xs.eraseIdxIfInBounds i) : x ∈ xs := by
  rw [← Array.mem_toList_iff, Array.toList_eraseIdxIfInBounds] at h
  exact Array.mem_toList_iff.mp (List.mem_of_mem_eraseIdx h)

namespace Session

theorem Sound.on (hs : s.Sound size) (v : Nat) : s.heads[v]!.node < s.nodes.size := by
  by_cases hv : v < s.heads.size
  · have hstance := congrArg (Option.map Head.stance) (Array.getElem?_eq_getElem hv)
    rw [getElem!_pos s.heads v hv]
    exact (hs.heads v _ hstance).on
  · rw [getElem!_neg s.heads v hv]
    exact hs.root

/-- A reading may be changed in what does not decide how it goes on. -/
theorem Sound.annotate (hs : s.Sound size) (hf : ∀ h, (f h).stance = h.stance) :
    ({ s with heads := s.heads.modify v f } : Session).Sound size ∧
      s.KeepsAll { s with heads := s.heads.modify v f } := by
  have hcomp : Head.stance ∘ f = Head.stance := funext hf
  have hstance : ∀ w, ({ s with heads := s.heads.modify v f } : Session).stance? w =
      s.stance? w := by
    intro w
    rw [stance?_modify]
    split
    · rename_i hw
      rw [stance?, ← hw, hcomp]
    · rfl
  exact ⟨hs.heads_of rfl rfl fun w r hr => hs.heads w r ((hstance w).symm.trans hr),
    ⟨.of_nodes_eq rfl, fun w _ => hstance w⟩⟩

theorem Sound.select (hs : s.Sound size) {heads : Array Head}
    (h : ∀ x ∈ heads, x ∈ s.heads) : ({ s with heads } : Session).Sound size := by
  refine hs.heads_of rfl rfl fun w r hr => ?_
  obtain ⟨x, hx, rfl⟩ := Option.map_eq_some_iff.mp hr
  obtain ⟨u, hu⟩ := Array.mem_iff_getElem?.mp (h x (Array.mem_of_getElem? hx))
  exact hs.heads u x.stance (congrArg (Option.map Head.stance) hu)

theorem Sound.removeHead (hs : s.Sound size) :
    ({ s with heads := s.heads.eraseIdxIfInBounds v } : Session).Sound size :=
  hs.select fun _ hx => mem_of_mem_eraseIdxIfInBounds hx

theorem drops_removeHead :
    s.Drops v { s with heads := s.heads.eraseIdxIfInBounds v } where
  toGrows := .of_nodes_eq rfl
  before w hw := by
    unfold stance?
    grind
  behind w hw := by
    unfold stance?
    grind

theorem KeepsAll.drops (h : s.KeepsAll s') (h' : s'.Drops v s'') : s.Drops v s'' where
  toGrows := h.toGrows.trans h'.toGrows
  before w hw := (h'.before w hw).trans (h.stance w trivial)
  behind w hw := (h'.behind w hw).trans (h.stance (w + 1) trivial)

end Session

/-- A reading that agrees with another one is joined to it, or nothing is done. -/
theorem ends_merge (hs : s.Sound size) :
    Ends c s (merge i j) fun merged s' =>
      s'.Sound size ∧ (merged = true → s.Drops j s') ∧ (merged = false → s' = s) := by
  unfold merge
  rw [ends_bind, ends_get, ends_ite]
  split
  · exact ⟨hs, nofun, fun _ => rfl⟩
  · rename_i hmerge
    rw [Bool.not_eq_true', Bool.not_eq_false, canMerge, Bool.and_eq_true] at hmerge
    have hplace : s.place s.heads[i]!.node = s.place s.heads[j]!.node :=
      StackNode.position_eq hmerge.2
    simp only [ends_bind, ends_head, ends_top, ends_get]
    refine (ends_forIn_links hs (hs.on i) (fun l hl => ?_) fun s l hs hlt hl =>
      ends_addLink hs hlt hl).mono fun _ s₁ h₁ => ?_
    · rw [hplace]
      exact hs.links s.heads[j]!.node l hl
    · obtain ⟨hs₁, hkeeps⟩ := h₁
      have hdrop : ∀ s₂ : Session, s₂.Sound size → s.KeepsAll s₂ →
          Ends c s₂ (removeHead j >>= fun _ => pure true) fun merged s' => s'.Sound size ∧
            (merged = true → s.Drops j s') ∧ (merged = false → s' = s) := by
        intro s₂ hs₂ hkeeps
        exact ⟨hs₂.removeHead, fun _ => hkeeps.drops drops_removeHead, nofun⟩
      rw [ends_nodeAt, ends_ite]
      split
      · obtain ⟨hs₂, hkeeps₂⟩ := hs₁.annotate (v := i)
          (f := fun h => { h with countAtError := s₁.nodes[s.heads[i]!.node]!.count })
          fun _ => rfl
        exact hdrop _ hs₂ (hkeeps.trans hkeeps₂)
      · exact hdrop s₁ hs₁ hkeeps

/-! ### Readings put in another order -/

namespace Session

theorem Sound.pushHead {x : Head} (hs : s.Sound size) (hx : x.stance.Sound size s) :
    ({ s with heads := s.heads.push x } : Session).Sound size ∧
      s.Keeps (· < s.heads.size) { s with heads := s.heads.push x } ∧
      ({ s with heads := s.heads.push x } : Session).stance? s.heads.size =
        some x.stance := by
  have hstance : ∀ w, ({ s with heads := s.heads.push x } : Session).stance? w =
      if w = s.heads.size then some x.stance else s.stance? w := by
    intro w
    unfold stance?
    grind
  refine ⟨hs.heads_of rfl rfl fun w r hw => ?_, ⟨.of_nodes_eq rfl, fun w hw => ?_⟩,
    (hstance s.heads.size).trans (if_pos rfl)⟩
  · rw [hstance] at hw
    split at hw
    · exact Option.some.inj hw ▸ hx
    · exact hs.heads w r hw
  · exact (hstance w).trans (if_neg (Nat.ne_of_lt hw))

theorem Sound.restance (hs : s.Sound size)
    (hf : ∀ h : Head, s.stance? v = some h.stance → (f h).stance.Sound size s) :
    ({ s with heads := s.heads.modify v f } : Session).Sound size ∧
      s.Keeps (· ≠ v) { s with heads := s.heads.modify v f } := by
  have hothers : ∀ w, w ≠ v →
      ({ s with heads := s.heads.modify v f } : Session).stance? w = s.stance? w :=
    fun w hw => stance?_modify.trans (if_neg (Ne.symm hw))
  refine ⟨hs.heads_of rfl rfl fun w r hr => ?_, ⟨.of_nodes_eq rfl, hothers⟩⟩
  by_cases hw : w = v
  · rw [stance?_modify, if_pos hw.symm] at hr
    obtain ⟨x, hx, rfl⟩ := Option.map_eq_some_iff.mp hr
    exact hf x (congrArg (Option.map Head.stance) hx)
  · exact hs.heads w r ((hothers w hw).symm.trans hr)

/-- A reading may be moved to the place of an earlier one. -/
theorem Sound.overwrite {new : Head} (hs : s.Sound size) (hj : j < i)
    (hnew : some new.stance = s.stance? i) (hs' : s' = { s with
      heads := (s.heads.set! j new).eraseIdxIfInBounds i }) :
    s'.Sound size ∧ s.Keeps (fun w => w < i ∧ w ≠ j) s' ∧ s'.stance? j = s.stance? i := by
  have hi : i < s.heads.size := stance?_isSome.mp (by rw [← hnew]; rfl)
  have hstance : ∀ w, s'.stance? w =
      if w < i then if w = j then some new.stance else s.stance? w
      else s.stance? (w + 1) := by
    intro w
    rw [hs']
    unfold stance?
    grind
  have hnodes : s'.nodes = s.nodes := by rw [hs']
  have hfinished : s'.finished = s.finished := by rw [hs']
  refine ⟨hs.heads_of hnodes hfinished fun w r hw => ?_,
    ⟨.of_nodes_eq hnodes, fun w hw => ?_⟩, ?_⟩
  · rw [hstance] at hw
    split at hw
    · split at hw
      · exact hs.heads i r (hnew.symm.trans hw)
      · exact hs.heads w r hw
    · exact hs.heads (w + 1) r hw
  · rw [hstance, if_pos hw.1, if_neg hw.2]
  · rw [hstance, if_pos hj, if_pos rfl, hnew]

end Session

theorem ends_replaceHead (hs : s.Sound size) (hi : i < s.heads.size) (hj : j < i) :
    Ends c s (replaceHead i j) fun _ s' => s'.Sound size ∧
      s.Keeps (fun w => w < i ∧ w ≠ j) s' ∧ s'.stance? j = s.stance? i := by
  have hstance : some s.heads[i]!.stance = s.stance? i := by
    rw [getElem!_pos s.heads i hi, stance?, Array.getElem?_eq_getElem hi, Option.map_some]
  unfold replaceHead
  rw [ends_ite, if_neg (Nat.ne_of_gt hj)]
  simp only [ends_bind, ends_head]
  refine hs.overwrite hj ?_ rfl
  rw [← hstance]
  split <;> rfl

theorem sound_swapHeads (hs : s.Sound size) :
    ({ s with heads := s.heads.swapIfInBounds i j } : Session).Sound size := by
  refine hs.select fun x hx => ?_
  unfold Array.swapIfInBounds at hx
  split at hx
  · split at hx
    · exact (Array.swap_perm _ _).mem_iff.mp hx
    · exact hx
  · exact hx

theorem ends_copyHead (hs : s.Sound size) (hr : s.stance? v = some r) :
    Ends c s (copyHead v) fun copy s' =>
      copy = s.heads.size ∧ s'.Sound size ∧ s.Keeps (· < s.heads.size) s' ∧
        s'.stance? copy = some r := by
  have hnew : ({ s.heads[v]! with landmarks := none } : Head).stance = r := stance_of hr
  obtain ⟨hs', hkeeps, hcopy⟩ := hs.pushHead (x := { s.heads[v]! with landmarks := none })
    (hnew ▸ hs.heads v r hr)
  exact ⟨rfl, hs', hkeeps, hcopy.trans (congrArg some hnew)⟩

theorem ends_countSinceError (hs : s.Sound size) :
    Ends c s (countSinceError v) fun _ s' => s'.Sound size ∧ s.KeepsAll s' := by
  unfold countSinceError
  simp only [ends_bind, ends_head, ends_nodeAt]
  rw [ends_ite]
  split
  · exact hs.annotate fun _ => rfl
  · exact ⟨hs, .rfl⟩

end ScriptLint.Parse
