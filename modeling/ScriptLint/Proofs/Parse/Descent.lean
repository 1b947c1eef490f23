import ScriptLint.Proofs.Parse.Stack

namespace ScriptLint.Parse

open ScriptLint.Parse.Parser

/-! What is left when trees are taken off a stack: a reading for every node that a way down
has led to, and on each way the trees between its place and where the way has begun. -/

variable {c : Context} {s s' : Session} {i m n v q size : Nat} {path : Path}
  {slice : Slice} {slices : Array Slice} {paths : Array Path} {trees : List Subtree}
  {l : Link} {keepTrees : Bool}

/-- The reading at `m` goes on, and the trees of the slice have stood on it, up to `q`. -/
def Parser.Slice.StandsAt (s : Session) (m q : Nat) (slice : Slice) : Prop :=
  ∃ r, s.stance? m = some r ∧ r.status = .active ∧ r.node < s.nodes.size ∧
    ∀ trees ∈ slice.trees :: slice.others, Row (s.place r.node) trees q

/-- New readings behind the old ones, one for each slice. -/
structure Session.Pops (q : Nat) (slices : Array Slice) (s s' : Session) : Prop where
  nodes : s'.nodes = s.nodes
  kept : ∀ w < s.heads.size, s'.stance? w = s.stance? w
  size : s'.heads.size = s.heads.size + slices.size
  head : ∀ i (h : i < slices.size), slices[i].head = s.heads.size + i
  stands : ∀ i (h : i < slices.size), slices[i].StandsAt s' (s.heads.size + i) q

/-- A way down from `q` leads to a node. -/
structure Parser.Path.Leads (s : Session) (q : Nat) (path : Path) : Prop where
  on : path.node < s.nodes.size
  row : Row (s.place path.node) path.trees q

theorem Session.Pops.keeps (h : s.Pops q slices s') : s.Keeps (· < s.heads.size) s' :=
  ⟨.of_nodes_eq h.nodes, h.kept⟩

theorem Parser.Path.Leads.along (h : path.Leads s q) (hl : l.Sound s (s.place path.node)) :
    (path.along keepTrees l).Leads s q := by
  have hpass : Row (s.place l.node) path.trees q := h.row.mono hl.row.le (Nat.le_refl q)
  unfold Path.along
  obtain ⟨below, tree⟩ := l
  cases tree with
  | none => exact ⟨hl.on, hpass⟩
  | some t =>
      refine ⟨hl.on, ?_⟩
      dsimp only
      split
      · exact hl.row.append h.row
      · exact hpass

theorem Parser.Path.Leads.congr (h : path.Leads s q) (hnodes : s'.nodes = s.nodes) :
    path.Leads s' q := by
  obtain ⟨hto, hrow⟩ := h
  unfold Session.place at hrow
  rw [← hnodes] at hto hrow
  exact ⟨hto, hrow⟩

theorem Parser.leads_spread {links : Array Link} (hpaths : ∀ p ∈ paths, p.Leads s q)
    (hpath : paths[i]!.Leads s q)
    (hlinks : ∀ l ∈ links, l.Sound s (s.place paths[i]!.node))
    (hsome : links.isEmpty = false) {p : Path} (hp : p ∈ spread paths i keepTrees links) :
    p.Leads s q := by
  have hfirst : links[0]! ∈ links := by
    rw [getElem!_pos links 0 (Nat.pos_of_ne_zero fun h => by simp_all)]
    exact Array.getElem_mem _
  obtain hp | rfl := Array.mem_or_eq_of_mem_setIfInBounds hp
  · rw [← Array.mem_toList_iff, Array.toList_appendList, List.mem_append] at hp
    obtain hp | hp := hp
    · exact hpaths p (Array.mem_toList_iff.mp hp)
    · obtain ⟨l, hl, rfl⟩ := List.mem_map.mp hp
      exact hpath.along (hlinks l (Array.mem_toList_iff.mp
        (List.mem_of_mem_drop (List.mem_of_mem_take hl))))
  · exact hpath.along (hlinks _ hfirst)

theorem Parser.Slice.StandsAt.add (h : slice.StandsAt s m q) (hn : s.heads[m]!.node = n)
    (hrow : Row (s.place n) trees q) :
    ({ slice with others := slice.others ++ [trees] } : Slice).StandsAt s m q := by
  obtain ⟨r, hr, hactive, hlt, htrees⟩ := h
  have hnode : r.node = n := (congrArg Stance.node (Session.stance_of hr)).symm.trans hn
  refine ⟨r, hr, hactive, hlt, ?_⟩
  rw [← List.cons_append]
  exact List.forall_mem_append.mpr ⟨htrees, List.forall_mem_singleton.mpr (hnode ▸ hrow)⟩

theorem Parser.Slice.StandsAt.keeps {P : Nat → Prop} (h : slice.StandsAt s m q)
    (hkeeps : s.Keeps P s') (hm : P m) : slice.StandsAt s' m q := by
  obtain ⟨r, hr, hactive, hlt, htrees⟩ := h
  have hlt' := Nat.lt_of_lt_of_le hlt hkeeps.size
  refine ⟨r, (hkeeps.stance m hm).trans hr, hactive, hlt', ?_⟩
  rw [hkeeps.place r.node hlt]
  exact htrees

namespace Session.Pops

variable {s₀ : Session}

/-- The trees of a further way to a node. -/
theorem modify (h : s₀.Pops q slices s)
    (hn : s.heads[s₀.heads.size + i]!.node = n) (hrow : Row (s.place n) trees q) :
    s₀.Pops q (slices.modify i fun x => { x with others := x.others ++ [trees] }) s where
  nodes := h.nodes
  kept := h.kept
  size := by rw [Array.size_modify, h.size]
  head j hj := by
    rw [Array.size_modify] at hj
    rw [Array.getElem_modify]
    split
    · exact h.head j hj
    · exact h.head j hj
  stands j hj := by
    rw [Array.size_modify] at hj
    rw [Array.getElem_modify]
    split
    · rename_i hij
      subst hij
      exact (h.stands i hj).add hn hrow
    · exact h.stands j hj

/-- The trees of the first way to a node, under a new reading. -/
theorem push (h : s₀.Pops q slices s) (hkeeps : s.Keeps (· < s.heads.size) s')
    (hnodes : s'.nodes = s.nodes) (hsize : s'.heads.size = s.heads.size + 1)
    (hnew : s'.stance? s.heads.size = some ⟨n, .active, none⟩) (hn : n < s'.nodes.size)
    (hrow : Row (s'.place n) trees q) :
    s₀.Pops q (slices.push ⟨s.heads.size, trees, []⟩) s' where
  nodes := hnodes.trans h.nodes
  kept w hw := by
    have hlt : w < s.heads.size := by rw [h.size]; omega
    exact (hkeeps.stance w hlt).trans (h.kept w hw)
  size := by rw [hsize, h.size, Array.size_push, Nat.add_assoc]
  head j hj := by
    rw [Array.getElem_push]
    split
    · exact h.head j _
    · rw [Array.size_push] at hj
      rw [h.size]
      dsimp only
      omega
  stands j hj := by
    rw [Array.getElem_push]
    split
    · rename_i hlt
      exact (h.stands j hlt).keeps hkeeps (by rw [h.size]; omega)
    · rw [Array.size_push] at hj
      have hj : s₀.heads.size + j = s.heads.size := by rw [h.size]; omega
      rw [hj]
      exact ⟨_, hnew, rfl, hn, List.forall_mem_singleton.mpr hrow⟩

end Session.Pops

/-- The trees of a way are filed under the reading at its node, an old one or a new one. -/
theorem Parser.ends_addSlice {s₀ : Session} (hs : s.Sound size)
    (hpops : s₀.Pops q slices s) (hn : n < s.nodes.size) (hrow : Row (s.place n) trees q) :
    Ends c s (addSlice v n trees slices) fun slices' s' =>
      s'.Sound size ∧ s₀.Pops q slices' s' := by
  unfold addSlice
  rw [ends_bind, ends_get]
  dsimp only
  split
  · rename_i i hi
    obtain ⟨hlt, hnode, -⟩ := Array.findIdx?_eq_some_iff_getElem.mp hi
    rw [decide_eq_true_eq, hpops.head i hlt] at hnode
    exact ⟨hs, hpops.modify hnode hrow⟩
  · obtain ⟨hs', hkeeps, hnew⟩ := hs.pushHead
      (x := ⟨n, s.heads[v]!.countAtError, .active, none, none⟩)
      ⟨hn, fun hpaused => Status.noConfusion hpaused⟩
    exact ⟨hs', hpops.push hkeeps rfl (Array.size_push _) hnew hn hrow⟩

/-- The state of a descent from `q`. -/
structure Parser.Descent.Sound {σ : Type} (s₀ s : Session) (size q : Nat) (d : Descent σ) :
    Prop where
  sound : s.Sound size
  pops : s₀.Pops q d.slices s
  paths : ∀ p ∈ d.paths, p.Leads s q

theorem Parser.Descent.Sound.leads {σ : Type} {s₀ : Session} {d : Descent σ}
    (h : d.Sound s₀ s size q) (i : Nat) : d.paths[i]!.Leads s q := by
  by_cases hi : i < d.paths.size
  · rw [getElem!_pos d.paths i hi]
    exact h.paths _ (Array.getElem_mem hi)
  · rw [getElem!_neg d.paths i hi]
    refine ⟨h.sound.root, .nil ?_⟩
    exact h.sound.bottom ▸ Nat.zero_le q

theorem Parser.ends_descendOne {σ : Type} {s₀ : Session}
    {visit : σ → Path → StackNode → Visit × σ} {d : Descent σ} (h : d.Sound s₀ s size q) :
    Ends c s (descendOne v visit keepTrees i d) fun x s' => x.2.Sound s₀ s' size q := by
  have hpath := h.leads i
  unfold descendOne
  simp only [ends_bind, ends_nodeAt]
  generalize visit d.seen d.paths[i]! s.nodes[d.paths[i]!.node]! = answer
  have hgoOn : ∀ slices s', s'.Sound size → s₀.Pops q slices s' → Ends c s'
      (if (answer.1.stop || s.nodes[d.paths[i]!.node]!.links.isEmpty) = true then
        pure (i, (⟨slices, d.paths.eraseIdxIfInBounds i, answer.2⟩ : Descent σ))
      else
        pure (i + 1,
          ⟨slices, spread d.paths i keepTrees s.nodes[d.paths[i]!.node]!.links, answer.2⟩))
      fun x s' => x.2.Sound s₀ s' size q := by
    intro slices s' hs' hpops
    have hnodes : s'.nodes = s.nodes := hpops.nodes.trans h.pops.nodes.symm
    rw [ends_ite]
    split
    · exact ⟨hs', hpops, fun p hp =>
        (h.paths p (mem_of_mem_eraseIdxIfInBounds hp)).congr hnodes⟩
    · rename_i hlinks
      rw [Bool.or_eq_true, not_or, Bool.not_eq_true] at hlinks
      refine ⟨hs', hpops, fun p hp => (leads_spread h.paths hpath ?_ ?_ hp).congr hnodes⟩
      · exact h.sound.links _
      · exact Bool.eq_false_iff.mpr hlinks.2
  rw [ends_ite]
  split
  · rw [ends_bind]
    exact (ends_addSlice h.sound h.pops hpath.on hpath.row).mono fun slices s' h' =>
      hgoOn slices s' h'.1 h'.2
  · exact hgoOn d.slices s h.sound h.pops

theorem Parser.ends_descend {σ : Type} {start : σ}
    {visit : σ → Path → StackNode → Visit × σ} (hs : s.Sound size) :
    Ends c s (descend v start visit keepTrees) fun x s' =>
      s'.Sound size ∧ s.Pops (s.reached v) x.1 s' := by
  unfold descend
  simp only [ends_bind, ends_head, ends_get]
  refine Ends.forIn_range (fun (d : Descent σ) s' => d.Sound s s' size (s.reached v)) ?_ ?_
    fun d s' h => ⟨h.sound, h.pops⟩
  · refine ⟨hs, ⟨rfl, fun _ _ => rfl, rfl, nofun, nofun⟩, fun p hp => ?_⟩
    obtain rfl := Array.mem_singleton.mp hp
    exact ⟨hs.on v, .nil (Nat.le_refl _)⟩
  · intro _ _ d s' h
    rw [ends_ite]
    split
    · exact ⟨h.sound, h.pops⟩
    · refine Ends.bind (Ends.forIn_range
        (fun x s' => x.1.Sound s s' size (s.reached v)) h ?_ fun _ _ h => h) fun _ _ h => h
      intro _ _ x s' h
      exact (ends_descendOne h).bind fun _ _ h => h

theorem Parser.ends_popCount (hs : s.Sound size) :
    Ends c s (popCount v n) fun slices s' =>
      s'.Sound size ∧ s.Pops (s.reached v) slices s' :=
  (ends_descend hs).bind fun _ _ h => h

theorem Parser.ends_popAll (hs : s.Sound size) :
    Ends c s (popAll v) fun slices s' =>
      s'.Sound size ∧ s.Pops (s.reached v) slices s' :=
  (ends_descend hs).bind fun _ _ h => h

theorem Parser.ends_popError (hs : s.Sound size) :
    Ends c s (popError v) fun slices s' =>
      s'.Sound size ∧ s.Pops (s.reached v) slices s' := by
  unfold popError
  rw [ends_bind, ends_top, ends_ite]
  split
  · exact ⟨hs, rfl, fun _ _ => rfl, rfl, nofun, nofun⟩
  · exact (ends_descend hs).bind fun _ _ h => h

theorem Parser.ends_landmarks (hs : s.Sound size) :
    Ends c s (landmarks v) fun _ s' => s'.Sound size ∧ s.Keeps (· < s.heads.size) s' :=
  (ends_descend hs).bind fun _ _ h => ⟨h.1, h.2.keeps⟩

end ScriptLint.Parse
