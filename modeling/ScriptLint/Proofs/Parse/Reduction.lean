import ScriptLint.Parse.Repair
import ScriptLint.Proofs.Parse.Descent

namespace ScriptLint.Parse

open ScriptLint.Grammar ScriptLint.Parse.Parser

/-! What reductions do to a session. -/

variable {c : Context} {s s' s₀ : Session} {j k low m n p q v spared state size : Nat}
  {t : Subtree} {ts : List Subtree} {slice : Slice} {lookahead : Option Nat}

/-- A tree that may be put on a node at `p`: if it is empty, it is at that place. -/
structure Subtree.Rests (p q : Nat) (t : Subtree) : Prop where
  row : Row p [t] q
  hollow : t.facts.hollow → t.facts.stop ≤ p

theorem Subtree.Fits.rests (h : t.Fits p q) : t.Rests p q :=
  ⟨h.row, fun hollow => absurd (h.solid.symm.trans hollow) nofun⟩

theorem Subtree.rests_branch {table : Table} {text : Input} {label : Label}
    {layout : Option Nat} (h : Row p ts q) :
    (branch table text label ts.toArray layout p).Rests p q := by
  refine ⟨h.branch (Nat.le_refl p) h.le, fun hhollow => ?_⟩
  obtain ⟨f, hbranch, -, hstop, hempty, -⟩ :=
    branch_eq table text label ts.toArray layout p
  rw [hbranch] at hhollow ⊢
  have hts : ts = [] := by
    have := hempty.symm.trans hhollow
    simpa using this
  rw [hts] at hstop
  exact Nat.le_of_eq hstop

theorem Subtree.Rests.withWeight (h : t.Rests p q) (w : Int) :
    (t.withWeight w).Rests p q := by
  obtain ⟨hstart, ht, hstop⟩ := Row.singleton_iff.mp h.row
  cases t
  exact ⟨.singleton hstart (ht.withWeight w) hstop, h.hollow⟩

theorem Subtree.extra_of_mem_splitTrailing (ht : t ∈ (splitTrailing ts).2) :
    t.facts.extra = true :=
  List.all_eq_true.mp List.all_takeWhile t (List.mem_reverse.mp ht)

/-- The tree that trees in a row make stands in their place, and the extras stay behind
it. -/
theorem Subtree.rests_complete {table : Table} {text : Input} {label : Label}
    {layout : Option Nat} {x : Subtree × List Subtree} (h : Row p ts q)
    (hx : x = complete table text label layout p ts) :
    x.1.Rests p x.1.facts.stop ∧ Row x.1.facts.stop x.2 q ∧
      ∀ t ∈ x.2, t.facts.extra = true := by
  subst hx
  have hrow : Row p ((complete table text label layout p ts).1 ::
      (complete table text label layout p ts).2) q := row_complete h
  rw [← splitTrailing_append ts] at h
  obtain ⟨r, hfront, -⟩ := h.exists_of_append
  cases hrow with
  | cons hstart ht hrest =>
      exact ⟨⟨.singleton hstart ht (Nat.le_refl _), (rests_branch hfront).hollow⟩, hrest,
        fun t => extra_of_mem_splitTrailing⟩

theorem Parser.Slice.best_mem (slice : Slice)
    (make : List Subtree → Subtree × List Subtree) :
    ∃ trees ∈ slice.trees :: slice.others, slice.best make = make trees := by
  unfold Slice.best
  refine List.foldlRecOn slice.others _
    (motive := fun best => ∃ trees ∈ slice.trees :: slice.others, best = make trees)
    ⟨slice.trees, List.mem_cons_self, rfl⟩ ?_
  intro best hbest trees htrees
  split
  · exact ⟨trees, List.mem_cons_of_mem _ htrees, rfl⟩
  · exact hbest

theorem Subtree.Rests.ends_push {r : Stance} (ht : t.Rests (s.place r.node) q)
    (hs : s.Sound size) (hr : s.stance? v = some r) (hq : q ≤ size)
    (hfree : r.status = .active ∨ q ≤ s.place r.node) :
    Ends c s (push v (some t) state) fun _ s' =>
      s'.Sound size ∧ s.Keeps (· ≠ v) s' ∧
        ∃ n, s'.stance? v = some { r with node := n } ∧ n < s'.nodes.size ∧
          s'.place n ≤ q := by
  have hrow : Row (s.place r.node) (some t).toList q := ht.row
  refine ScriptLint.Parse.ends_push hs hr hrow hq (fun u hu => ?_) hfree
  exact Option.mem_some.mp hu ▸ ht.hollow

theorem Session.Holds.ends_push (hv : s.Holds v p) (hs : s.Sound size)
    (ht : t.Rests (s.reached v) q) (hq : q ≤ size) :
    Ends c s (push v (some t) state) fun _ s' =>
      s'.Sound size ∧ s.Keeps (· ≠ v) s' ∧ s'.Holds v q := by
  obtain ⟨r, hr, hactive, -, -⟩ := hv
  rw [Session.reached_of hr] at ht
  refine (ht.ends_push hs hr hq (.inl hactive)).mono fun _ s' h => ?_
  obtain ⟨hs', hkeeps, n, hn, hlt, hle⟩ := h
  exact ⟨hs', hkeeps, _, hn, hactive, hlt, hle⟩

/-- Extras in a row, put on a reading one after the other. -/
theorem Session.Holds.ends_pushAll (hv : s.Holds v p) (hs : s.Sound size)
    (hrow : Row p ts q) (hextra : ∀ t ∈ ts, t.facts.extra = true) (hq : q ≤ size) :
    Ends c s (pushAll v ts state) fun _ s' =>
      s'.Sound size ∧ s.Keeps (· ≠ v) s' ∧ s'.Holds v q := by
  refine Ends.forM_list
    (fun rest s' => (∀ t ∈ rest, t.facts.extra = true) ∧ s'.Sound size ∧
      s.Keeps (· ≠ v) s' ∧ ∃ p, s'.Holds v p ∧ Row p rest q)
    ⟨hextra, hs, .rfl, p, hv, hrow⟩ ?_ ?_
  · intro t rest s' h
    obtain ⟨hextra, hs', hkeeps, p, hp, hrow⟩ := h
    obtain ⟨ht, hrest⟩ := List.forall_mem_cons.mp hextra
    cases hrow with
    | cons hstart hlaid hrow =>
        have hfits : t.Fits (s'.reached v) t.facts.stop := ⟨hlaid.solid ht,
          .singleton (Nat.le_trans hp.reached_le hstart) hlaid (Nat.le_refl _)⟩
        have hstop := Nat.le_trans hrow.le hq
        refine (hp.ends_push hs' hfits.rests hstop).mono fun _ s'' h => ?_
        exact ⟨hrest, h.1, hkeeps.trans h.2.1, _, h.2.2, hrow⟩
  · intro s' h
    obtain ⟨-, hs', hkeeps, p, hp, hrow⟩ := h
    exact ⟨hs', hkeeps, hp.mono hrow.le⟩

theorem Parser.ends_mergeDown (hs : s.Sound size) :
    Ends c s (mergeDown low v spared) fun merged s' =>
      s'.Sound size ∧ (merged = true → low < v ∧ s.Drops v s') ∧
        (merged = false → s' = s) := by
  unfold mergeDown
  rw [ends_bind]
  refine Ends.forIn_range (fun x s' => x.1 = none ∧ s' = s) ⟨rfl, rfl⟩ ?_ ?_
  · intro j hj x s' h
    obtain ⟨-, rfl⟩ := h
    rw [ends_ite]
    split
    · refine (ends_merge hs).bind fun merged s'' h => ?_
      obtain ⟨hs', hdrops, hsame⟩ := h
      rw [ends_ite]
      split
      · rename_i hmerged
        have hlt : low < v := Nat.lt_of_le_of_lt hj.1 hj.2.1
        exact ⟨hs', fun _ => ⟨hlt, hdrops hmerged⟩, nofun⟩
      · rename_i hmerged
        exact ⟨rfl, hsame (Bool.not_eq_true _ ▸ hmerged)⟩
    · exact ⟨rfl, rfl⟩
  · intro x s' h
    obtain ⟨found, _⟩ := x
    obtain ⟨rfl, rfl⟩ := h
    exact ⟨hs, nofun, fun _ => rfl⟩

/-- A reduction that has still to deal with the slices of `rest`, the first of which is at
`k`; `removed` of the readings before them have been taken out. -/
structure Session.Reducing (s₀ : Session) (q k removed : Nat) (rest : List Slice)
    (s : Session) : Prop where
  from_le : s₀.heads.size ≤ k
  keeps : s₀.Keeps (· < s₀.heads.size) s
  holds : s.AllHold s₀.heads.size q
  head : ∀ j (h : j < rest.length), rest[j].head = k + removed + j
  stands : ∀ j (h : j < rest.length), rest[j].StandsAt s (k + j) q

theorem Parser.Slice.StandsAt.holds (h : slice.StandsAt s m q) : s.Holds m q := by
  obtain ⟨r, hr, hactive, hlt, htrees⟩ := h
  exact ⟨r, hr, hactive, hlt, (htrees slice.trees List.mem_cons_self).le⟩

namespace Session.Reducing

variable {removed : Nat} {rest : List Slice}

theorem init {slices : Array Slice} (h : s₀.Pops q slices s) :
    s₀.Reducing q s₀.heads.size 0 slices.toList s where
  from_le := Nat.le_refl _
  keeps := h.keeps
  holds v hlow hv := by
    have hlt : v - s₀.heads.size < slices.size := by rw [h.size] at hv; omega
    have hstands := (h.stands _ hlt).holds
    rwa [Nat.add_sub_cancel' hlow] at hstands
  head j hj := h.head j hj
  stands j hj := h.stands j hj

theorem next (h : s₀.Reducing q k removed (slice :: rest) s) :
    slice.head - removed = k ∧ slice.StandsAt s k q ∧
      s₀.Reducing q (k + 1) removed rest s := by
  refine ⟨?_, h.stands 0 (Nat.succ_pos _), Nat.le_succ_of_le h.from_le, h.keeps, h.holds,
    fun j hj => ?_, fun j hj => ?_⟩
  · have hhead : slice.head = k + removed := h.head 0 (Nat.succ_pos _)
    omega
  · have hhead : rest[j].head = k + removed + (j + 1) :=
      h.head (j + 1) (Nat.succ_lt_succ hj)
    omega
  · have hstands : rest[j].StandsAt s (k + (j + 1)) q :=
      h.stands (j + 1) (Nat.succ_lt_succ hj)
    rwa [Nat.add_right_comm]

/-- The reading before those that are left gets some more trees. -/
theorem change (h : s₀.Reducing q (k + 1) removed rest s) (hk : s₀.heads.size ≤ k)
    (hkeeps : s.Keeps (· ≠ k) s') (hv : s'.Holds k q) :
    s₀.Reducing q (k + 1) removed rest s' where
  from_le := h.from_le
  keeps := h.keeps.trans (hkeeps.mono fun w hw => by omega)
  holds := h.holds.keeps hkeeps hv
  head := h.head
  stands j hj := (h.stands j hj).keeps hkeeps (by omega)

/-- The reading before those that are left is taken out. -/
theorem drop (h : s₀.Reducing q (k + 1) removed rest s) (hk : s₀.heads.size ≤ k)
    (hdrops : s.Drops k s') : s₀.Reducing q k (removed + 1) rest s' where
  from_le := hk
  keeps := h.keeps.trans (hdrops.keeps.mono fun w hw => Nat.lt_of_lt_of_le hw hk)
  holds := hdrops.holds h.holds
  head j hj := by rw [h.head j hj]; omega
  stands j hj := by
    obtain ⟨r, hr, hactive, hlt, htrees⟩ := h.stands j hj
    rw [Nat.add_right_comm] at hr
    refine ⟨r, (hdrops.behind (k + j) (Nat.le_add_right k j)).trans hr, hactive,
      Nat.lt_of_lt_of_le hlt hdrops.size, ?_⟩
    rw [hdrops.place r.node hlt]
    exact htrees

end Session.Reducing

theorem Parser.ends_reduce {symbol count layout : Nat} {weight : Int} (hs : s.Sound size) :
    Ends c s (reduce v symbol count weight layout) fun new s' =>
      s'.Sound size ∧ s.Keeps (· < s.heads.size) s' ∧
        ∀ r ∈ new, s.heads.size ≤ r ∧ s'.Holds r (s.reached v) := by
  unfold reduce
  simp only [ends_bind, ends_read, ends_headCount, ends_get]
  refine (ends_popCount hs).mono fun slices s₁ h₁ => ?_
  obtain ⟨hs₁, hpops⟩ := h₁
  refine Ends.forIn_array (fun rest removed s' => s'.Sound size ∧
    ∃ k, s.Reducing (s.reached v) k removed rest s') ⟨hs₁, _, .init hpops⟩ ?_ ?_
  · intro slice rest removed s₂ h
    obtain ⟨hs₂, k, hreducing⟩ := h
    obtain ⟨htarget, hstands, hrest⟩ := hreducing.next
    rw [htarget]
    rw [ends_ite]
    split
    · exact ⟨hs₂.removeHead, k, hrest.drop hreducing.from_le Session.drops_removeHead⟩
    · obtain ⟨r, hr, -, -, htrees⟩ := id hstands
      obtain ⟨trees, hmem, hbest⟩ := slice.best_mem
        (Subtree.complete c.table c.text (.symbol symbol) (some layout) (s₂.reached k))
      have hrow : Row (s₂.reached k) trees (s.reached v) :=
        Session.reached_of hr ▸ htrees trees hmem
      obtain ⟨hparent, hextras, hextra⟩ := Subtree.rests_complete hrow hbest
      have hq : s.reached v ≤ size := hs.within _
      simp only [ends_bind, ends_top]
      refine (hstands.holds.ends_push hs₂ (hparent.withWeight weight)
        (Nat.le_trans hextras.le hq)).mono fun _ s₃ h₃ => ?_
      refine (h₃.2.2.ends_pushAll h₃.1 hextras hextra hq).mono fun _ s₄ h₄ => ?_
      have hchange := hrest.change hreducing.from_le (h₃.2.1.trans h₄.2.1) h₄.2.2
      refine (ends_mergeDown h₄.1).mono fun merged s₅ h₅ => ?_
      obtain ⟨hs₅, hdrops, hsame⟩ := h₅
      rw [ends_ite]
      split
      · rename_i hmerged
        exact ⟨hs₅, k, hchange.drop hreducing.from_le (hdrops hmerged).2⟩
      · rename_i hmerged
        exact ⟨hs₅, k + 1, hsame (Bool.not_eq_true _ ▸ hmerged) ▸ hchange⟩
  · intro removed s₂ h
    obtain ⟨hs₂, k, hreducing⟩ := h
    refine ⟨hs₂, hreducing.keeps, fun r hr => ?_⟩
    replace hr : r ∈ if s₂.heads.size > s.heads.size then some s.heads.size else none := hr
    split at hr
    · rename_i hlt
      obtain rfl := Option.mem_some.mp hr
      exact ⟨Nat.le_refl _, hreducing.holds _ (Nat.le_refl _) hlt⟩
    · exact absurd hr nofun

/-- What was done may have taken a reading out, but not if there was no next token. -/
structure Session.Completes (v : Nat) (lookahead : Option Nat) (s s' : Session) :
    Prop where
  keeps : s.Keeps (· < v) s'
  holds : lookahead = none → ∀ q, s.Holds v q → s'.Holds v q

/-- What is done to later readings leaves a reading to what was done to it. -/
theorem Session.Completes.trans {first : Nat} (h : s₀.Completes first lookahead s)
    (h' : s.Completes v lookahead s') (hle : first ≤ v) :
    s₀.Completes first lookahead s' where
  keeps := h.keeps.trans (h'.keeps.mono fun _ hw => Nat.lt_of_lt_of_le hw hle)
  holds hnone q hq := by
    have hfirst := h.holds hnone q hq
    obtain rfl | hlt := Nat.eq_or_lt_of_le hle
    · exact h'.holds hnone q hfirst
    · exact hfirst.keeps h'.keeps hlt

theorem Session.Completes.drop {first : Nat} (h : s₀.Completes first lookahead s)
    (h' : s.Drops v s') (hlt : first < v) : s₀.Completes first lookahead s' where
  keeps := h.keeps.trans (h'.keeps.mono fun _ hw => Nat.lt_trans hw hlt)
  holds hnone q hq := (h.holds hnone q hq).keeps h'.keeps hlt

theorem Session.Completes.ends_giveUp (h : s₀.Completes v lookahead s)
    (hs : s.Sound size) :
    Ends c s
      (if lookahead.isSome = true then removeHead v >>= fun _ => pure (false, false)
        else pure (false, false))
      fun _ s' => s'.Sound size ∧ s₀.Completes v lookahead s' := by
  rw [ends_ite]
  split
  · rename_i hsome
    have hnone : lookahead ≠ none := Option.isSome_iff_ne_none.mp hsome
    exact ⟨hs.removeHead, h.keeps.trans Session.drops_removeHead.keeps,
      fun h => absurd h hnone⟩
  · exact ⟨hs, h⟩

theorem Parser.ends_complete {lookahead : Option Nat} {mayReplace : Bool}
    (hs : s.Sound size) (hv : v < s.heads.size) :
    Ends c s (complete v lookahead mayReplace) fun _ s' =>
      s'.Sound size ∧ s.Completes v lookahead s' := by
  unfold complete
  simp only [ends_bind, ends_read, ends_top]
  generalize wanted c.table _ _ _ = answer
  obtain ⟨canShift, pending⟩ := answer
  refine (Ends.forIn_array
    (fun _ reduced s' => s'.Sound size ∧ s.Keeps (· < s.heads.size) s' ∧
      ∀ r ∈ reduced, v < r ∧ s'.Holds r (s.reached v))
    ?_ ?_ fun _ _ h => h).mono fun reduced s₁ h₁ => ?_
  · exact ⟨hs, .rfl, fun r hr => absurd hr (Option.not_mem_none r)⟩
  · intro x _ _ s₁ h₁
    obtain ⟨hs₁, hkeeps, -⟩ := h₁
    refine (ends_reduce hs₁).bind fun reduced s₂ h₂ => ?_
    obtain ⟨hs₂, hkeeps₂, hreduced⟩ := h₂
    refine ⟨hs₂, hkeeps.extend hkeeps₂, fun r hr => ?_⟩
    obtain ⟨hle, hholds⟩ := hreduced r hr
    rw [hkeeps.reached hs hv hv] at hholds
    exact ⟨Nat.lt_of_lt_of_le ((hkeeps.lt_iff hv).mpr hv) hle, hholds⟩
  · obtain ⟨hs₁, hkeeps, hreduced⟩ := h₁
    have hcompletes : s.Completes v lookahead s₁ :=
      ⟨hkeeps.mono fun w hw => Nat.lt_trans hw hv, fun _ q hq => hq.keeps hkeeps hv⟩
    rw [ends_ite]
    split
    · exact ⟨hs₁, hcompletes⟩
    · cases reduced with
      | none => exact hcompletes.ends_giveUp hs₁
      | some r =>
          dsimp only
          rw [ends_ite]
          split
          · obtain ⟨hlt, hholds⟩ := hreduced r rfl
            refine (ends_replaceHead hs₁ hholds.lt hlt).bind fun _ s₂ h₂ => ?_
            obtain ⟨hs₂, hkeeps₂, hv₂⟩ := h₂
            exact ⟨hs₂, hcompletes.keeps.trans (hkeeps₂.mono fun w hw =>
              ⟨Nat.lt_trans hw hlt, Nat.ne_of_lt hw⟩),
              fun _ q hq => (hholds.mono hq.reached_le).move hkeeps₂.toGrows hv₂⟩
          · exact hcompletes.ends_giveUp hs₁

theorem Parser.ends_reduceAll {first : Nat} {lookahead : Option Nat} (hs : s.Sound size)
    (hfirst : first < s.heads.size) :
    Ends c s (reduceAll first lookahead) fun _ s' =>
      s'.Sound size ∧ s.Completes first lookahead s' := by
  unfold reduceAll
  simp only [ends_bind, ends_headCount]
  refine Ends.forIn_range
    (fun x s' => first ≤ x.2 ∧ s'.Sound size ∧ s.Completes first lookahead s')
    ⟨Nat.le_refl first, hs, .rfl, fun _ _ h => h⟩ ?_ fun x s' h => h.2
  intro i hi x s' h
  obtain ⟨canShift, v⟩ := x
  obtain ⟨hle, hs', hcompletes⟩ := h
  dsimp only at hle ⊢
  rw [ends_bind, ends_headCount, ends_ite]
  split
  · exact ⟨hs', hcompletes⟩
  · rename_i hv
    refine (ends_mergeDown hs').bind fun merged s₁ h₁ => ?_
    obtain ⟨hs₁, hdrops, hsame⟩ := h₁
    rw [ends_ite]
    split
    · rename_i hmerged
      obtain rfl := hsame (Bool.not_eq_true' _ ▸ hmerged)
      refine (ends_complete hs₁ (Nat.lt_of_not_le hv)).bind fun x s₂ h₂ => ?_
      obtain ⟨hs₂, hcompletes₂⟩ := h₂
      have hgoOn : ∀ (canShift : Bool) (w : Nat), first ≤ w →
          first ≤ (canShift, w).2 ∧ s₂.Sound size ∧ s.Completes first lookahead s₂ :=
        fun _ w hw => ⟨hw, hs₂, hcompletes.trans hcompletes₂ hle⟩
      have hnext : first ≤ if v = first then s₁.heads.size else v + 1 := by
        split <;> omega
      repeat' rw [ends_ite]
      split
      · split
        · exact hgoOn true _ hnext
        · exact hgoOn true v hle
      · split
        · exact hgoOn canShift _ hnext
        · exact hgoOn canShift v hle
    · rename_i hmerged
      obtain ⟨hlt, hdrops⟩ := hdrops (by simpa using hmerged)
      exact ⟨hle, hs₁, hcompletes.drop hdrops (Nat.lt_trans hfirst hlt)⟩

end ScriptLint.Parse
