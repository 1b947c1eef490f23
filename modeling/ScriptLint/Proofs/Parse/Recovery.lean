import ScriptLint.Proofs.Parse.Reduction

namespace ScriptLint.Parse

open ScriptLint.Grammar ScriptLint.Parse.Parser

/-! What recovery from an error does to a session. -/

variable {c : Context} {s s' s₀ : Session}
  {count depth first goal i m n p q v w state size : Nat}
  {t lookahead : Subtree} {ts : List Subtree} {slice : Slice}

/-! ### Comparing readings -/

theorem Parser.ends_standing (hs : s.Sound size) :
    Ends c s (standing v) fun _ s' => s'.Sound size ∧ s.KeepsAll s' := by
  unfold standing
  simp only [ends_bind, ends_get, ends_head, ends_nodeAt]
  exact ends_countSinceError hs

theorem Parser.ends_betterExists {inError : Bool} {cost : Nat} (hs : s.Sound size) :
    Ends c s (betterExists v inError cost) fun _ s' => s'.Sound size ∧ s.KeepsAll s' := by
  unfold betterExists
  simp only [ends_bind, ends_get]
  rw [ends_ite]
  split
  · exact ⟨hs, .rfl⟩
  · rw [ends_bind, ends_top]
    refine (ends_countSinceError hs).bind fun count s₁ h₁ => ?_
    rw [ends_bind, ends_headCount]
    refine (Ends.forIn_range_keep (fun s' => s'.Sound size ∧ s.KeepsAll s') h₁ ?_).bind
      fun found s₂ h₂ => ?_
    · intro i _ _ s₂ h₂
      simp only [ends_bind, ends_head, ends_top, ends_ite]
      split
      · refine (ends_standing h₂.1).mono fun other s₃ h₃ => ?_
        have h : s₃.Sound size ∧ s.KeepsAll s₃ := ⟨h₃.1, h₂.2.trans h₃.2⟩
        split
        · exact h
        · rw [ends_bind, ends_get, ends_ite]
          split
          · exact h
          · exact h
        · exact h
      · exact h₂
    · split
      · exact h₂
      · exact h₂

/-! ### Errors -/

namespace Subtree

theorem fits_branch {table : Table} {text : Input} {label : Label} {layout : Option Nat}
    {place : Nat} (h : Row p ts q) (hts : ts ≠ []) (hp : p ≤ place) (hq : place ≤ q) :
    (branch table text label ts.toArray layout place).Fits p q := by
  obtain ⟨f, hbranch, -, -, hempty, -⟩ :=
    branch_eq table text label ts.toArray layout place
  refine ⟨?_, h.branch hp hq⟩
  rw [hbranch]
  refine hempty.trans ?_
  simpa using hts

theorem Fits.asExtra (h : t.Fits p q) : t.asExtra.Fits p q := by
  obtain ⟨hstart, ht, hstop⟩ := Row.singleton_iff.mp h.row
  cases t
  exact ⟨h.solid, .singleton hstart (ht.asExtra h.solid) hstop⟩

end Subtree

theorem Parser.Slice.StandsAt.row (h : slice.StandsAt s m q)
    (hts : ts ∈ slice.trees :: slice.others) : Row (s.reached m) ts q := by
  obtain ⟨r, hr, -, -, htrees⟩ := h
  rw [Session.reached_of hr]
  exact htrees ts hts

/-- What was skipped before some trees, if it is known, is put in front of them. -/
theorem Parser.Slice.StandsAt.open (h : slice.StandsAt s m p) (hrow : Row p ts q) :
    Row (s.reached m) ((slice.trees.head?.map (·.children.toList)).getD [] ++ ts) q := by
  have hbelow := h.row List.mem_cons_self
  cases htrees : slice.trees with
  | nil => exact hrow.mono (htrees ▸ hbelow).le (Nat.le_refl q)
  | cons t rest =>
      rw [htrees] at hbelow
      cases hbelow with
      | cons hstart ht hrest =>
          exact (ht.row_children.mono hstart hrest.le).append hrow

theorem Parser.ends_openError (hs : s.Sound size) (hv : s.Holds v q)
    (hrow : Row (s.reached v) ts q) :
    Ends c s (openError v ts) fun ts' s' =>
      s'.Sound size ∧ s.Keeps (fun w => w < s.heads.size ∧ w ≠ v) s' ∧ s'.Holds v q ∧
        Row (s'.reached v) ts' q := by
  unfold openError
  refine (ends_popError hs).bind fun errors s₁ h₁ => ?_
  obtain ⟨hs₁, hpops⟩ := h₁
  split
  · rename_i e he
    obtain ⟨hlt, he⟩ := Array.getElem?_eq_some_iff.mp he
    have hhead : e.head = s.heads.size := he ▸ hpops.head 0 hlt
    have hstands : e.StandsAt s₁ e.head (s.reached v) := by
      rw [hhead, ← he]
      exact hpops.stands 0 hlt
    have hve : v < e.head := hhead ▸ hv.lt
    refine (ends_replaceHead hs₁ hstands.holds.lt hve).bind fun _ s₂ h₂ => ?_
    obtain ⟨hs₂, hkeeps, hmoved⟩ := h₂
    have hv₂ : s₂.Holds v (s.reached v) := hstands.holds.move hkeeps.toGrows hmoved
    have hnew := hstands.open hrow
    rw [← hkeeps.toGrows.reached hs₁ hstands.holds.lt hmoved] at hnew
    have hkept : s₁.Keeps (fun w => w < s.heads.size ∧ w ≠ v) s₂ :=
      hkeeps.mono fun w hw => by omega
    exact ⟨hs₂, (hpops.keeps.mono fun w hw => hw.1).trans hkept, hv₂.mono hrow.le, hnew⟩
  · exact ⟨hs₁, hpops.keeps.mono fun _ hw => hw.1, hv.keeps hpops.keeps hv.lt,
      hpops.keeps.reached hs hv.lt hv.lt ▸ hrow⟩

theorem Parser.ends_pushError (hs : s.Sound size) (hv : s.Holds v q)
    (hrow : Row (s.reached v) ts q) (hq : q ≤ size) :
    Ends c s (pushError v goal ts) fun _ s' =>
      s'.Sound size ∧ s.Keeps (· ≠ v) s' ∧ s'.Holds v q := by
  have hsplit := Subtree.splitTrailing_append ts
  have hextra : ∀ t ∈ (Subtree.splitTrailing ts).2, t.facts.extra = true :=
    fun _ => Subtree.extra_of_mem_splitTrailing
  unfold pushError
  simp only [ends_bind, ends_read]
  generalize Subtree.splitTrailing ts = split at hsplit hextra ⊢
  obtain ⟨inner, extras⟩ := split
  rw [← hsplit] at hrow
  obtain ⟨r, hinner, hextras⟩ := hrow.exists_of_append
  dsimp only at hinner hextras hextra ⊢
  rw [ends_ite]
  split
  · rename_i hne
    have hfits : (Subtree.branch c.table c.text .error inner.toArray none
        (s.reached v)).Fits (s.reached v) r :=
      Subtree.fits_branch hinner (by simpa using hne) (Nat.le_refl _) hinner.le
    have hr : r ≤ size := Nat.le_trans hextras.le hq
    simp only [ends_bind, ends_top]
    refine (hv.ends_push hs hfits.asExtra.rests hr).mono fun _ s₁ h₁ => ?_
    refine (h₁.2.2.ends_pushAll h₁.1 hextras hextra hq).mono fun _ s₂ h₂ => ?_
    exact ⟨h₂.1, h₁.2.1.trans h₂.2.1, h₂.2.2⟩
  · exact (hv.here.mono hinner.le).ends_pushAll hs hextras hextra hq

theorem Session.Pops.stands_of_mem {slices : Array Slice} (h : s₀.Pops q slices s)
    (hslice : slice ∈ slices) :
    s₀.heads.size ≤ slice.head ∧ slice.StandsAt s slice.head q := by
  obtain ⟨i, hi, rfl⟩ := Array.getElem_of_mem hslice
  rw [h.head i hi]
  exact ⟨Nat.le_add_right _ _, h.stands i hi⟩

theorem Session.Pops.pairwise_head {slices : Array Slice} (h : s₀.Pops q slices s) :
    slices.toList.Pairwise fun a b => a.head ≠ b.head := by
  refine List.pairwise_iff_getElem.mpr fun i j hi hj hij => ?_
  have hi' : slices.toList[i].head = s₀.heads.size + i := h.head i hi
  have hj' : slices.toList[j].head = s₀.heads.size + j := h.head j hj
  omega

theorem Parser.ends_setHalted (hs : s.Sound size) :
    Ends c s (setStatus v .halted) fun _ s' =>
      s'.Sound size ∧ s.Keeps (· ≠ v) s' ∧ s'.heads.size = s.heads.size := by
  obtain ⟨hs', hkeeps⟩ := hs.restance (v := v) (f := fun h => { h with status := .halted })
    fun h hh => ⟨(hs.heads v h.stance hh).on, nofun⟩
  exact ⟨hs', hkeeps, Array.size_modify⟩

/-- The readings that are left when trees are taken off take up these trees as errors. -/
theorem Parser.ends_recoverTo (hs : s.Sound size) :
    Ends c s (recoverTo v depth goal) fun _ s' =>
      s'.Sound size ∧ s.Keeps (· < s.heads.size) s' := by
  have hq : s.reached v ≤ size := hs.within _
  unfold recoverTo
  refine (ends_popCount hs).bind fun slices s₁ h₁ => ?_
  obtain ⟨hs₁, hpops⟩ := h₁
  refine Ends.bind (Ends.forIn_array (fun rest _ s' =>
    s'.Sound size ∧ s.Keeps (· < s.heads.size) s' ∧
      rest.Pairwise (fun a b => a.head ≠ b.head) ∧
      ∀ x ∈ rest, s.heads.size ≤ x.head ∧ x.StandsAt s' x.head (s.reached v))
    ⟨hs₁, hpops.keeps, hpops.pairwise_head, fun slice hslice =>
      hpops.stands_of_mem (Array.mem_toList_iff.mp hslice)⟩ ?_ fun _ s' h => ⟨h.1, h.2.1⟩)
    fun _ _ h => h
  intro slice rest found s₂ h₂
  obtain ⟨hs₂, hkeeps, hapart, hstands⟩ := h₂
  obtain ⟨hne, hapart⟩ := List.pairwise_cons.mp hapart
  obtain ⟨⟨hle, hstand⟩, hrest⟩ := List.forall_mem_cons.mp hstands
  have hnext : ∀ s' : Session, s'.Sound size →
      s₂.Keeps (fun w => w < s₂.heads.size ∧ w ≠ slice.head) s' →
      s'.Sound size ∧ s.Keeps (· < s.heads.size) s' ∧
        rest.Pairwise (fun a b => a.head ≠ b.head) ∧
        ∀ x ∈ rest, s.heads.size ≤ x.head ∧ x.StandsAt s' x.head (s.reached v) := by
    intro s' hs' hkeeps'
    refine ⟨hs', hkeeps.trans (hkeeps'.mono fun w hw => ?_), hapart, fun x hx => ?_⟩
    · exact ⟨(hkeeps.lt_iff hw).mpr hw, Nat.ne_of_lt (Nat.lt_of_lt_of_le hw hle)⟩
    · obtain ⟨hle', hstand'⟩ := hrest x hx
      exact ⟨hle', hstand'.keeps hkeeps' ⟨hstand'.holds.lt, (hne x hx).symm⟩⟩
  rw [ends_bind, ends_top, ends_ite]
  split
  · refine (ends_setHalted hs₂).bind fun _ s₃ h₃ => ?_
    exact hnext s₃ h₃.1 (h₃.2.1.mono fun w hw => hw.2)
  · refine (ends_openError hs₂ hstand.holds (hstand.row List.mem_cons_self)).bind
      fun trees s₃ h₃ => ?_
    obtain ⟨hs₃, hkeeps₃, hholds₃, hrow₃⟩ := h₃
    refine (ends_pushError hs₃ hholds₃ hrow₃ hq).bind fun _ s₄ h₄ => ?_
    exact hnext s₄ h₄.1 (hkeeps₃.trans (h₄.2.1.mono fun w hw => hw.2))

theorem Parser.ends_goBack {cost : Nat} (hs : s.Sound size) :
    Ends c s (goBack v lookahead cost count) fun _ s' =>
      s'.Sound size ∧ s.Keeps (· < s.heads.size) s' := by
  unfold goBack
  rw [ends_ite]
  split
  · exact ⟨hs, .rfl⟩
  simp only [ends_bind, ends_read, ends_headCount, ends_top, ends_head]
  refine (Ends.forIn_array_keep
    (fun s' => s'.Sound size ∧ s.Keeps (· < s.heads.size) s') ⟨hs, .rfl⟩ ?_).mono
    fun found s₁ h₁ => ?_
  · intro mark _ _ s₁ h₁
    rw [ends_ite]
    split
    · rw [ends_bind, ends_get, ends_ite]
      split
      · refine (ends_betterExists h₁.1).bind fun better s₂ h₂ => ?_
        have hgood : s₂.Sound size ∧ s.Keeps (· < s.heads.size) s₂ :=
          ⟨h₂.1, h₁.2.extend (h₂.2.mono fun _ _ => trivial)⟩
        rw [ends_ite]
        split
        · exact hgood
        · rw [ends_ite]
          split
          · refine (ends_recoverTo hgood.1).bind fun found s₃ h₃ => ?_
            have hgood₃ := And.intro h₃.1 (hgood.2.extend h₃.2)
            rw [ends_ite]
            split
            · exact hgood₃
            · exact hgood₃
          · exact hgood
      · exact h₁
    · exact h₁
  · split
    · exact h₁
    · exact h₁

theorem Session.Sound.finish {root : Option Subtree} (hs : s.Sound size)
    (hroot : ∀ t ∈ root, Row 0 [t] size) : (s.finish root).Sound size := by
  have hgrows : s.Grows (s.finish root) := .of_nodes_eq rfl
  refine ⟨hs.root, hs.bottom, hs.within, fun n l hl => (hs.links n l hl).grow hgrows,
    fun v r hr => (hs.heads v r hr).grow hgrows, fun t ht => ?_⟩
  unfold Session.finish at ht
  dsimp only at ht
  split at ht
  · rename_i old new hold
    split at ht
    · exact hroot t ht
    · exact hs.finished t (hold ▸ ht)
  · exact hroot t ht
  · exact hs.finished t ht

theorem Parser.ends_finishAll {slices : Array Slice} (hs : s.Sound size)
    (hpops : s₀.Pops q slices s) (hq : q ≤ size) :
    Ends c s
      (forIn slices PUnit.unit fun slice _ => do
        forIn (slice.trees :: slice.others) PUnit.unit fun trees _ => do
          modify (·.finish (Subtree.gather? c.table c.text trees))
          pure (.yield PUnit.unit)
        pure (.yield PUnit.unit))
      fun _ s' => s'.Sound size ∧ s.KeepsAll s' := by
  refine Ends.forIn_array_keep (fun s' => s'.Sound size ∧ s.KeepsAll s') ⟨hs, .rfl⟩ ?_
  intro slice hslice _ s₁ h₁
  refine Ends.bind (Ends.forIn_list_keep (fun s' => s'.Sound size ∧ s.KeepsAll s') h₁ ?_)
    fun _ _ h => h
  intro trees htrees _ s₂ h₂
  refine ⟨h₂.1.finish fun t ht => ?_, h₂.2.trans ⟨.of_nodes_eq rfl, fun _ _ => rfl⟩⟩
  have hrow := (hpops.stands_of_mem hslice).2.row htrees
  exact Subtree.row_gather? (hrow.mono (Nat.zero_le _) hq) ht

/-- The text has been read to its end; the reading does not go on. -/
theorem Parser.ends_accept (hs : s.Sound size) (hv : s.Holds v p)
    (ht : lookahead.Fits p size) :
    Ends c s (accept v lookahead) fun _ s' => s'.Sound size ∧ v < s'.heads.size := by
  unfold accept
  rw [ends_bind, ends_read, ends_bind]
  have hrests := (ht.mono hv.reached_le).rests
  refine (hv.ends_push hs hrests (Nat.le_refl size)).mono fun _ s₁ h₁ => ?_
  obtain ⟨hs₁, -, hv₁⟩ := h₁
  refine (ends_popAll hs₁).bind fun slices s₂ h₂ => ?_
  obtain ⟨hs₂, hpops⟩ := h₂
  refine (ends_finishAll hs₂ hpops (hs₁.within _)).bind fun _ s₃ h₃ => ?_
  obtain ⟨hs₃, hkeeps⟩ := h₃
  have hv₃ : v < s₃.heads.size :=
    (hkeeps.lt_iff trivial).mpr ((hpops.keeps.lt_iff hv₁.lt).mpr hv₁.lt)
  split
  · rename_i slice hslice
    have hle := (hpops.stands_of_mem (Array.mem_of_getElem? hslice)).1
    have hlt : v < slice.head := Nat.lt_of_lt_of_le hv₁.lt hle
    rw [ends_bind, ends_removeHead]
    refine (ends_setHalted hs₃.removeHead).mono fun _ s₄ h₄ => ⟨h₄.1, ?_⟩
    rw [h₄.2.2]
    exact (Session.drops_removeHead.keeps.lt_iff hlt).mpr hv₃
  · exact (ends_setHalted hs₃).mono fun _ s₄ h₄ => ⟨h₄.1, h₄.2.2 ▸ hv₃⟩

theorem mem_of_mem_extract {α : Type} {xs : Array α} {x : α} (h : x ∈ xs.extract i m) :
    x ∈ xs := by
  obtain ⟨k, hk, rfl⟩ := Array.getElem_of_mem h
  rw [Array.getElem_extract]
  exact Array.getElem_mem _

theorem Parser.ends_dropInactive (hs : s.Sound size) :
    Ends c s (dropInactive first) fun _ s' => s'.Sound size ∧ s.Keeps (· < first) s' := by
  refine ⟨hs.select fun x hx => ?_, .of_nodes_eq rfl, fun w hw => ?_⟩
  · obtain hx | hx := Array.mem_append.mp hx
    · exact mem_of_mem_extract hx
    · exact mem_of_mem_extract (Array.mem_filter.mp hx).1
  · change Option.map Head.stance (_ ++ _)[w]? = _
    unfold Session.stance?
    grind

theorem Session.Sound.cut (hs : s.Sound size) :
    ({ s with heads := s.heads.extract 0 n } : Session).Sound size ∧
      s.Keeps (· < n) { s with heads := s.heads.extract 0 n } := by
  refine ⟨hs.select fun x hx => mem_of_mem_extract hx, .of_nodes_eq rfl, fun w hw => ?_⟩
  unfold Session.stance?
  grind

/-- The text skipped so far is taken off, in front of which the reading then stands. -/
theorem Parser.ends_takeSkipped (hs : s.Sound size) (hv : s.Holds v q) :
    Ends c s (takeSkipped v count) fun trees s' =>
      s'.Sound size ∧ s'.Holds v (s.reached v) ∧
        ∀ ts ∈ trees, Row (s'.reached v) ts (s.reached v) := by
  unfold takeSkipped
  rw [ends_ite]
  split
  · exact ⟨hs, hv.here, nofun⟩
  refine (ends_popCount hs).bind fun slices s₁ h₁ => ?_
  obtain ⟨hs₁, hpops⟩ := h₁
  split
  · rename_i slice hslice
    obtain ⟨hle, hstands⟩ := hpops.stands_of_mem (Array.mem_of_getElem? hslice)
    obtain ⟨hs₂, hkeeps₂⟩ := hs₁.cut (n := slice.head + 1)
    have hstands₂ := hstands.keeps hkeeps₂ (Nat.lt_succ_self _)
    rw [ends_bind, ends_modify]
    refine (ends_replaceHead hs₂ hstands₂.holds.lt (Nat.lt_of_lt_of_le hv.lt hle)).bind
      fun _ s₃ h₃ => ?_
    obtain ⟨hs₃, hkeeps₃, hmoved⟩ := h₃
    have hgrows := hkeeps₃.toGrows
    refine ⟨hs₃, hstands₂.holds.move hgrows hmoved, fun ts hts => ?_⟩
    obtain rfl := Option.mem_some.mp hts
    have hreached : s₃.reached v = _ := hgrows.reached hs₂ hstands₂.holds.lt hmoved
    change Row (s₃.reached v) _ _
    rw [hreached]
    exact hstands₂.row List.mem_cons_self
  · exact ⟨hs₁, hv.here.keeps hpops.keeps hv.lt, nofun⟩

/-- A token joins the text that has been skipped since the error. -/
theorem Parser.ends_skip (hs : s.Sound size) (hv : s.Holds v p) (ht : t.Fits p size) :
    Ends c s (skip v t count) fun _ s' => s'.Sound size ∧ v < s'.heads.size := by
  have hplace : s.reached v ≤ size := hs.within _
  have hskipped : (Subtree.branch c.table c.text .skipped #[t] none (s.reached v)).Fits
      (s.reached v) size :=
    Subtree.fits_branch (ht.mono hv.reached_le).row (List.cons_ne_nil t [])
      (Nat.le_refl _) hplace
  unfold skip
  rw [ends_bind, ends_read, ends_bind, ends_top]
  refine (ends_takeSkipped hs hv).bind fun trees s₁ h₁ => ?_
  obtain ⟨hs₁, hv₁, htrees⟩ := h₁
  cases trees with
  | none =>
      have hrests := (hskipped.mono hv₁.reached_le).rests
      refine (hv₁.ends_push hs₁ hrests (Nat.le_refl size)).mono
        fun _ s₂ h₂ => ⟨h₂.1, h₂.2.2.lt⟩
  | some ts =>
      have hrow := (htrees ts rfl).append hskipped.row
      have hfits : (Subtree.branch c.table c.text .skipped (ts ++ [_]).toArray none
          (s.reached v)).Fits (s₁.reached v) size :=
        Subtree.fits_branch hrow (by simp) hv₁.reached_le hplace
      refine (hv₁.ends_push hs₁ hfits.rests (Nat.le_refl size)).mono
        fun _ s₂ h₂ => ⟨h₂.1, h₂.2.2.lt⟩

/-- A token is dealt with by going back or by being skipped. -/
theorem Parser.ends_recover (hs : s.Sound size) (hv : s.Holds v p)
    (ht : lookahead.Fits p size) :
    Ends c s (recover v lookahead) fun _ s' => s'.Sound size ∧ v < s'.heads.size := by
  have hhalt : ∀ s' : Session, s'.Sound size → v < s'.heads.size →
      Ends c s' (setStatus v .halted) fun _ s' => s'.Sound size ∧ v < s'.heads.size :=
    fun s' hs' hv' => (ends_setHalted hs').mono fun _ _ h => ⟨h.1, h.2.2 ▸ hv'⟩
  unfold recover
  rw [ends_bind, ends_read, ends_bind, ends_headCount]
  refine (ends_countSinceError hs).bind fun count s₁ h₁ => ?_
  obtain ⟨hs₁, hkeeps₁⟩ := h₁
  rw [ends_bind, ends_get]
  refine (ends_goBack hs₁).bind fun recovered s₂ h₂ => ?_
  obtain ⟨hs₂, hkeeps₂⟩ := h₂
  refine (ends_dropInactive hs₂).bind fun _ s₃ h₃ => ?_
  obtain ⟨hs₃, hkeeps₃⟩ := h₃
  have hv₁ := hv.keeps hkeeps₁ trivial
  have hv₃ := (hv₁.keeps hkeeps₂ hv₁.lt).keeps hkeeps₃ hv.lt
  rw [ends_ite]
  split
  · rw [ends_bind, ends_top]
    have hempty : (Subtree.branch c.table c.text .error #[] none (s₃.reached v)).Rests
        (s₃.reached v) (s₃.reached v) := Subtree.rests_branch (.nil (Nat.le_refl _))
    refine (hv₃.ends_push hs₃ hempty (hs₃.within _)).bind fun _ s₄ h₄ => ?_
    exact ends_accept h₄.1 (h₄.2.2.mono hv₃.reached_le) ht
  · rw [ends_bind, ends_headCount, ends_ite]
    split
    · exact hhalt s₃ hs₃ hv₃.lt
    · refine (ends_betterExists hs₃).bind fun better s₄ h₄ => ?_
      obtain ⟨hs₄, hkeeps₄⟩ := h₄
      have hv₄ := hv₃.keeps hkeeps₄ trivial
      rw [ends_ite]
      split
      · exact hhalt s₄ hs₄ hv₄.lt
      · refine ends_skip hs₄ hv₄ ?_
        split
        · exact ht.asExtra
        · exact ht

/-- A leaf without text fits anywhere. -/
theorem Subtree.rests_missing {f : Facts} (hstart : f.start = p) (hstop : f.stop = p)
    (hhollow : f.hollow = false) : (Subtree.node f #[]).Rests p p := by
  have hlaid : (Subtree.node f #[]).Laid :=
    .node (.nil (Nat.le_of_eq (hstart.trans hstop.symm))) fun _ => hhollow
  exact ⟨.singleton (Nat.le_of_eq hstart.symm) hlaid (Nat.le_of_eq hstop),
    fun hollow => absurd (hhollow.symm.trans hollow) nofun⟩

/-- A token may be inserted into a copy of a reading; the reading stays as it is. -/
theorem Parser.ends_insertMissing {label : Label} (hs : s.Sound size)
    (hv : v < s.heads.size) :
    Ends c s (insertMissing v label) fun _ s' =>
      s'.Sound size ∧ s.Keeps (· < s.heads.size) s' := by
  unfold insertMissing
  rw [ends_bind, ends_read, ends_bind, ends_top]
  obtain ⟨r, hr⟩ := Option.isSome_iff_exists.mp (Session.stance?_isSome.mpr hv)
  refine (Ends.forIn_range_keep
    (fun s' => s'.Sound size ∧ s.Keeps (· < s.heads.size) s') ⟨hs, .rfl⟩ ?_).bind
    fun found s₁ h₁ => ?_
  · intro m _ _ s₁ h₁
    obtain ⟨hs₁, hkeeps₁⟩ := h₁
    rw [ends_ite]
    split
    · refine (ends_copyHead hs₁ ((hkeeps₁.stance v hv).trans hr)).bind fun copy s₂ h₂ => ?_
      obtain ⟨rfl, hs₂, hkeeps₂, hcopy⟩ := h₂
      have hgrows := hkeeps₁.toGrows.trans hkeeps₂.toGrows
      have hplace : s.reached v = s₂.place r.node :=
        (Session.reached_of hr).trans (hgrows.place r.node (hs.heads v r hr).on).symm
      refine (Subtree.Rests.ends_push ?_ hs₂ hcopy (hs₂.within _)
        (.inr (Nat.le_refl _))).bind fun _ s₃ h₃ => ?_
      · exact Subtree.rests_missing hplace hplace rfl
      · obtain ⟨hs₃, hkeeps₃, n, hn, -, -⟩ := h₃
        refine (ends_reduceAll hs₃ (Session.stance?_isSome.mp (by rw [hn]; rfl))).bind
          fun found s₄ h₄ => ?_
        have hgood : s₄.Sound size ∧ s.Keeps (· < s.heads.size) s₄ := by
          have hkeeps₄ : s₁.Keeps (· < s₁.heads.size) s₄ := (hkeeps₂.trans
            (hkeeps₃.mono fun w hw => Nat.ne_of_lt hw)).trans h₄.2.keeps
          exact ⟨h₄.1, hkeeps₁.trans (hkeeps₄.mono fun w hw => (hkeeps₁.lt_iff hw).mpr hw)⟩
        rw [ends_ite]
        split
        · exact hgood
        · exact hgood
    · exact ⟨hs₁, hkeeps₁⟩
  · obtain ⟨_ | _, _⟩ := found
    · exact h₁
    · exact h₁

/-- The place of an error is marked on a reading; no reading gets ahead. -/
theorem Parser.ends_pushMark (hs : s.Sound size) (hv : s.Holds v p)
    (hw : w < s.heads.size) :
    Ends c s (push w none state) fun _ s' =>
      s'.Sound size ∧ s'.Holds v p ∧ s.heads.size ≤ s'.heads.size := by
  obtain ⟨r, hr⟩ := Option.isSome_iff_exists.mp (Session.stance?_isSome.mpr hw)
  have hnone : ∀ t ∈ (none : Option Subtree), t.facts.hollow →
      t.facts.stop ≤ s.place r.node := nofun
  refine (ends_push hs hr (.nil (Nat.le_refl _)) (hs.within r.node) hnone
    (.inr (Nat.le_refl _))).mono fun _ s' h => ?_
  obtain ⟨hs', hkeeps, n, hn, hlt, hle⟩ := h
  refine ⟨hs', ?_, Nat.le_of_not_lt fun hsize => ?_⟩
  · by_cases hvw : v = w
    · subst hvw
      obtain ⟨r', hr', hactive, -, hp⟩ := hv
      obtain rfl : r' = r := Option.some.inj (hr'.symm.trans hr)
      exact ⟨{ r' with node := n }, hn, hactive, hlt, Nat.le_trans hle hp⟩
    · exact hv.keeps hkeeps hvw
  · by_cases hend : s'.heads.size = w
    · have hw' := Session.stance?_isSome.mp (by rw [hn]; rfl)
      omega
    · exact Nat.lt_irrefl _ ((hkeeps.lt_iff hend).mpr hsize)

/-- The repair of a reading that has come to the place of the next token. -/
theorem Parser.ends_beginRepair (hs : s.Sound size) (hv : s.Holds v p)
    (ht : lookahead.Fits p size) :
    Ends c s (beginRepair v lookahead) fun _ s' => s'.Sound size ∧ v < s'.heads.size := by
  unfold beginRepair
  rw [ends_bind, ends_headCount]
  refine (ends_reduceAll hs hv.lt).bind fun _ s₁ h₁ => ?_
  obtain ⟨hs₁, hcompletes⟩ := h₁
  have hv₁ := hcompletes.holds rfl p hv
  rw [ends_bind, ends_headCount]
  refine Ends.bind (P := fun _ s' => s'.Sound size ∧ s'.Holds v p) ?_ fun _ s₂ h₂ => ?_
  · refine (Ends.forIn_list_keep
      (fun s' => s'.Sound size ∧ s'.Holds v p ∧ s₁.heads.size ≤ s'.heads.size)
      ⟨hs₁, hv₁, Nat.le_refl _⟩ ?_).mono fun _ _ h => ⟨h.1, h.2.1⟩
    intro w hw inserted s₂ h₂
    obtain ⟨hs₂, hv₂, hsize₂⟩ := h₂
    have hlt : w < s₁.heads.size := by
      obtain rfl | hw := List.mem_cons.mp hw
      · exact hv₁.lt
      · obtain ⟨i, hi, rfl⟩ := List.mem_range'.mp hw
        omega
    have hmark : ∀ s' : Session, s'.Sound size → s'.Holds v p →
        s₁.heads.size ≤ s'.heads.size → ∀ inserted : Bool, Ends c s'
          (push w none Table.repairState >>= fun _ => pure (ForInStep.yield inserted))
          fun _ s'' => s''.Sound size ∧ s''.Holds v p ∧
            s₁.heads.size ≤ s''.heads.size := by
      intro s' hs' hv' hsize _
      refine (ends_pushMark hs' hv' (Nat.lt_of_lt_of_le hlt hsize)).bind fun _ _ h => ?_
      exact ⟨h.1, h.2.1, Nat.le_trans hsize h.2.2⟩
    rw [ends_ite]
    split
    · have hlt₂ := Nat.lt_of_lt_of_le hlt hsize₂
      refine (ends_insertMissing hs₂ hlt₂).bind fun found s₃ h₃ => ?_
      exact hmark s₃ h₃.1 (hv₂.keeps h₃.2 hv₂.lt) (Nat.le_trans hsize₂ h₃.2.size_le) found
    · exact hmark s₂ hs₂ hv₂ hsize₂ inserted
  refine (Ends.forIn_range_keep (fun s' => s'.Sound size ∧ s'.Holds v p) h₂ ?_).bind
    fun _ s₃ h₃ => ?_
  · intro i _ _ s₃ h₃
    refine (ends_merge h₃.1).bind fun merged s₄ h₄ => ?_
    refine ⟨h₄.1, ?_⟩
    cases merged with
    | true => exact h₃.2.keeps (h₄.2.1 rfl).keeps hv.lt
    | false => exact (h₄.2.2 rfl) ▸ h₃.2
  refine (ends_landmarks h₃.1).bind fun marks s₄ h₄ => ?_
  have hv₄ := h₃.2.keeps h₄.2 h₃.2.lt
  rw [ends_bind, ends_modifyHead]
  obtain ⟨hs₅, hkeeps₅⟩ := h₄.1.annotate (v := v)
    (f := fun h => { h with landmarks := some marks }) fun _ => rfl
  exact ends_recover hs₅ (hv₄.keeps hkeeps₅ trivial) ht

end ScriptLint.Parse
