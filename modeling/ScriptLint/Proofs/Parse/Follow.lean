import ScriptLint.Parse.Run
import ScriptLint.Proofs.Parse.Recovery

namespace ScriptLint.Parse

open ScriptLint.Grammar ScriptLint.Parse.Parser

/-! The parser keeps its session sound from the first token to the last, and what it has
finished then lies in the text. -/

variable {c : Context} {s s' : Session} {i k p q steps v size : Nat} {t token : Subtree}
  {actions : List Action} {outcome : Outcome}

/-- What the actions of a state leave for a token from `p` on: the reading at `v`, which
unless the token has been taken is still before it, and so are those made from it. -/
def Parser.Outcome.Leaves (v p size : Nat) (s : Session) : Outcome → Prop
  | .done => s.Sound size ∧ v < s.heads.size
  | .reduced new => s.Sound size ∧ s.Holds v p ∧ ∀ r ∈ new, v < r ∧ s.Holds r p
  | .untouched => s.Sound size ∧ s.Holds v p

/-- What a reduction leaves, or else one before it. -/
theorem Parser.Outcome.Leaves.reduce {new last : Option Nat}
    (hlast : last = match new, outcome with
      | some r, _ => some r
      | none, .reduced r => r
      | none, _ => none)
    (h : outcome.Leaves v p size s) (hs' : s'.Sound size)
    (hkeeps : s.Keeps (· < s.heads.size) s') (hv : s.Holds v p)
    (hnew : ∀ r ∈ new, s.heads.size ≤ r ∧ s'.Holds r (s.reached v)) :
    (Outcome.reduced last).Leaves v p size s' := by
  subst hlast
  refine ⟨hs', hv.keeps hkeeps hv.lt, fun r hr => ?_⟩
  cases new with
  | some r' =>
      obtain rfl := Option.mem_some.mp hr
      obtain ⟨hle, hholds⟩ := hnew r' rfl
      exact ⟨Nat.lt_of_lt_of_le hv.lt hle, hholds.mono hv.reached_le⟩
  | none =>
      cases outcome with
      | done => exact absurd hr nofun
      | untouched => exact absurd hr nofun
      | reduced earlier =>
          obtain ⟨hlt, hholds⟩ := h.2.2 r hr
          exact ⟨hlt, hholds.keeps hkeeps hholds.lt⟩

theorem Parser.ends_perform (hs : s.Sound size) (hv : s.Holds v p)
    (houtcome : outcome.Leaves v p size s) (ht : token.Fits p size) :
    Ends c s (perform v token actions outcome) fun outcome' s' =>
      outcome'.Leaves v p size s' := by
  induction actions generalizing s outcome with
  | nil => exact houtcome
  | cons a rest ih =>
      have hfits := ht.mono hv.reached_le
      have hsize := Nat.le_refl size
      cases a with
      | shift state repetition =>
          cases repetition with
          | true => exact houtcome
          | false =>
              refine (hv.ends_push hs hfits.rests hsize).bind fun _ s₁ h₁ => ?_
              exact And.intro h₁.1 h₁.2.2.lt
      | skip =>
          rw [perform, ends_bind, ends_top]
          refine (hv.ends_push hs hfits.asExtra.rests hsize).bind fun _ s₁ h₁ => ?_
          exact And.intro h₁.1 h₁.2.2.lt
      | accept => exact (ends_accept hs hv ht).bind fun _ _ h => h
      | reduce symbol n w layout =>
          refine (ends_reduce hs).bind fun new s₁ h₁ => ?_
          obtain ⟨hs₁, hkeeps, hnew⟩ := h₁
          exact ih hs₁ (hv.keeps hkeeps hv.lt) (.reduce rfl houtcome hs₁ hkeeps hv hnew)

theorem Subtree.Fits.asWord {table : Table} (h : t.Fits p q) :
    (asWord table t).Fits p q := by
  obtain ⟨hstart, ht, hstop⟩ := Row.singleton_iff.mp h.row
  exact ⟨h.solid, .singleton hstart (.node (.nil ht.start_le_stop) fun _ => h.solid) hstop⟩

/-- A reading may wait for the token that it stands before. -/
theorem Session.Sound.pause (hs : s.Sound size) (hv : s.Holds v p) (ht : t.Fits p size) :
    ({ s with heads := s.heads.modify v fun h =>
        { h with status := .paused, lookahead := some t } } : Session).Sound size := by
  have hstance : ∀ h : Head, s.stance? v = some h.stance →
      (⟨h.node, .paused, some t⟩ : Stance).Sound size s := by
    intro h hh
    refine ⟨(hs.heads v h.stance hh).on, fun _ t' ht' => ?_⟩
    obtain rfl := Option.mem_some.mp ht'
    exact ht.mono (Session.reached_of hh ▸ hv.reached_le)
  exact (hs.restance hstance).1

theorem Parser.ends_advance (hs : s.Sound c.text.size) (hv : s.Holds v p) :
    Ends c s (advance v) fun _ s' => s'.Sound c.text.size ∧ v < s'.heads.size := by
  unfold advance
  rw [ends_bind, ends_read, ends_bind, ends_top]
  refine (ends_nextToken (hs.within _)).bind fun token s₁ h₁ => ?_
  obtain ⟨rfl, ht⟩ := h₁
  refine (Ends.forIn_range (R := fun _ s' => s'.Sound c.text.size ∧ v < s'.heads.size)
    (fun (x : Option Unit × Subtree) s' => s'.Sound c.text.size ∧
      s'.Holds v (s₁.reached v) ∧ x.2.Fits (s₁.reached v) c.text.size)
    ?_ ?_ fun _ _ h => ⟨h.1, h.2.1.lt⟩).bind fun x s' h => ?_
  · exact ⟨hs, hv.here, ht⟩
  · intro _ _ x s₂ h₂
    obtain ⟨_, token⟩ := x
    obtain ⟨hs₂, hv₂, ht₂⟩ := h₂
    dsimp only at ht₂ ⊢
    have hstart : Outcome.untouched.Leaves v (s₁.reached v) c.text.size s₂ := ⟨hs₂, hv₂⟩
    rw [ends_bind, ends_top]
    cases answer c.table s₂.nodes[s₂.heads[v]!.node]!.state token.label with
    | repair => exact (ends_recover hs₂ hv₂ ht₂).bind fun _ _ h => h
    | listed actions =>
        refine (ends_perform hs₂ hv₂ hstart ht₂).bind fun outcome s₃ h₃ => ?_
        cases outcome with
        | done => exact h₃
        | reduced new =>
            obtain ⟨hs₃, hv₃, hnew⟩ := h₃
            cases new with
            | none => exact (ends_setHalted hs₃).bind fun _ _ h => ⟨h.1, h.2.2 ▸ hv₃.lt⟩
            | some r =>
                obtain ⟨hlt, hr⟩ := hnew r rfl
                refine (ends_replaceHead hs₃ hr.lt hlt).bind fun _ s₄ h₄ => ?_
                exact And.intro h₄.1 ⟨hr.move h₄.2.1.toGrows h₄.2.2, ht₂⟩
        | untouched =>
            obtain ⟨hs₃, hv₃⟩ := h₃
            dsimp only
            rw [ends_ite]
            split
            · exact And.intro hs₃ ⟨hv₃, ht₂.asWord⟩
            · rw [ends_ite]
              split
              · exact (ends_recover hs₃ hv₃ ht₂).bind fun _ _ h => h
              · rw [ends_bind, ends_modifyHead]
                refine And.intro (hs₃.pause hv₃ ht₂) ?_
                exact Nat.lt_of_lt_of_eq hv₃.lt Array.size_modify.symm
  · obtain ⟨_ | _, token⟩ := x
    · exact h
    · exact h

theorem Parser.ends_contest {mine : Standing} (hs : s.Sound size) :
    Ends c s (contest i mine) fun _ s' => s'.Sound size := by
  unfold contest
  refine (Ends.forIn_range_keep (·.Sound size) hs ?_).bind fun found s₁ h₁ => ?_
  · intro _ _ x s₁ hs₁
    obtain ⟨_, i, j⟩ := x
    dsimp only
    rw [ends_ite]
    split
    · exact hs₁
    refine (ends_standing hs₁).bind fun other s₂ h₂ => ?_
    have hmerge : Ends c s₂ (merge j i) fun _ s' => s'.Sound size :=
      (ends_merge h₂.1).mono fun _ _ h => h.1
    split
    · exact h₂.1.removeHead
    · refine hmerge.bind fun merged s₃ hs₃ => ?_
      rw [ends_ite]
      split
      · exact hs₃
      · exact hs₃
    · refine hmerge.bind fun merged s₃ hs₃ => ?_
      rw [ends_ite]
      split
      · exact hs₃
      · exact hs₃
    · refine hmerge.bind fun merged s₃ hs₃ => ?_
      rw [ends_ite]
      split
      · exact hs₃
      · exact sound_swapHeads hs₃
    · exact h₂.1.removeHead
  · obtain ⟨_ | _, _⟩ := found
    · exact h₁
    · exact h₁

theorem Parser.ends_weed (hs : s.Sound size) :
    Ends c s weed fun _ s' => s'.Sound size := by
  unfold weed
  refine (Ends.forIn_range_keep (·.Sound size) hs ?_).bind fun _ s₁ h₁ => h₁
  intro _ _ x s₁ hs₁
  rw [ends_bind, ends_headCount, ends_ite]
  split
  · exact hs₁
  rw [ends_bind, ends_head, ends_ite]
  split
  · exact hs₁.removeHead
  · refine (ends_standing hs₁).bind fun mine s₂ h₂ => ?_
    exact (ends_contest h₂.1).bind fun _ _ h => h

theorem Session.stance?_eq (hv : v < s.heads.size) :
    s.stance? v = some s.heads[v]!.stance := by
  rw [getElem!_pos s.heads v hv, Session.stance?, Array.getElem?_eq_getElem hv,
    Option.map_some]

theorem Session.Sound.holds (hs : s.Sound size) (hv : v < s.heads.size)
    (hactive : s.heads[v]!.status = .active) : s.Holds v (s.reached v) :=
  ⟨_, stance?_eq hv, hactive, hs.on v, Nat.le_refl _⟩

/-- A paused reading that is taken up again stands before the token that it waits for. -/
theorem Session.Sound.wake (hs : s.Sound size) (hpaused : s.heads[v]!.status = .paused)
    (ht : token ∈ s.heads[v]!.lookahead) (hs' : s' = { s with
      heads := s.heads.modify v fun h =>
        { h with status := .active, lookahead := none } }) :
    s'.Holds v (s.reached v) ∧ token.Fits (s.reached v) size := by
  have hlt : v < s.heads.size := by
    by_contra hv
    rw [getElem!_neg s.heads v hv] at hpaused
    exact absurd hpaused nofun
  have hsound := hs.heads v _ (Session.stance?_eq hlt)
  subst hs'
  refine ⟨⟨⟨s.heads[v]!.node, .active, none⟩, ?_, rfl, hsound.on, Nat.le_refl _⟩,
    hsound.waits hpaused token ht⟩
  rw [Session.stance?_modify, if_pos rfl, getElem!_pos s.heads v hlt,
    Array.getElem?_eq_getElem hlt]
  rfl

theorem Parser.ends_resume {least : Option Nat} (hs : s.Sound c.text.size) :
    Ends c s (resume least) fun _ s' => s'.Sound c.text.size := by
  unfold resume
  rw [ends_bind, ends_headCount]
  refine (Ends.forIn_range_keep (·.Sound c.text.size) hs ?_).bind fun _ s₁ h₁ => h₁
  intro _ _ x s₁ hs₁
  obtain ⟨least, resumed, k⟩ := x
  dsimp only
  rw [ends_bind, ends_head, ends_ite]
  split
  · rename_i hpaused
    rw [ends_bind, ends_get, ends_ite]
    split
    · rw [ends_bind, ends_get, ends_bind, ends_modifyHead]
      obtain ⟨hs₂, -⟩ := hs₁.restance (v := k)
        (f := fun h => { h with status := .active, lookahead := none })
        fun h hh => ⟨(hs₁.heads k h.stance hh).on, nofun⟩
      cases hlookahead : s₁.heads[k]!.lookahead with
      | none => exact hs₂
      | some token =>
          obtain ⟨hk, ht⟩ := hs₁.wake (beq_iff_eq.mp hpaused) hlookahead rfl
          exact (ends_beginRepair hs₂ hk ht).bind fun _ _ h => h.1
    · exact hs₁.removeHead
  · exact hs₁

theorem Parser.ends_condense (hs : s.Sound c.text.size) :
    Ends c s condense fun _ s' => s'.Sound c.text.size := by
  unfold condense
  refine (ends_weed hs).bind fun least s₁ hs₁ => ?_
  rw [ends_bind, ends_modify]
  exact ends_resume hs₁.cut.1

theorem Parser.ends_advanceAll {last : Nat} (hs : s.Sound c.text.size) :
    Ends c s (advanceAll steps last) fun _ s' => s'.Sound c.text.size := by
  unfold advanceAll
  refine (Ends.forIn_range_keep (·.Sound c.text.size) hs ?_).bind fun _ s₁ h₁ => h₁
  intro _ _ x s₁ hs₁
  obtain ⟨last, v⟩ := x
  dsimp only
  rw [ends_bind, ends_headCount, ends_ite]
  split
  · exact hs₁
  rename_i hv
  refine (Ends.forIn_range_keep (fun s' => s'.Sound c.text.size ∧ v < s'.heads.size)
    ⟨hs₁, Nat.lt_of_not_le hv⟩ ?_).bind fun _ s₂ h₂ => h₂.1
  intro _ _ last s₂ h₂
  obtain ⟨hs₂, hv₂⟩ := h₂
  rw [ends_bind, ends_head, ends_ite]
  split
  · exact ⟨hs₂, hv₂⟩
  · rename_i hactive
    have hholds := hs₂.holds hv₂ (by simpa using hactive)
    refine (ends_advance hs₂ hholds).bind fun _ s₃ h₃ => ?_
    rw [ends_bind, ends_top, ends_ite]
    split
    · exact h₃
    · exact h₃

theorem Parser.ends_follow (hs : s.Sound c.text.size) :
    Ends c s (follow steps) fun _ s' => s'.Sound c.text.size := by
  unfold follow
  refine (Ends.forIn_range_keep (·.Sound c.text.size) hs ?_).bind fun found s₁ hs₁ => ?_
  · intro _ _ x s₁ hs₁
    obtain ⟨_, last⟩ := x
    refine (ends_advanceAll hs₁).bind fun last s₂ hs₂ => ?_
    rw [ends_bind, ends_headCount]
    refine (ends_condense hs₂).bind fun least s₃ hs₃ => ?_
    rw [ends_bind, ends_get, ends_bind, ends_headCount, ends_ite]
    split
    · exact hs₃
    · exact hs₃
  · obtain ⟨_ | _, _⟩ := found
    · exact hs₁
    · exact hs₁

theorem Session.sound_start : Session.start.Sound size := by
  have hnode : ∀ n : Nat,
      Session.start.nodes[n]!.links = #[] ∧ Session.start.place n = 0 := by
    intro n
    unfold place
    by_cases hn : n = 0
    · subst hn
      exact ⟨rfl, rfl⟩
    · rw [getElem!_neg Session.start.nodes n fun h => hn (Nat.lt_one_iff.mp h)]
      exact ⟨rfl, rfl⟩
  refine ⟨Nat.one_pos, (hnode 0).2, fun n => ?_, fun n l hl => ?_, fun v r hr => ?_, nofun⟩
  · rw [(hnode n).2]
    exact Nat.zero_le size
  · rw [(hnode n).1] at hl
    exact absurd hl (Array.not_mem_empty l)
  · obtain ⟨h, hh, rfl⟩ := Option.map_eq_some_iff.mp hr
    obtain rfl := Array.mem_singleton.mp (Array.mem_of_getElem? hh)
    exact ⟨Nat.one_pos, nofun⟩

/-- The tree of a text lies in the text, and the trees in it lie one behind the other. -/
theorem row_parse (table : Table) (text : Input) : Row 0 [parse table text] text.size := by
  have hfollow : Ends ⟨table, text⟩ Session.start (follow (64 * text.size + 4096))
      fun _ s' => s'.Sound text.size := ends_follow Session.sound_start
  unfold Ends at hfollow
  unfold parse
  dsimp only
  generalize (StateT.run (ReaderT.run (follow _) _) _).2 = final at hfollow ⊢
  cases hfinished : final.finished with
  | none =>
      rw [Option.getD_none]
      exact (Subtree.rests_branch (.nil (Nat.zero_le text.size))).row
  | some t => exact hfollow.finished t hfinished

end ScriptLint.Parse
