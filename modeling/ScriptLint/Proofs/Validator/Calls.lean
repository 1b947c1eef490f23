import ScriptLint.Proofs.Validator.Watch

namespace ScriptLint

open ScriptLint.Script

/-! Several calls under time limits on one validator. Each has a worker, a channel and a
caller of its own, and the events of all of them can come in any order. -/

/-- A validator and the calls on it so far, the oldest first. -/
structure Calls where
  validator : Validator
  made : List (Request × Watch)

/-- What happens next: a new call, or an event of the call with the number. -/
inductive Move where
  | call (q : Request)
  | event (i : Nat) (e : Event)

/-- The event of a move, if it is one of the call with the number. -/
def Move.eventOf? (i : Nat) : Move → Option Event
  | call _ => none
  | event j e => if j = i then some e else none

def eventsOf (i : Nat) (moves : List Move) : List Event :=
  moves.filterMap (Move.eventOf? i)

theorem eventsOf_append (i : Nat) (before after : List Move) :
    eventsOf i (before ++ after) = eventsOf i before ++ eventsOf i after :=
  List.filterMap_append

theorem eventsOf_event_cons (i : Nat) (e : Event) (moves : List Move) :
    eventsOf i (.event i e :: moves) = e :: eventsOf i moves := by
  simp [eventsOf, Move.eventOf?]

theorem eventsOf_map_event (i : Nat) (events : List Event) :
    eventsOf i (events.map (.event i)) = events := by
  induction events with
  | nil => rfl
  | cons e events ih => rw [List.map_cons, eventsOf_event_cons, ih]

theorem eventsOf_event_cons_of_ne {i j : Nat} (hj : j ≠ i) (e : Event)
    (moves : List Move) : eventsOf i (.event j e :: moves) = eventsOf i moves := by
  simp [eventsOf, Move.eventOf?, hj]

namespace Calls

def start (v : Validator) : Calls := ⟨v, []⟩

def step (s : Calls) : Move → Calls
  | .call q => { s with made := s.made ++ [(q, .start)] }
  | .event i e =>
      { s with made := s.made.modify i fun c => (c.1, c.2.step s.validator c.1 e) }

def run (v : Validator) (moves : List Move) : Calls := moves.foldl step (start v)

variable {s : Calls} {q : Request} {w : Watch} {i : Nat}

theorem step_validator (s : Calls) (m : Move) : (s.step m).validator = s.validator := by
  cases m <;> rfl

theorem foldl_validator (s : Calls) (moves : List Move) :
    (moves.foldl step s).validator = s.validator := by
  induction moves generalizing s with
  | nil => rfl
  | cons m moves ih => exact (ih _).trans (step_validator s m)

@[simp] theorem run_validator (v : Validator) (moves : List Move) :
    (run v moves).validator = v :=
  foldl_validator (start v) moves

/-! ### Calls do not meddle with each other -/

theorem step_call_made (h : s.made[i]? = some (q, w)) (p : Request) :
    (s.step (.call p)).made[i]? = some (q, w) := by
  have hi : i < s.made.length := (List.getElem?_eq_some_iff.mp h).1
  simpa [step, List.getElem?_append_left hi] using h

theorem step_event_made (h : s.made[i]? = some (q, w)) (e : Event) :
    (s.step (.event i e)).made[i]? = some (q, w.step s.validator q e) := by
  simp [step, h]

theorem step_event_made_of_ne (h : s.made[i]? = some (q, w)) {j : Nat} (hj : j ≠ i)
    (e : Event) : (s.step (.event j e)).made[i]? = some (q, w) := by
  simp [step, hj, h]

/-- A call goes through its own events, whatever else happens in between. -/
theorem foldl_made (h : s.made[i]? = some (q, w)) (moves : List Move) :
    (moves.foldl step s).made[i]? =
      some (q, (eventsOf i moves).foldl (Watch.step s.validator q) w) := by
  induction moves generalizing s w with
  | nil => exact h
  | cons m moves ih =>
      cases m with
      | call p => exact ih (step_call_made h p)
      | event j e =>
          by_cases hj : j = i
          · subst hj
            rw [eventsOf_event_cons]
            exact ih (step_event_made h e)
          · rw [eventsOf_event_cons_of_ne hj]
            exact ih (step_event_made_of_ne h hj e)

/-- Neither the calls before it nor what else happens after it play a part in a call. -/
theorem run_made (v : Validator) (q : Request) (before after : List Move) :
    (run v (before ++ .call q :: after)).made[(run v before).made.length]? =
      some (q, Watch.run v q (eventsOf (run v before).made.length after)) := by
  have hcall : ((run v before).step (.call q)).made[(run v before).made.length]? =
      some (q, .start) := by
    simp [step]
  have hafter := foldl_made hcall after
  rw [step_validator, run_validator] at hafter
  rw [run, List.foldl_append]
  exact hafter

theorem run_made_append (v : Validator) (q : Request) (before after later : List Move) :
    (run v (before ++ .call q :: (after ++ later))).made[(run v before).made.length]? =
      some (q, (eventsOf (run v before).made.length later).foldl (Watch.step v q)
        (Watch.run v q (eventsOf (run v before).made.length after))) := by
  rw [run_made, eventsOf_append, Watch.run_append]

/-! ### What a call returns -/

/-- Whatever calls are made on a validator and in whatever order their events come, none of
them changes the validator, and each returns with what the validator gives without a limit
or with the one finding that its time was over. Its channel closes only after it took the
result, and what is sent after the time was over is gone with the channel: it never becomes
the answer. -/
theorem result_of_call (v : Validator) (text : List Char) (outputs : List Socket)
    (inputs : Option (List Socket)) (limit : Nat) (before after : List Move) :
    let q := Request.ofText text outputs inputs limit
    let i := (run v before).made.length
    let w := Watch.run v q (eventsOf i after)
    let late : Result := ⟨[{
      kind := .syntaxError, severity := .error, line := none, column := none
      message := "Validation timed out after " ++ toString limit ++ " ms" }]⟩
    let callAfter? (later : List Move) :=
      (run v (before ++ .call q :: (after ++ later))).made[i]?
    (run v (before ++ .call q :: after)).validator = v ∧
    (run v (before ++ .call q :: after)).made[i]? = some (q, w) ∧
    (∀ r, w.result? limit = some r → r = v.validate text outputs inputs ∨ r = late) ∧
    w.reply? ≠ some .disconnected ∧
    (w.channel.sender = false → ∃ front back, eventsOf i after = front ++ .work :: back ∧
      (Watch.run v q front).channel.sender = true ∧
      (Watch.run v q front).channel.send? (v.validate text outputs inputs) =
        some (Watch.run v q (front ++ [.work])).channel) ∧
    (w.caller = .waiting →
      (∃ later w', callAfter? later = some (q, w') ∧
        w'.result? limit = some (v.validate text outputs inputs)) ∧
      ∀ later, .leave ∈ eventsOf i later →
        ∃ w', callAfter? (.event i .expire :: later) = some (q, w') ∧
          w'.result? limit = some late ∧ w'.channel.slot = none) ∧
    (∀ r, w.result? limit = some r → ∀ later, ∃ w', callAfter? later = some (q, w') ∧
      w'.result? limit = some r ∧ w'.channel.slot = none) ∧
    (v.validateWithin limit text outputs inputs = v.validate text outputs inputs ∨
      v.validateWithin limit text outputs inputs = late) := by
  intro q i w late callAfter?
  have hsound : w.Sound v q := Watch.sound_run v q _
  have hafter (later : List Move) :
      callAfter? later = some (q, (eventsOf i later).foldl (Watch.step v q) w) :=
    run_made_append v q before after later
  refine ⟨run_validator v _, run_made v q before after, fun r => hsound.result?_cases,
    hsound.reply?_ne_disconnected, ?_, ?_, ?_, ?_⟩
  · intro hsender
    exact Watch.exists_send v q _ (hsound.sender hsender ▸ trivial)
  · intro hwaiting
    constructor
    · let events :=
        List.replicate (w.worker.distance v) Event.work ++ [Event.receive, Event.leave]
      refine ⟨events.map (.event i), _, hafter _, ?_⟩
      rw [eventsOf_map_event, Watch.foldl_work_receive_leave, Watch.result?,
        hsound.answer?_of_work hwaiting (Nat.le_refl _)]
      rfl
    · intro later hleave
      refine ⟨_, hafter _, ?_⟩
      rw [eventsOf_event_cons]
      exact hsound.foldl_result?_of_expire hwaiting limit hleave
  · intro r hr later
    exact ⟨_, hafter later, hsound.foldl_result? hr _⟩
  · rw [Validator.validateWithin, Validator.judgeWithin_eq]
    split
    · exact .inl rfl
    · exact .inr rfl

end Calls

end ScriptLint
