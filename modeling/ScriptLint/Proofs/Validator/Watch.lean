import Mathlib.Data.List.Induction
import ScriptLint.Proofs.Validator.Verdict
import ScriptLint.Validator.Watch

namespace ScriptLint

open ScriptLint.Script

/-! One call under a time limit: what every order of its events keeps. -/

variable {v : Validator} {q : Request} {w : Watch}

def Request.result (v : Validator) (q : Request) : Result :=
  v.judge q.script q.outputs q.inputs

namespace Request

def context (v : Validator) (q : Request) : Context :=
  v.context q.script q.outputs q.inputs

theorem result_of_rejection {r : Rejection} (hr : q.script.rejection? = some r) :
    q.result v = ⟨[r.finding]⟩ :=
  Validator.judge_of_rejection hr

theorem result_of_ok {fs : List Finding} (hs : q.script.rejection? = none)
    (hrun : Check.runAll (q.context v) v.checks = .ok fs) : q.result v = ⟨fs⟩ :=
  Validator.judge_of_runAll_ok hs hrun

theorem result_of_error {e : CheckFault} (hs : q.script.rejection? = none)
    (hrun : Check.runAll (q.context v) v.checks = .error e) :
    q.result v = ⟨[internalFault]⟩ :=
  Validator.judge_of_runAll_error hs hrun

end Request

/-- Validation lets no fault through. -/
theorem Validator.standIn?_eq (e : CheckFault) : standIn? e = some [internalFault] := by
  cases e <;> rfl

def Watch.result? (limit : Nat) (w : Watch) : Option Result :=
  w.answer?.map (Reply.toResult limit)

/-! ### Workers -/

namespace Worker

/-- What a worker has done so far leads to the result. -/
def LeadsTo (v : Validator) (q : Request) : Worker → Prop
  | reading => True
  | checking left found =>
      q.script.rejection? = none ∧
        Check.runAll (q.context v) v.checks =
          (Check.runAll (q.context v) left).map (found ++ ·)
  | failing e =>
      q.script.rejection? = none ∧ Check.runAll (q.context v) v.checks = .error e
  | sending r => r = q.result v
  | ending => True
  | ended => True

/-- Whether a worker has done its part, and has its end of the channel to drop at most. -/
def IsDone : Worker → Prop
  | ending | ended => True
  | _ => False

/-- How many steps it takes at most until the worker is done. -/
def distance (v : Validator) : Worker → Nat
  | reading => v.workload
  | checking left _ => left.length + 2
  | failing _ => 2
  | sending _ => 1
  | ending => 0
  | ended => 0

theorem isDone_of_distance {k : Worker} (h : k.distance v = 0) : k.IsDone := by
  cases k with
  | ending | ended => trivial
  | _ => simp [distance, Validator.workload] at h

end Worker

/-! ### States -/

namespace Watch

/-- What holds of a call at any time. -/
structure Sound (v : Validator) (q : Request) (w : Watch) : Prop where
  worker : w.worker.LeadsTo v q
  /-- Only the result is ever on its way. -/
  slot : ∀ r, w.channel.slot = some r → r = q.result v
  /-- Nothing is in the channel before the worker sends, so it never waits for room. -/
  unsent : ¬ w.worker.IsDone → w.channel.slot = none
  sender : w.channel.sender = false → w.worker = .ended
  receiver : w.channel.receiver = false ↔ ∃ a, w.caller = .left a
  /-- What nobody can receive is gone. -/
  dropped : w.channel.receiver = false → w.channel.slot = none
  /-- The worker is not done before the result lies ready for a caller that waits. -/
  delivered : w.worker.IsDone → w.caller = .waiting → w.channel.slot = some (q.result v)
  reply : ∀ a, w.reply? = some a → a = .result (q.result v) ∨ a = .timedOut

theorem sound_start : start.Sound v q where
  worker := trivial
  slot := nofun
  unsent _ := rfl
  sender := nofun
  receiver := by simp [start, Channel.fresh]
  dropped _ := rfl
  delivered := nofun
  reply := nofun

/-- A worker that is not done and not sending changes nothing but itself. -/
theorem Sound.withWorker (h : w.Sound v q) {k : Worker} (hdone : ¬ w.worker.IsDone)
    (hk : k.LeadsTo v q) (hkdone : ¬ k.IsDone) : Sound v q { w with worker := k } where
  worker := hk
  slot := h.slot
  unsent _ := h.unsent hdone
  sender hsender := absurd (h.sender hsender ▸ trivial) hdone
  receiver := h.receiver
  dropped := h.dropped
  delivered hisDone := absurd hisDone hkdone
  reply := h.reply

theorem Sound.sender_eq_true (h : w.Sound v q) (hdone : ¬ w.worker.IsDone) :
    w.channel.sender = true := by
  cases hs : w.channel.sender with
  | true => rfl
  | false => exact absurd (h.sender hs ▸ trivial) hdone

theorem Sound.send (h : w.Sound v q) {r : Result} (hr : w.worker = .sending r) :
    ∃ c, w.channel.send? r = some c ∧
      Sound v q { w with worker := .ending, channel := c } := by
  have hdone : ¬ w.worker.IsDone := by simp [hr, Worker.IsDone]
  have hresult : r = q.result v := by
    have hworker := h.worker
    rwa [hr] at hworker
  have hsender := h.sender_eq_true hdone
  cases hreceiver : w.channel.receiver with
  | false =>
      refine ⟨w.channel, by simp [Channel.send?, hreceiver], ?_⟩
      obtain ⟨a, ha⟩ := h.receiver.mp hreceiver
      exact {
        worker := trivial
        slot := h.slot
        unsent := fun hnot => absurd trivial hnot
        sender := fun hs => absurd (hsender.symm.trans hs) (by simp)
        receiver := h.receiver
        dropped := h.dropped
        delivered := fun _ hwaiting => by simp [ha] at hwaiting
        reply := h.reply }
  | true =>
      refine ⟨{ w.channel with slot := some r }, by
        simp [Channel.send?, hreceiver, h.unsent hdone], ?_⟩
      exact {
        worker := trivial
        slot := fun r' hr' => by rw [← Option.some.inj hr', hresult]
        unsent := fun hnot => absurd trivial hnot
        sender := fun hs => absurd (hsender.symm.trans hs) (by simp)
        receiver := h.receiver
        dropped := fun hgone => absurd (hreceiver.symm.trans hgone) (by simp)
        delivered := fun _ _ => by rw [hresult]
        reply := h.reply }

/-- Each step of the worker keeps what holds. -/
theorem Sound.work (h : w.Sound v q) : (w.work v q).Sound v q := by
  have hworker := h.worker
  unfold Watch.work
  cases hk : w.worker with
  | reading =>
      have hdone : ¬ w.worker.IsDone := by simp [hk, Worker.IsDone]
      cases hs : q.script.rejection? with
      | some r =>
          exact h.withWorker hdone (Request.result_of_rejection hs).symm id
      | none =>
          refine h.withWorker hdone ⟨hs, ?_⟩ id
          cases Check.runAll (q.context v) v.checks <;> rfl
  | checking left found =>
      have hdone : ¬ w.worker.IsDone := by simp [hk, Worker.IsDone]
      rw [hk] at hworker
      obtain ⟨hs, hrun⟩ := hworker
      cases left with
      | nil =>
          refine h.withWorker hdone (Eq.symm ?_) id
          refine Request.result_of_ok hs (hrun.trans ?_)
          simp [Check.runAll, Except.map]
      | cons c cs =>
          dsimp only
          cases hc : c.run (v.context q.script q.outputs q.inputs) with
          | ok fs =>
              refine h.withWorker hdone ⟨hs, hrun.trans ?_⟩ id
              rw [Check.runAll, Request.context, hc]
              cases Check.runAll (v.context q.script q.outputs q.inputs) cs <;>
                simp [Except.map]
          | error e =>
              refine h.withWorker hdone ⟨hs, hrun.trans ?_⟩ id
              rw [Check.runAll, Request.context, hc]
              rfl
  | failing e =>
      have hdone : ¬ w.worker.IsDone := by simp [hk, Worker.IsDone]
      rw [hk] at hworker
      simp only [Validator.standIn?_eq]
      exact h.withWorker hdone (Request.result_of_error hworker.1 hworker.2).symm id
  | sending r =>
      obtain ⟨c, hc, hsound⟩ := h.send hk
      simp only [hc]
      exact hsound
  | ending =>
      have hdone : w.worker.IsDone := by simp [hk, Worker.IsDone]
      exact {
        worker := trivial
        slot := h.slot
        unsent := fun hnot => absurd trivial hnot
        sender := fun _ => rfl
        receiver := h.receiver
        dropped := h.dropped
        delivered := fun _ => h.delivered hdone
        reply := h.reply }
  | ended => exact h

/-- The caller never finds the channel closed before it has the result. -/
theorem Sound.receive (h : w.Sound v q) : w.receive.Sound v q := by
  unfold Watch.receive
  split
  · rename_i r hwaiting hslot
    have hresult := h.slot r hslot
    exact {
      worker := h.worker
      slot := nofun
      unsent := fun _ => rfl
      sender := h.sender
      receiver := by simpa [hwaiting] using h.receiver
      dropped := fun _ => rfl
      delivered := nofun
      reply := fun a ha => .inl (by rw [← Option.some.inj ha, hresult]) }
  · rename_i hwaiting hslot
    split
    · exact h
    · rename_i hsender
      have hended := h.sender (by simpa using hsender)
      have hready := h.delivered (by rw [hended]; trivial) hwaiting
      rw [hslot] at hready
      cases hready
  · exact h

theorem Sound.expire (h : w.Sound v q) : w.expire.Sound v q := by
  unfold Watch.expire
  split
  · rename_i hwaiting
    exact {
      worker := h.worker
      slot := h.slot
      unsent := h.unsent
      sender := h.sender
      receiver := by simpa [hwaiting] using h.receiver
      dropped := h.dropped
      delivered := nofun
      reply := fun a ha => .inr (Option.some.inj ha).symm }
  · exact h

theorem Sound.leave (h : w.Sound v q) : w.leave.Sound v q := by
  unfold Watch.leave
  split
  · rename_i a hleaving
    exact {
      worker := h.worker
      slot := nofun
      unsent := fun _ => rfl
      sender := h.sender
      receiver := by simp [Channel.dropReceiver]
      dropped := fun _ => rfl
      delivered := nofun
      reply := fun b hb => h.reply b (by simpa [reply?, hleaving] using hb) }
  · exact h

theorem Sound.step (h : w.Sound v q) (e : Event) : (w.step v q e).Sound v q := by
  cases e with
  | work => exact h.work
  | receive => exact h.receive
  | expire => exact h.expire
  | leave => exact h.leave

theorem foldl_sound (events : List Event) (h : w.Sound v q) :
    (events.foldl (Watch.step v q) w).Sound v q := by
  induction events generalizing w with
  | nil => exact h
  | cons e events ih => exact ih (h.step e)

/-- Whatever the order of events, what holds at the start holds always. -/
theorem sound_run (v : Validator) (q : Request) (events : List Event) :
    (run v q events).Sound v q :=
  foldl_sound events sound_start

/-! ### What stays -/

@[simp] theorem work_caller (v : Validator) (q : Request) (w : Watch) :
    (w.work v q).caller = w.caller := by
  unfold Watch.work
  repeat' split
  all_goals rfl

theorem receive_worker (w : Watch) : w.receive.worker = w.worker := by
  unfold Watch.receive
  repeat' split
  all_goals rfl

theorem expire_worker (w : Watch) : w.expire.worker = w.worker := by
  unfold Watch.expire
  split <;> rfl

theorem leave_worker (w : Watch) : w.leave.worker = w.worker := by
  unfold Watch.leave
  split <;> rfl

theorem answer?_eq_some {a : Reply} : w.answer? = some a ↔ w.caller = .left a := by
  cases hc : w.caller <;> simp [answer?, hc]

theorem reply?_of_answer? {a : Reply} (h : w.answer? = some a) : w.reply? = some a := by
  simp [reply?, answer?_eq_some.mp h]

theorem reply?_step {a : Reply} (h : w.reply? = some a) (e : Event) :
    (w.step v q e).reply? = some a := by
  cases e with
  | work => simpa [step, reply?] using h
  | receive | expire | leave =>
      cases hc : w.caller <;>
        simp_all [step, Watch.receive, Watch.expire, Watch.leave, reply?]

theorem answer?_step {a : Reply} (h : w.answer? = some a) (e : Event) :
    (w.step v q e).answer? = some a := by
  rw [answer?_eq_some] at h ⊢
  cases e with
  | work => simpa [step] using h
  | receive | expire | leave => simp [step, Watch.receive, Watch.expire, Watch.leave, h]

theorem foldl_reply? {a : Reply} (events : List Event) (h : w.reply? = some a) :
    (events.foldl (step v q) w).reply? = some a := by
  induction events generalizing w with
  | nil => exact h
  | cons e events ih => exact ih (reply?_step h e)

theorem foldl_answer? {a : Reply} (events : List Event) (h : w.answer? = some a) :
    (events.foldl (step v q) w).answer? = some a := by
  induction events generalizing w with
  | nil => exact h
  | cons e events ih => exact ih (answer?_step h e)

theorem run_append (v : Validator) (q : Request) (before after : List Event) :
    run v q (before ++ after) = after.foldl (step v q) (run v q before) :=
  List.foldl_append

theorem run_concat (v : Validator) (q : Request) (before : List Event) (e : Event) :
    run v q (before ++ [e]) = (run v q before).step v q e :=
  run_append v q before [e]

/-- Once the caller has returned, the channel holds nothing that it could still take. -/
theorem Sound.slot_of_answer? (h : w.Sound v q) {a : Reply} (ha : w.answer? = some a) :
    w.channel.slot = none :=
  h.dropped (h.receiver.mpr ⟨a, answer?_eq_some.mp ha⟩)

theorem Sound.reply?_ne_disconnected (h : w.Sound v q) :
    w.reply? ≠ some .disconnected := by
  intro hreply
  rcases h.reply _ hreply with h | h <;> cases h

theorem Sound.result?_cases (h : w.Sound v q) {limit : Nat} {r : Result}
    (hr : w.result? limit = some r) : r = q.result v ∨ r = timedOut limit := by
  obtain ⟨a, ha, rfl⟩ := Option.map_eq_some_iff.mp hr
  rcases h.reply a (reply?_of_answer? ha) with rfl | rfl
  · exact .inl rfl
  · exact .inr rfl

/-- Nothing that happens afterwards changes what a call has returned with. -/
theorem Sound.foldl_result? (h : w.Sound v q) {limit : Nat} {r : Result}
    (hr : w.result? limit = some r) (events : List Event) :
    (events.foldl (Watch.step v q) w).result? limit = some r ∧
      (events.foldl (Watch.step v q) w).channel.slot = none := by
  obtain ⟨a, ha, hresult⟩ := Option.map_eq_some_iff.mp hr
  have hanswer := foldl_answer? (v := v) (q := q) events ha
  refine ⟨?_, (foldl_sound events h).slot_of_answer? hanswer⟩
  rw [result?, hanswer, Option.map_some, hresult]

/-! ### What comes to pass -/

theorem reply?_expire (h : w.caller = .waiting) : w.expire.reply? = some .timedOut := by
  simp [Watch.expire, reply?, h]

theorem answer?_leave {a : Reply} (h : w.reply? = some a) : w.leave.answer? = some a := by
  cases hc : w.caller <;> simp_all [Watch.leave, reply?, answer?]

/-- What a caller has learned it returns when it leaves, whatever else happens. -/
theorem foldl_answer?_of_leave {a : Reply} {events : List Event} (h : w.reply? = some a)
    (hleave : .leave ∈ events) : (events.foldl (step v q) w).answer? = some a := by
  obtain ⟨before, after, rfl⟩ := List.mem_iff_append.mp hleave
  rw [List.foldl_append]
  exact foldl_answer? after (answer?_leave (foldl_reply? before h))

/-- Once its time is over, a call returns with nothing else than that, and the channel is
empty. -/
theorem Sound.foldl_result?_of_expire (h : w.Sound v q) (hwaiting : w.caller = .waiting)
    (limit : Nat) {events : List Event} (hleave : .leave ∈ events) :
    (events.foldl (Watch.step v q) w.expire).result? limit = some (timedOut limit) ∧
      (events.foldl (Watch.step v q) w.expire).channel.slot = none := by
  have hanswer : (events.foldl (Watch.step v q) w.expire).answer? = some .timedOut :=
    foldl_answer?_of_leave (reply?_expire hwaiting) hleave
  refine ⟨?_, (foldl_sound events h.expire).slot_of_answer? hanswer⟩
  rw [result?, hanswer]
  rfl

/-- A step brings a worker that is not done nearer to its end. -/
theorem Sound.distance_work (h : w.Sound v q) (hdone : ¬ w.worker.IsDone) :
    (w.work v q).worker.distance v < w.worker.distance v := by
  unfold Watch.work
  cases hk : w.worker with
  | reading =>
      cases q.script.rejection? <;> simp [Worker.distance, Validator.workload]
  | checking left found =>
      cases left with
      | nil => simp [Worker.distance]
      | cons c cs =>
          dsimp only
          cases c.run (v.context q.script q.outputs q.inputs) <;>
            simp [Worker.distance]
  | failing e => simp [Validator.standIn?_eq, Worker.distance]
  | sending r =>
      obtain ⟨c, hc, -⟩ := h.send hk
      simp [hc, Worker.distance]
  | ending | ended =>
      rw [hk] at hdone
      exact absurd trivial hdone

theorem isDone_work (h : w.worker.IsDone) : (w.work v q).worker.IsDone := by
  unfold Watch.work
  cases hk : w.worker with
  | ending | ended => simp_all [Worker.IsDone]
  | _ => simp [hk, Worker.IsDone] at h

def afterWork (v : Validator) (q : Request) (w : Watch) : Nat → Watch
  | 0 => w
  | n + 1 => (w.work v q).afterWork v q n

theorem foldl_replicate_work (v : Validator) (q : Request) (w : Watch) (n : Nat) :
    (List.replicate n .work).foldl (step v q) w = w.afterWork v q n := by
  induction n generalizing w with
  | zero => rfl
  | succ n ih => exact ih _

theorem afterWork_caller (v : Validator) (q : Request) (w : Watch) (n : Nat) :
    (w.afterWork v q n).caller = w.caller := by
  induction n generalizing w with
  | zero => rfl
  | succ n ih => exact (ih _).trans (work_caller v q w)

theorem isDone_afterWork (h : w.worker.IsDone) (n : Nat) :
    (w.afterWork v q n).worker.IsDone := by
  induction n generalizing w with
  | zero => exact h
  | succ n ih => exact ih (isDone_work h)

theorem Sound.afterWork (h : w.Sound v q) (n : Nat) : (w.afterWork v q n).Sound v q := by
  induction n generalizing w with
  | zero => exact h
  | succ n ih => exact ih h.work

theorem Sound.isDone_of_distance (h : w.Sound v q) {n : Nat}
    (hn : w.worker.distance v ≤ n) : (w.afterWork v q n).worker.IsDone := by
  induction n generalizing w with
  | zero => exact Worker.isDone_of_distance (Nat.le_zero.mp hn)
  | succ n ih =>
      by_cases hdone : w.worker.IsDone
      · exact isDone_afterWork hdone (n + 1)
      · exact ih h.work (Nat.le_of_lt_succ (Nat.lt_of_lt_of_le (h.distance_work hdone) hn))

theorem foldl_work_receive_leave (v : Validator) (q : Request) (w : Watch) (n : Nat) :
    (List.replicate n Event.work ++ [Event.receive, Event.leave]).foldl (step v q) w =
      (w.afterWork v q n).receive.leave := by
  rw [List.foldl_append, foldl_replicate_work]
  rfl

/-- While the time of the caller lasts, the worker can still come to its end, and then the
caller returns with the result. -/
theorem Sound.answer?_of_work (h : w.Sound v q) (hwaiting : w.caller = .waiting) {n : Nat}
    (hn : w.worker.distance v ≤ n) :
    (w.afterWork v q n).receive.leave.answer? = some (.result (q.result v)) := by
  have hcaller : (w.afterWork v q n).caller = .waiting :=
    (afterWork_caller v q w n).trans hwaiting
  have hslot := (h.afterWork n).delivered (h.isDone_of_distance hn) hcaller
  simp [Watch.receive, Watch.leave, answer?, hcaller, hslot]

/-! ### What came before -/

theorem step_worker {e : Event} (he : e ≠ .work) : (w.step v q e).worker = w.worker := by
  cases e with
  | work => exact absurd rfl he
  | receive => exact receive_worker w
  | expire => exact expire_worker w
  | leave => exact leave_worker w

/-- Only by sending the result does a worker come to be done. -/
theorem Sound.send_of_isDone_work (h : w.Sound v q) (hdone : ¬ w.worker.IsDone)
    (hnext : (w.work v q).worker.IsDone) :
    w.channel.send? (q.result v) = some (w.work v q).channel := by
  have hworker := h.worker
  unfold Watch.work at hnext ⊢
  cases hk : w.worker with
  | reading =>
      cases hs : q.script.rejection? <;> simp [hk, hs, Worker.IsDone] at hnext
  | checking left found =>
      cases left with
      | nil => simp [hk, Worker.IsDone] at hnext
      | cons c cs =>
          cases hc : c.run (v.context q.script q.outputs q.inputs) <;>
            simp [hk, hc, Worker.IsDone] at hnext
  | failing e => simp [hk, Validator.standIn?_eq, Worker.IsDone] at hnext
  | sending r =>
      obtain ⟨c, hc, -⟩ := h.send hk
      rw [hk] at hworker
      rw [← hworker]
      simp [hc]
  | ending | ended =>
      rw [hk] at hdone
      exact absurd trivial hdone

/-- A worker that is done has sent the result: at some step its channel took it. -/
theorem exists_send (v : Validator) (q : Request) (events : List Event)
    (h : (run v q events).worker.IsDone) :
    ∃ before after, events = before ++ .work :: after ∧
      (run v q before).channel.sender = true ∧
      (run v q before).channel.send? (q.result v) =
        some (run v q (before ++ [.work])).channel := by
  -- from the end of the events, back to the first step after which the worker is done
  induction events using List.reverseRecOn with
  | nil => exact h.elim
  | append_singleton events e ih =>
      by_cases hdone : (run v q events).worker.IsDone
      · obtain ⟨before, after, rfl, hsend⟩ := ih hdone
        exact ⟨before, after ++ [e], by simp, hsend⟩
      · have hsound := sound_run v q events
        rw [run_concat] at h
        have he : e = .work := by
          by_contra he
          rw [step_worker he] at h
          exact hdone h
        subst he
        refine ⟨events, [], rfl, hsound.sender_eq_true hdone, ?_⟩
        rw [run_concat]
        exact hsound.send_of_isDone_work hdone h

end Watch

/-! ### Validation under a limit -/

theorem Validator.judgeWithin_eq (v : Validator) (limit : Nat) (s : Script)
    (outputs : List Socket) (inputs : Option (List Socket)) :
    v.judgeWithin limit s outputs inputs =
      if v.duration s outputs inputs < limit then v.judge s outputs inputs
      else timedOut limit := by
  unfold judgeWithin schedule
  split
  · have hrun := Watch.sound_start.answer?_of_work (q := ⟨s, outputs, inputs, limit⟩) rfl
      (Nat.le_refl v.workload)
    rw [← Watch.foldl_work_receive_leave] at hrun
    simp only [Watch.run, hrun]
    rfl
  · rfl

end ScriptLint
