import ScriptLint.Validator.Basic

namespace ScriptLint

open ScriptLint.Script

/-! Validation under a time limit. A worker validates on a thread of its own and hands over
its result once, on a channel with room for one; the caller takes the result from the
channel or gives up when its time is over. The events of both can come in any order. -/

structure Request where
  script : Script
  outputs : List Socket
  inputs : Option (List Socket)
  /-- The time limit in milliseconds. -/
  limit : Nat

def Request.ofText (text : List Char) (outputs : List Socket)
    (inputs : Option (List Socket)) (limit : Nat) : Request :=
  ⟨.ofText text, outputs, inputs, limit⟩

/-! ### Channels -/

/-- A channel with room for one result, and whether someone holds its ends. -/
structure Channel where
  slot : Option Result
  sender : Bool
  receiver : Bool
  deriving DecidableEq, Inhabited, Repr

namespace Channel

def fresh : Channel := ⟨none, true, true⟩

/-- Sends a result, if there is room for it. Where nobody can receive it, it is lost. -/
def send? (r : Result) (c : Channel) : Option Channel :=
  if !c.receiver then some c
  else if c.slot.isSome then none
  else some { c with slot := some r }

def dropSender (c : Channel) : Channel := { c with sender := false }

def dropReceiver (c : Channel) : Channel := { c with slot := none, receiver := false }

end Channel

/-! ### Workers and callers -/

inductive Worker where
  | reading
  | checking (left : List Check) (found : List Finding)
  /-- It leaves the checks because one of them failed. -/
  | failing (fault : CheckFault)
  | sending (r : Result)
  | ending
  | ended

/-- The findings in place of those of checks of which one failed. A fault without any would
end the thread that validates. -/
def Validator.standIn? : CheckFault → Option (List Finding)
  | .failure _ => some [internalFault]
  | .crash => some [internalFault]

inductive Reply where
  | result (r : Result)
  | timedOut
  /-- The worker has dropped its end and left nothing. -/
  | disconnected
  deriving DecidableEq, Inhabited, Repr

def timedOut (limit : Nat) : Result :=
  ⟨[{ kind := .syntaxError, severity := .error
      message := s!"Validation timed out after {limit} ms" }]⟩

def Reply.toResult (limit : Nat) : Reply → Result
  | result r => r
  | timedOut => ScriptLint.timedOut limit
  | disconnected => ⟨[internalFault]⟩

inductive Caller where
  | waiting
  /-- It has its reply and still holds its end of the channel. -/
  | leaving (a : Reply)
  | left (a : Reply)
  deriving DecidableEq, Inhabited, Repr

/-! ### One call -/

inductive Event where
  | work
  | receive
  | expire
  /-- The caller drops its end of the channel and returns. -/
  | leave
  deriving DecidableEq, Inhabited, Repr

structure Watch where
  worker : Worker
  channel : Channel
  caller : Caller

namespace Watch

def start : Watch := ⟨.reading, .fresh, .waiting⟩

def reply? (w : Watch) : Option Reply :=
  match w.caller with
  | .waiting => none
  | .leaving a | .left a => some a

def answer? (w : Watch) : Option Reply :=
  match w.caller with
  | .left a => some a
  | _ => none

def work (v : Validator) (q : Request) (w : Watch) : Watch :=
  match w.worker with
  | .reading =>
      match q.script.rejection? with
      | some r => { w with worker := .sending ⟨[r.finding]⟩ }
      | none => { w with worker := .checking v.checks [] }
  | .checking [] found => { w with worker := .sending ⟨found⟩ }
  | .checking (k :: ks) found =>
      match k.run (v.context q.script q.outputs q.inputs) with
      | .ok fs => { w with worker := .checking ks (found ++ fs) }
      | .error e => { w with worker := .failing e }
  | .failing e =>
      match Validator.standIn? e with
      | some fs => { w with worker := .sending ⟨fs⟩ }
      | none => { w with worker := .ending }
  | .sending r =>
      match w.channel.send? r with
      | some c => { w with worker := .ending, channel := c }
      | none => w
  | .ending => { w with worker := .ended, channel := w.channel.dropSender }
  | .ended => w

def receive (w : Watch) : Watch :=
  match w.caller, w.channel.slot with
  | .waiting, some r =>
      { w with channel := { w.channel with slot := none }, caller := .leaving (.result r) }
  | .waiting, none =>
      if w.channel.sender then w else { w with caller := .leaving .disconnected }
  | _, _ => w

def expire (w : Watch) : Watch :=
  match w.caller with
  | .waiting => { w with caller := .leaving .timedOut }
  | _ => w

def leave (w : Watch) : Watch :=
  match w.caller with
  | .leaving a => { w with channel := w.channel.dropReceiver, caller := .left a }
  | _ => w

def step (v : Validator) (q : Request) (w : Watch) : Event → Watch
  | .work => w.work v q
  | .receive => w.receive
  | .expire => w.expire
  | .leave => w.leave

def run (v : Validator) (q : Request) (events : List Event) : Watch :=
  events.foldl (step v q) start

end Watch

namespace Validator

/-- How often a worker has to be called on until it has sent its result. -/
def workload (v : Validator) : Nat := v.checks.length + 3

/-- The order of events when all that a worker does takes `duration` milliseconds. -/
def schedule (v : Validator) (duration limit : Nat) : List Event :=
  if duration < limit then List.replicate v.workload .work ++ [.receive, .leave]
  else [.expire, .leave]

def judgeWithin (v : Validator) (limit : Nat) (s : Script) (outputs : List Socket)
    (inputs : Option (List Socket)) : Result :=
  let w := Watch.run v ⟨s, outputs, inputs, limit⟩
    (v.schedule (v.duration s outputs inputs) limit)
  (w.answer?.getD .timedOut).toResult limit

def validateWithin (v : Validator) (limit : Nat) (text : List Char) (outputs : List Socket)
    (inputs : Option (List Socket)) : Result :=
  v.judgeWithin limit (.ofText text) outputs inputs

def validateGuarded (v : Validator) (text : List Char) (outputs : List Socket)
    (inputs : Option (List Socket)) : Result :=
  match v.timeout with
  | some limit => v.validateWithin limit text outputs inputs
  | none => v.validate text outputs inputs

end Validator

end ScriptLint
