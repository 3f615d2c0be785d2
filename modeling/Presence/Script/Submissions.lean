import Presence.Clock
import Presence.Script.Reply

/-!
Scripts on the queue of presence events. A submission in the background holds a sender of its own,
so it continues after the script has dropped its sender.
-/

namespace Presence.Script.Submissions

inductive Step
  | trySubmit (e : Event)
  | submit (e : Event)
  | submitInBackground (label : String) (e : Event)
  | result (label : String)
  | receive
  | closeReceiver
  | dropReceiver
  | dropSender
  | advance (time : Duration)
  | counts

/-- A submission: when it was made and, once it has returned, how and when. -/
structure Submission where
  started : Instant
  ended : Option (Bool × Instant)

structure State where
  /-- The queue; producers are the numbers of submissions. -/
  queue : Queue Nat
  now : Instant
  submissions : List Submission
  labels : Table String Nat
  receiving : Bool
  sending : Bool

def start? (capacity : Nat) (wait : Duration) : Option State :=
  (Queue.create? capacity wait).map fun q => ⟨q, 0, [], .empty, true, true⟩

/-- Records the result of a submission. -/
def State.answer (s : State) (n : Nat) (accepted : Bool) : State :=
  { s with submissions := s.submissions.modify n fun b => { b with ended := some (accepted, s.now) } }

/-- All waiting producers that must drop their events do so. -/
def State.giveUps : (fuel : Nat) → State → State
  | 0, s => s
  | fuel + 1, s =>
    match s.queue.giveUp? s.now with
    | none => s
    | some (w, queue) => State.giveUps fuel (State.answer { s with queue } w.producer false)

/-- All that happens without time passing. -/
def State.settle (s : State) : State := s.giveUps (s.queue.waiting.length + 1)

/-- Makes a submission; returns its number. -/
def State.submit (s : State) (e : Event) : Nat × State :=
  let n := s.submissions.length
  let (outcome, queue) := s.queue.submit n e s.now
  let s := { s with queue, submissions := s.submissions ++ [Submission.mk s.now none] }
  (n, match outcome with
    | .accepted => s.answer n true
    | .dropped => s.answer n false
    | .waiting => s.settle)

/-- Advances the clock; every deadline up to the target is met at its own moment. -/
def State.advanceTo (s : State) (stop : Instant) : State :=
  Clock.runUntil (fun s => (s.queue.waiting.map Waiter.deadline).min?)
    (fun t s => State.settle { s with now := t }) stop (s.queue.waiting.length + 1) s

def State.reply (s : State) (n : Nat) : Reply :=
  match s.submissions[n]? with
  | some ⟨started, some (accepted, ended)⟩ =>
    .submitted accepted (Duration.ofNanos (ended - started)).millis
  | some ⟨_, none⟩ => .pending
  | none => .nothing

/-- Whether a sender is left: the script's, or that of a pending submission. -/
def State.hasSender (s : State) : Bool := s.sending || !s.queue.waiting.isEmpty

def step (s : State) : Step → Reply × State
  | .trySubmit e =>
    if s.sending then
      let (ok, queue) := s.queue.trySubmit e
      (.flag ok, { s with queue })
    else (.trouble .noSender, s)
  | .submit e =>
    if s.sending then
      let (n, s) := s.submit e
      -- A submission that waits is over at its deadline, or sooner.
      let s := match s.queue.waiting.find? (·.producer = n) with
        | some w => s.advanceTo w.deadline
        | none => s
      (s.reply n, s)
    else (.trouble .noSender, s)
  | .submitInBackground label e =>
    if s.sending then
      let (n, s) := s.submit e
      (.nothing, { s with labels := s.labels.insert label n })
    else (.trouble .noSender, s)
  | .result label =>
    match s.labels.get? label with
    | some n => (s.reply n, s)
    | none => (.nothing, s)
  | .receive =>
    if s.receiving then
      match s.queue.take? with
      | some (e, promoted, queue) =>
        let s := { s with queue }
        (.event e.user e.kind, match promoted with
          | some w => s.answer w.producer true
          | none => s)
      | none => (if s.hasSender && s.queue.events.isOpen then .empty else .disconnected, s)
    else (.trouble .noReceiver, s)
  | .closeReceiver =>
    if s.receiving then (.nothing, { s with queue := s.queue.close }.settle)
    else (.trouble .noReceiver, s)
  | .dropReceiver => (.flag s.receiving, { s with queue := s.queue.hangUp, receiving := false }.settle)
  | .dropSender => (.flag s.sending, { s with sending := false })
  | .advance d => (.nothing, s.advanceTo (s.now + d.nanos))
  | .counts => (.counts [s.queue.accepted, s.queue.dropped], s)

end Presence.Script.Submissions
