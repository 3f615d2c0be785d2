import Presence.Clock
import Presence.Script.Reply

/-!
Scripts on one refresh loop. The source answers from a list in order, and repeats the last answer.
-/

namespace Presence.Script.Refreshing

inductive Step
  | kind
  | start
  | once
  | advance (time : Duration)
  | cancel
  | running
  | friends (u : User)
  | members (p : Party)
  | state

structure State (kind : RefreshKind) where
  relations : Relationships
  now : Instant
  interval : Duration
  retryDelay : Duration
  answers : List (Answer (Graph kind))
  fetches : Nat
  loop : Option RefreshLoop
  cancelled : Bool

variable {kind : RefreshKind}

def start (interval retryDelay : Duration) (answers : List (Answer (Graph kind))) : State kind :=
  ⟨.empty, 0, interval, retryDelay, answers, 0, none, false⟩

/-- The next answer of the source. -/
def State.nextAnswer (s : State kind) : Answer (Graph kind) :=
  match s.answers[s.fetches]? with
  | some a => a
  | none => s.answers.getLast?.getD (.error .crashed)

/-- The next step of the loop that is enabled without time passing. -/
def State.move? (s : State kind) : Option (State kind) :=
  match s.loop with
  | none => none
  | some l =>
    if l.isStopped then none
    else if s.cancelled then some { s with loop := some l.stop }
    else
      match l.wake? s.now with
      | some l => some { s with loop := some l }
      | none =>
        (l.answer? kind s.relations s.nextAnswer s.now).map fun (l, relations) =>
          { s with loop := some l, relations, fetches := s.fetches + 1 }

/-- All that happens without time passing. -/
def State.settle : (fuel : Nat) → State kind → State kind
  | 0, s => s
  | fuel + 1, s =>
    match s.move? with
    | some s => State.settle fuel s
    | none => s

/-- A bound on the number of steps of a loop at one moment, valid unless it fails without a
pause. -/
def State.bound (s : State kind) : Nat := 2 * s.answers.length + 4

def State.advanceTo (s : State kind) (stop : Instant) : State kind :=
  Clock.runUntil (fun s => s.loop.bind RefreshLoop.due?)
    (fun t s => State.settle s.bound { s with now := max t s.now }) stop (stop - s.now + 1) s

/-- The counters of one kind. -/
def State.tally (s : State kind) (k : RefreshKind) : Nat × Nat :=
  if k = kind then s.loop.elim (0, 0) fun l => (l.ok, l.err) else (0, 0)

def act (s : State kind) : Step → Reply × State kind
  | .kind => (.text kind.text, s)
  | .start =>
    if s.loop.isSome then (.trouble .alreadyStarted, s)
    else (.nothing, { s with loop := some (.start s.interval s.retryDelay s.now) })
  | .once =>
    let (result, relations) := s.relations.absorb kind s.nextAnswer
    (match result with
      | .ok n => .count n
      | .error e => .failed e.asPresence,
      { s with relations, fetches := s.fetches + 1 })
  | .advance d => (.nothing, s.advanceTo (s.now + d.nanos))
  | .cancel => (.nothing, { s with cancelled := true })
  | .running => (s.loop.elim .nothing fun l => .flag !l.isStopped, s)
  | .friends u => (.texts ((s.relations.friendsOf u).map Name.text), s)
  | .members p => (.texts ((s.relations.membersOf p).map Name.text), s)
  | .state => (.refreshed s.fetches (s.relations.count .friends, s.relations.count .parties)
      (s.tally .friends) (s.tally .parties), s)

def step (s : State kind) (a : Step) : Reply × State kind :=
  let (reply, s) := act s a
  (reply, s.settle s.bound)

end Presence.Script.Refreshing
