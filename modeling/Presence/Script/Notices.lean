import Presence.Clock
import Presence.Script.Lines

/-!
Scripts on the dispatcher: friend lists, registered lines, and events dispatched either directly or
by a consumer of a queue. The registered handle of a line is its only one.
-/

namespace Presence.Script.Notices

inductive Step
  | friends (u : User) (list : List User)
  | register (u : User) (session : SessionId) (capacity : Nat) (label : String)
  | fill (u : User)
  | process (e : Event)
  | submit (e : Event)
  | start
  | cancel
  | dropSender
  | running
  | receive (label : String)
  | dropReceiver (label : String)
  | online (u : User)
  | lookup (u : User)
  | advance (time : Duration)
  | metrics

structure State where
  dispatch : Dispatch
  queue : Queue Unit
  now : Instant
  receivers : Table String Nat
  sending : Bool
  /-- Whether the consumer is running, once started. -/
  consumer : Option Bool
  cancelled : Bool

def flagTtl : Duration := .ofSeconds 10

def queueCapacity : Nat := 64

def overflowWait : Duration := .ofMillis 50

def start? : Option State := do
  let status ← StatusStore.create? flagTtl
  let queue ← Queue.create? queueCapacity overflowWait
  some ⟨⟨status, .empty, .empty, 0, 0, 0⟩, queue, 0, .empty, true, none, false⟩

/-- The consumer stops and closes the receiving end of the queue. -/
def State.stop (s : State) : State :=
  { s with consumer := some false, queue := s.queue.hangUp }

/-- The consumer dispatches the events of the queue. -/
def State.drain : (fuel : Nat) → State → State
  | 0, s => s
  | fuel + 1, s =>
    match s.queue.take? with
    | some (e, _, queue) =>
      State.drain fuel { s with queue, dispatch := (s.dispatch.process e s.now).2 }
    | none => if s.sending then s else s.stop

/-- All that happens without time passing. -/
def State.settle (s : State) : State :=
  if s.consumer = some true then
    if s.cancelled then s.stop
    else s.drain (s.queue.events.items.length + s.queue.waiting.length + 1)
  else s

/-- Submits an event and waits for the result. -/
def State.submit (s : State) (e : Event) : Bool × State :=
  let (outcome, queue) := s.queue.submit () e s.now
  let s := { s with queue }
  match outcome with
  | .accepted => (true, s)
  | .dropped => (false, s)
  | .waiting =>
    -- No event is received while this producer waits.
    let s := { s with now := s.now + s.queue.overflowWait }
    match s.queue.giveUp? s.now with
    | some (_, queue) => (false, { s with queue })
    | none => (false, s)

def State.metrics (s : State) : Metrics :=
  { Metrics.zero with
    heartbeatsEnqueued := s.queue.accepted
    heartbeatsDropped := s.queue.dropped
    eventsProcessed := s.dispatch.processed
    notificationsDelivered := s.dispatch.delivered
    notificationsFailed := s.dispatch.failed }

def State.withBoard (s : State) (board : Switchboard) : State :=
  { s with dispatch := { s.dispatch with board } }

/-- Drops the receiving end of a label, if any. -/
def State.dropReceiver (s : State) (label : String) : Bool × State :=
  match s.receivers.get? label with
  | none => (false, s)
  | some line =>
    (true, { s.withBoard (s.dispatch.board.hangUp line) with receivers := s.receivers.erase label })

/-- One step before settling; `none` if a line cannot be created. -/
def act (s : State) (step : Step) : Option (Reply × State) :=
  let board := s.dispatch.board
  match step with
  | .friends u list => some (.nothing,
      { s with dispatch := { s.dispatch with relations := s.dispatch.relations.replaceFriends u list } })
  | .register u session capacity label =>
    let old := board.lookup u
    let line := board.lines.length
    let s := (s.dropReceiver label).2
    (s.dispatch.board.addLine? capacity).map fun board =>
      (.ofCount? (old.map Handle.session),
        { s.withBoard (board.register u ⟨session, line⟩) with
          receivers := s.receivers.insert label line })
  | .fill u => some <|
    match board.lookup u with
    | none => (.nothing, s)
    | some h =>
      match board.deliver h.line (.plain "filler") with
      | .ok board => (.done, s.withBoard board)
      | .error e => (.undelivered e, s)
  | .process e => some <|
    let (report, dispatch) := s.dispatch.process e s.now
    (.report report, { s with dispatch })
  | .submit e => some <|
    if s.sending then
      let (ok, s) := s.submit e
      (.flag ok, s)
    else (.trouble .noSender, s)
  | .start => some <|
    if s.consumer.isSome then (.trouble .alreadyStarted, s)
    else (.nothing, { s with consumer := some true })
  | .cancel => some (.nothing, { s with cancelled := true })
  | .dropSender => some (.flag s.sending, { s with sending := false })
  | .running => some (s.consumer.elim .nothing .flag, s)
  | .receive label => some <|
    match s.receivers.get? label with
    | none => (.trouble .noReceiver, s)
    | some line =>
      let (reply, board) :=
        Lines.receiveFrom board line (board.registry.entries.any (·.2.line = line))
      (reply, s.withBoard board)
  | .dropReceiver label => some <|
    let (had, s) := s.dropReceiver label
    (.flag had, s)
  | .online u => some (.flag (s.dispatch.status.isOnline u s.now), s)
  | .lookup u => some (.ofCount? ((board.lookup u).map Handle.session), s)
  | .advance d => some (.nothing, { s with now := s.now + d.nanos })
  | .metrics => some (.metrics s.metrics, s)

def step (s : State) (a : Step) : Option (Reply × State) :=
  (act s a).map fun (reply, s) => (reply, s.settle)

end Presence.Script.Notices
