import Presence.Dispatcher
import Presence.Metrics
import Presence.Refresh
import Presence.Session
import Presence.Store

/-!
The state of the presence engine: the event queue and its dispatcher, the two refresh loops, the
sessions with their pollers, and the pending calls. Session number `n` has line `n - 1`.
-/

namespace Presence

/-- A producer of events: a call, or the reader of a session. -/
inductive Producer
  | call (ticket : Nat)
  | reader (session : SessionId)
deriving DecidableEq, Repr

/-- A pending call, by what it waits for. -/
inductive Call
  | heartbeat
  /-- Handling of a client's message, waiting for its heartbeat to be submitted. -/
  | inbound
  | openStatus (session : SessionId)
  | openParty (party : Party) (user : User)
  /-- Membership lookup in the source; `opens` if a party session follows. -/
  | lookup (party : Party) (user : User) (opens : Bool)
  | refreshFriends
  | refreshParties (friends : Nat)
  | shutdown
deriving DecidableEq

/-- The result of a call. -/
inductive CallResult
  | submitted (accepted : Bool)
  | handled
  | ignored
  | opened (session : SessionId)
  | authorized (m : Membership)
  | refreshed (friends parties : Nat)
  | stopped
  | failed (e : PresenceError)
  /-- The outbound channel of a session could not be created. -/
  | panicked
deriving DecidableEq

/-- The position of a fanout within the notice to one friend. -/
inductive FanoutStage
  | next
  /-- The handle of `friend` was looked up; the notice is not sent yet. -/
  | sending (friend : User) (h : Handle)
  /-- The line of `friend` was closed; the session is still registered. -/
  | removing (friend : User) (session : SessionId)
deriving DecidableEq

/-- The notices of one event: the friends still pending, and the report so far. -/
structure Fanout where
  event : Event
  pending : List User
  stage : FanoutStage
  report : FanoutReport
deriving DecidableEq

inductive DispatcherPhase
  | idle
  | notifying (f : Fanout)
  | stopped
deriving DecidableEq

/-- Observable effects of a step, in order. -/
inductive Note
  /-- A status session was registered for its user. -/
  | registered (user : User) (session : SessionId)
  /-- The call `closeSession` was made for the user. -/
  | dismissed (user : User)
  | accepted (e : Event)
  | gaveUp (e : Event)
  /-- A submission returned; `none` for `offer`, which has no producer that waits. -/
  | returned (producer : Option Producer) (accepted : Bool)
  | processed (e : Event) (moment : Instant)
  /-- The events left in the queue when the dispatcher stopped. -/
  | discarded (es : List Event)
  /-- A refresh loop started a fetch. -/
  | fetching (kind : RefreshKind) (moment : Instant)
  /-- A driver read a frame. -/
  | heard (session : SessionId) (frame : Inflow)
  /-- A frame entered the line of a session. -/
  | sent (session : SessionId) (m : Message)
  /-- A driver wrote a frame to its client. -/
  | wrote (session : SessionId) (m : Message)
  | ended (session : SessionId) (how : SessionEnd)
  | answered (ticket : Nat) (r : CallResult)
deriving DecidableEq

/-- The state of an engine. -/
structure Engine where
  config : Config
  now : Instant
  dispatch : Dispatch
  dispatcher : DispatcherPhase
  queue : Queue Producer
  friendsLoop : RefreshLoop
  partiesLoop : RefreshLoop
  /-- All sessions ever opened, by number. -/
  sessions : Roster
  calls : Table Nat Call
  tickets : Nat
  /-- The shutdown signal is set. -/
  shutdown : Bool
  /-- A `shutdown` call has taken the workers' handles; later calls return at once. -/
  awaited : Bool
  opened : Nat
  closed : Nat
  snapshots : Nat

/-- Errors of `start`. -/
inductive StartError
  | invalid (cause : ConfigError)
  /-- The TTL or the queue capacity is beyond what the flag store or the channel supports. -/
  | panicked
deriving DecidableEq, Repr

namespace Engine

/-- The state after `start`, for a given flag store and queue. -/
def initial (config : Config) (status : StatusStore) (queue : Queue Producer) : Engine where
  config
  now := 0
  dispatch := ⟨status, .empty, .empty, 0, 0, 0⟩
  dispatcher := .idle
  queue
  friendsLoop := .start config.friendsRefreshInterval
    (config.retryDelayFor config.friendsRefreshInterval) 0
  partiesLoop := .start config.partyRefreshInterval
    (config.retryDelayFor config.partyRefreshInterval) 0
  sessions := []
  calls := .empty
  tickets := 0
  shutdown := false
  awaited := false
  opened := 0
  closed := 0
  snapshots := 0

/-- Validates the settings and creates the flag store and the queue. -/
def start (config : Config) : Except StartError Engine :=
  match config.validate with
  | .error e => .error (.invalid e)
  | .ok () =>
    match StatusStore.create? config.statusTtl,
        Queue.create? config.queueCapacity config.queueOverflowWait with
    | some status, some queue => .ok (initial config status queue)
    | _, _ => .error .panicked

theorem start_eq_ok {config : Config} {e : Engine} (h : start config = .ok e) :
    ∃ status queue, StatusStore.create? config.statusTtl = some status ∧
      Queue.create? config.queueCapacity config.queueOverflowWait = some queue ∧
      e = initial config status queue := by
  unfold start at h
  split at h
  · cases h
  · split at h
    · cases h
      exact ⟨_, _, ‹_›, ‹_›, rfl⟩
    · cases h

/-! ### Parts -/

def board (e : Engine) : Switchboard := e.dispatch.board

def withBoard (e : Engine) (b : Switchboard) : Engine :=
  { e with dispatch := { e.dispatch with board := b } }

def status (e : Engine) : StatusStore := e.dispatch.status

def relations (e : Engine) : Relationships := e.dispatch.relations

def withRelations (e : Engine) (r : Relationships) : Engine :=
  { e with dispatch := { e.dispatch with relations := r } }

def loop (e : Engine) : RefreshKind → RefreshLoop
  | .friends => e.friendsLoop
  | .parties => e.partiesLoop

def withLoop (e : Engine) (kind : RefreshKind) (l : RefreshLoop) : Engine :=
  { e with
    friendsLoop := if kind = .friends then l else e.friendsLoop
    partiesLoop := if kind = .parties then l else e.partiesLoop }

def lineOf (s : SessionId) : Nat := s - 1

def session? (e : Engine) (s : SessionId) : Option Session := e.sessions.get? s

def updateSession (e : Engine) (s : SessionId) (f : Session → Session) : Engine :=
  { e with sessions := e.sessions.update s f }

def setStage (e : Engine) (s : SessionId) (stage : Stage) : Engine :=
  e.updateSession s fun x => { x with stage }

def nextSession (e : Engine) : SessionId := e.sessions.next

def metrics (e : Engine) : Metrics where
  heartbeatsEnqueued := e.queue.accepted
  heartbeatsDropped := e.queue.dropped
  eventsProcessed := e.dispatch.processed
  notificationsDelivered := e.dispatch.delivered
  notificationsFailed := e.dispatch.failed
  friendsRefreshOk := e.friendsLoop.ok
  friendsRefreshErr := e.friendsLoop.err
  partyRefreshOk := e.partiesLoop.ok
  partyRefreshErr := e.partiesLoop.err
  sessionsOpened := e.opened
  sessionsClosed := e.closed
  partySnapshotsSent := e.snapshots

def isOnline (e : Engine) (u : User) : Bool := e.status.isOnline u e.now

/-- Whether the dispatcher and both loops have stopped. -/
def workersStopped (e : Engine) : Bool :=
  e.dispatcher = .stopped && e.friendsLoop.isStopped && e.partiesLoop.isStopped

/-- Whether the cancellation token of a session is set: by `shutdown`, or for a status session by
`closeSession`. -/
def isCancelled (e : Engine) (s : SessionId) (x : Session) : Bool :=
  e.shutdown || (!x.isParty && e.board.closeRequested (lineOf s))

/-- Whether a sender of the session's line is left: the one the session holds, the registry's
handle, the dispatcher's copy of it or the poller's. -/
def hasSender (e : Engine) (s : SessionId) (x : Session) : Bool :=
  x.isHeld || !x.pollerFinished ||
    e.board.registry.entries.any (·.2.line = lineOf s) ||
    match e.dispatcher with
    | .notifying ⟨_, _, .sending _ h, _⟩ => h.line = lineOf s
    | _ => false

end Engine

end Presence
