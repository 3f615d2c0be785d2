import Presence.Clock
import Presence.Engine.Step

/-!
A deterministic environment of an engine: a store that answers the source at once or with a chosen
fault, clients whose frames are read and written in turn, and a clock that advances only when no
action is enabled. `nextAction?` fixes the order at one moment: frames are read before events are
dispatched, events before snapshots are taken, snapshots before frames are written, and all of these
before the source answers.
-/

namespace Presence

/-- Faults of the source. -/
inductive Fault
  | unavailable (reason : String)
  | query (reason : String)
  | crash
deriving DecidableEq, Repr

def Fault.failure : Fault → SourceFailure
  | .unavailable reason => .failed (.unavailable reason)
  | .query reason => .failed (.query reason)
  | .crash => .crashed

/-- What happens to the frames written to a client. -/
inductive Sink
  | accepting
  /-- Frames are kept back. -/
  | stalled
  | failing
deriving DecidableEq, Repr

/-- The client's side of a session. -/
structure Client where
  /-- The frames sent and not read yet. -/
  inbox : List Inflow
  /-- Whether the client can send. -/
  attached : Bool
  sink : Sink
deriving DecidableEq

def Client.fresh : Client := ⟨[], false, .accepting⟩

/-- An engine with its store, clients and record. -/
structure World where
  engine : Engine
  store : Store
  friendsFault : Option Fault
  partiesFault : Option Fault
  membershipFault : Option Fault
  clients : Table SessionId Client
  /-- The notes since the record was taken last. -/
  record : List Note

namespace World

open Engine (Action)

def ofEngine (engine : Engine) (store : Store) : World :=
  ⟨engine, store, none, none, none, .empty, []⟩

/-! ### The source -/

/-- The answer of the source under its fault, if any. -/
def faulty {α : Type} (fault : Option Fault) (a : Answer α) : Answer α :=
  match fault with
  | some f => .error f.failure
  | none => a

def friendsAnswer (w : World) : Answer (Graph .friends) :=
  faulty w.friendsFault w.store.fetchFriendLists

def partiesAnswer (w : World) : Answer (Graph .parties) :=
  faulty w.partiesFault w.store.fetchActiveMembers

def membershipAnswer (w : World) (p : Party) (u : User) : Answer (Option Membership) :=
  faulty w.membershipFault (w.store.fetchMembership p u)

/-! ### The next action -/

def client (w : World) (s : SessionId) : Client := (w.clients.get? s).getD .fresh

def updateClient (w : World) (s : SessionId) (f : Client → Client) : World :=
  { w with clients := w.clients.insert s (f (w.client s)) }

/-- The sessions with their numbers. -/
def numbered (w : World) : List (SessionId × Session) :=
  w.engine.sessions.zipIdx.map fun (x, i) => (i + 1, x)

/-- The source's answer to a call, or the end of a `shutdown` call. -/
def callAction? (w : World) (ticket : Nat) : Call → Option Action
  | .lookup p u _ => some (.lookupAnswered ticket (w.membershipAnswer p u))
  | .refreshFriends => some (.friendsAnswered ticket w.friendsAnswer)
  | .refreshParties _ => some (.partiesAnswered ticket w.partiesAnswer)
  | .shutdown => if w.engine.workersStopped then some (.stopped ticket) else none
  | _ => none

/-- A driver reads the next frame of its client. -/
def readAction? (w : World) (s : SessionId) (x : Session) : Option Action :=
  match x.stage, (w.client s).inbox with
  | .driven .reading _, frame :: _ => some (.read s frame)
  | _, _ => none

/-- A driver or a poller ends. -/
def endAction? (w : World) (s : SessionId) (x : Session) : Option Action :=
  match x.role, x.stage with
  | .party p stopped, stage =>
    if !w.engine.pollerRuns stopped && !p.isFinished then some (.finishPoller s)
    else
      match stage with
      | .leaving _ => some (.finishDriver s)
      | .driven .. => if w.engine.isCancelled s x then some (.cancel s) else none
      | _ => none
  | .status, .leaving _ => some (.finishDriver s)
  | .status, .driven .. => if w.engine.isCancelled s x then some (.cancel s) else none
  | .status, _ => none

/-- A step of the dispatcher. -/
def dispatchAction? (w : World) : Option Action :=
  match w.engine.dispatcher with
  | .stopped => none
  | .notifying _ => some .dispatch
  | .idle => if w.engine.shutdown || !w.engine.queue.events.items.isEmpty then some .dispatch else none

/-- A poller takes its tick or delivers its snapshot. -/
def pollAction? (w : World) (s : SessionId) (x : Session) : Option Action :=
  match x.role with
  | .status => none
  | .party p _ =>
    match p.phase with
    | .waiting due => if due ≤ w.engine.now then some (.tick s) else none
    | .sending .. =>
      match w.engine.board.line? (Engine.lineOf s) with
      | some l => if !l.frames.isOpen || l.frames.hasRoom then some (.emit s) else none
      | none => none
    | .finished => none

/-- A driver takes or writes a frame. -/
def writeAction? (w : World) (s : SessionId) (x : Session) : Option Action :=
  match x.stage with
  | .driven _ .idle =>
    match w.engine.board.line? (Engine.lineOf s) with
    | some l =>
      if !l.frames.items.isEmpty then some (.takeFrame s)
      else if w.engine.hasSender s x then none
      else some (.starve s)
    | none => none
  | .driven _ (.holding _) =>
    match (w.client s).sink with
    | .accepting => some (.frameWritten s)
    | .failing => some (.writeFailed s)
    | .stalled => none
  | _ => none

/-- A refresh loop starts its fetch, receives the answer or stops. -/
def loopAction? (w : World) (kind : RefreshKind) : Option Action :=
  let l := w.engine.loop kind
  if l.isStopped then none
  else if w.engine.shutdown then some (.stopLoop kind)
  else
    match l.phase with
    | .sleeping wake => if wake ≤ w.engine.now then some (.wakeLoop kind) else none
    | .fetching =>
      match kind with
      | .friends => some (.loopAnswered .friends w.friendsAnswer)
      | .parties => some (.loopAnswered .parties w.partiesAnswer)
    | .stopped => none

/-- A waiting producer drops its event. -/
def giveUpAction? (w : World) : Option Action :=
  if (w.engine.queue.giveUp? w.engine.now).isSome then some .giveUp else none

/-- The next action enabled at this moment, in the fixed order. -/
def nextAction? (w : World) : Option Action :=
  let each (f : SessionId → Session → Option Action) : Option Action :=
    w.numbered.findSome? fun (s, x) => f s x
  w.giveUpAction?
    <|> each w.readAction?
    <|> each w.endAction?
    <|> w.dispatchAction?
    <|> each w.pollAction?
    <|> each w.writeAction?
    <|> w.loopAction? .friends
    <|> w.loopAction? .parties
    <|> w.engine.calls.entries.findSome? fun (t, c) => w.callAction? t c

/-- One action, with its notes on the record. A frame that is read is removed from its client's
inbox. -/
def act (w : World) (a : Action) : World :=
  let w := match a with
    | .read s _ => w.updateClient s fun c => { c with inbox := c.inbox.tail }
    | _ => w
  let (engine, notes) := w.engine.step a
  { w with engine, record := w.record ++ notes }

/-- At most `n` next actions. -/
def settleWithin : (steps : Nat) → World → World
  | 0, w => w
  | steps + 1, w =>
    match w.nextAction? with
    | some a => settleWithin steps (w.act a)
    | none => w

/-- A bound on the number of actions at one moment, valid unless a loop fails without a pause. -/
def patience : Nat := 1000000

def settle (w : World) : World := w.settleWithin patience

/-! ### Time -/

/-- The next moment at which a timer is due. -/
def due? (w : World) : Option Instant :=
  let pollers := w.engine.sessions.map fun x =>
    match x.role with
    | .party p _ => p.due?
    | .status => none
  Clock.earliest ([w.engine.friendsLoop.due?, w.engine.partiesLoop.due?] ++ pollers ++
    w.engine.queue.waiting.map fun x => some x.deadline)

/-- Advances to a moment and settles. -/
def arrive (t : Instant) (w : World) : World :=
  settle (w.act (.elapse ⟨t - w.engine.now⟩))

/-- Advances the clock by a duration. -/
def advance (w : World) (d : Duration) : World :=
  Clock.runUntil due? arrive (w.engine.now + d.nanos) (d.nanos + 1) w

/-! ### Calls -/

/-- Makes a call; returns its ticket. -/
def call (w : World) (a : Action) : Nat × World := (w.engine.tickets, w.act a)

/-- The answer to a call on the record. -/
def answer? (w : World) (ticket : Nat) : Option CallResult :=
  w.record.findSome? fun
    | .answered t r => if t = ticket then some r else none
    | _ => none

/-- Makes a call and settles. -/
def ask (w : World) (a : Action) : Option CallResult × World :=
  let (ticket, w) := w.call a
  let w := w.settle
  (w.answer? ticket, w)

/-- Takes the record. -/
def takeRecord (w : World) : List Note × World := (w.record, { w with record := [] })

end World

end Presence
