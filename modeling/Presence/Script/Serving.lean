import Presence.Script.Storing
import Presence.Simulation.World

/-!
Scripts on a whole engine. Sessions are labelled; every step is followed by a report of the frames
that reached the clients, the sessions that ended and the counters that changed.
-/

namespace Presence.Script.Serving

/-- The answers of the source that a step changes. -/
inductive Target
  | friends
  | parties
  | membership
  | all
deriving DecidableEq, Repr

/-- How a session is opened. -/
structure Opening where
  label : String
  /-- Whether a driver is attached at once. -/
  drive : Bool
  sink : Sink

inductive Step
  | store (s : Storing.Step)
  | fail (target : Target) (fault : Option Fault)
  | openStatus (u : User) (o : Opening)
  | authorize (p : Party) (u : User)
  | openParty (p : Party) (u : User) (o : Opening)
  | startParty (p : Party) (u : User) (invited : Bool) (o : Opening)
  | start (label : String)
  | drop (label : String)
  | send (label : String) (frames : List Inflow)
  | sink (label : String) (mode : Sink)
  | inbound (u : User) (reply : User) (text : String)
  | heartbeat (users : List User)
  | online (users : List User)
  | close (u : User)
  | refresh
  | friends (u : User)
  | members (p : Party)
  | lookup (u : User)
  | deregister (u : User)
  | deregisterSession (u : User) (s : SessionId)
  | deliver (u : User) (text : String)
  | health
  | ttl
  | advance (time : Duration)
  | signalShutdown
  | shutdown

/-- The reply to a step and the report after it. -/
structure Report where
  reply : Reply
  frames : List (String × List String)
  ends : List (String × SessionEnd)
  changes : List (String × Nat)

structure State where
  world : World
  labels : Table String SessionId

/-! ### Parts of steps -/

def setFault (w : World) (target : Target) (fault : Option Fault) : World :=
  match target with
  | .friends => { w with friendsFault := fault }
  | .parties => { w with partiesFault := fault }
  | .membership => { w with membershipFault := fault }
  | .all => { w with friendsFault := fault, partiesFault := fault, membershipFault := fault }

/-- Attaches a driver to a session. -/
def driveSession (w : World) (id : SessionId) : World :=
  World.settle ((w.updateClient id fun c => { c with attached := true }).act (.drive id))

/-- The reply to a failed call. -/
def failure : Option CallResult → Reply
  | some (.failed e) => .failed e
  | _ => .nothing

/-- Opens a session by a call; `none` if its line cannot be created. -/
def openSession (s : State) (a : Engine.Action) (o : Opening) (reply : SessionId → Reply) :
    Option (Reply × State) :=
  match s.world.ask a with
  | (some (.opened id), w) =>
    let w := w.updateClient id fun c => { c with sink := o.sink }
    let w := if o.drive then driveSession w id else w
    some (reply id, ⟨w, s.labels.insert o.label id⟩)
  | (some .panicked, _) => none
  | (r, w) => some (failure r, { s with world := w })

/-- A client sends frames in order. Returns how many were taken; those after the end of its input
are not offered. -/
def sendFrames (w : World) (id : SessionId) (taken : Nat) : List Inflow → Nat × World
  | [] => (taken, w)
  | .finished :: _ =>
    (taken, w.updateClient id fun c => { c with inbox := c.inbox ++ [.finished], attached := false })
  | frame :: rest =>
    match w.engine.session? id with
    | some x =>
      if x.isDriven then
        sendFrames (w.updateClient id fun c => { c with inbox := c.inbox ++ [frame] }) id
          (taken + 1) rest
      else sendFrames w id taken rest
    | none => (taken, w)

/-- Concurrent calls, answered together. -/
def askAll (w : World) (actions : List Engine.Action) : List (Option CallResult) × World :=
  let (tickets, w) := actions.foldl (fun (ts, w) a =>
    let (t, w) := World.call w a
    (ts ++ [t], w)) (([] : List Nat), w)
  let w := w.settle
  (tickets.map w.answer?, w)

def wasAccepted : Option CallResult → Bool
  | some (.submitted b) => b
  | _ => false

/-! ### Steps -/

/-- One step without its report; `none` if a line cannot be created. -/
def act (s : State) (step : Step) : Option (Reply × State) :=
  let w := s.world
  let e := w.engine
  let withWorld (reply : Reply) (w : World) : Option (Reply × State) :=
    some (reply, { s with world := w })
  let same (reply : Reply) : Option (Reply × State) := some (reply, s)
  match step with
  | .store step =>
    let (reply, store) := Storing.step false w.store step
    withWorld reply { w with store }
  | .fail target fault => withWorld .nothing (setFault w target fault)
  | .openStatus u o => openSession s (.openStatus u) o (.statusOpened u)
  | .authorize p u =>
    match w.ask (.authorize p u) with
    | (some (.authorized m), w) => withWorld (.membership m) w
    | (r, w) => withWorld (failure r) w
  | .openParty p u o => openSession s (.openParty p u) o fun _ => .partyOpened p u
  | .startParty p u invited o =>
    openSession s (.startParty ⟨p, u, if invited then .invited else .active⟩) o
      fun _ => .partyOpened p u
  | .start label =>
    match s.labels.get? label with
    | none => same (.trouble .noSession)
    | some id =>
      match (e.session? id).map Session.stage with
      | some .ready => withWorld .nothing (driveSession w id)
      | _ => same (.trouble .notIdle)
  | .drop label =>
    match s.labels.get? label with
    | none => same (.trouble .noSession)
    | some id =>
      let s := { s with labels := s.labels.erase label }
      match (e.session? id).map Session.stage with
      | some .ready => some (.flag true, { s with world := w.act (.dropSession id) })
      | _ => some (.flag false, { s with world := (sendFrames w id 0 [.finished]).2 })
  | .send label frames =>
    match s.labels.get? label with
    | none => same (.trouble .noSession)
    | some id =>
      if (w.client id).attached then
        let (taken, w) := sendFrames w id 0 frames
        withWorld (.count taken) w
      else same (.trouble .notDriven)
  | .sink label mode =>
    match s.labels.get? label with
    | none => same (.trouble .noSession)
    | some id => withWorld .nothing (w.updateClient id fun c => { c with sink := mode })
  | .inbound u reply text =>
    match e.board.lookup reply with
    | none => same (.trouble .noHandle)
    | some h =>
      match w.ask (.inbound u h text) with
      | (some .handled, w) => withWorld (.handled true) w
      | (_, w) => withWorld (.handled false) w
  | .heartbeat users =>
    let (results, w) := askAll w (users.map .heartbeat)
    withWorld (.flags (results.map wasAccepted)) w
  | .online users => same (.flags (users.map e.isOnline))
  | .close u => withWorld (.flag (e.board.lookup u).isSome) (w.act (.closeSession u))
  | .refresh =>
    match w.ask .refreshNow with
    | (some (.refreshed friends parties), w) => withWorld (.counts [friends, parties]) w
    | (r, w) => withWorld (failure r) w
  | .friends u => same (.texts ((e.relations.friendsOf u).map Name.text))
  | .members p => same (.texts ((e.relations.membersOf p).map Name.text))
  | .lookup u =>
    match e.board.lookup u with
    | none => same .nothing
    | some h => same (.session h.session (e.board.isClosed h.line))
  | .deregister u =>
    withWorld (.ofCount? ((e.board.lookup u).map Handle.session)) (w.act (.deregister u))
  | .deregisterSession u id =>
    withWorld (.flag (e.board.deregisterSession u id).1) (w.act (.deregisterSession u id))
  | .deliver u text =>
    match e.board.lookup u with
    | none => same .nothing
    | some h =>
      match e.board.deliver h.line (.plain text) with
      | .ok _ => withWorld .done (w.act (.deliver h text))
      | .error err => same (.undelivered err)
  | .health => same (.health (e.relations.count .friends) (e.relations.count .parties)
      e.board.registry.size e.metrics)
  | .ttl => same (.counts [e.config.statusTtl.millis, (Duration.ofNanos e.status.ttl).millis])
  | .advance d => withWorld .nothing (w.advance d)
  | .signalShutdown => withWorld .nothing (w.act .signalShutdown)
  | .shutdown => withWorld .nothing (w.ask .shutdown).2

/-- The frames on a record that reached a session's client. -/
def framesOf (record : List Note) (id : SessionId) : List String :=
  record.filterMap fun
    | .wrote s m => if s = id then some m.text else none
    | _ => none

/-- The end of a session on a record. -/
def endOf (record : List Note) (id : SessionId) : Option SessionEnd :=
  record.findSome? fun
    | .ended s how => if s = id then some how else none
    | _ => none

/-- Settles and reports. -/
def report (old : Metrics) (reply : Reply) (s : State) : Report × State :=
  let (record, world) := s.world.settle.takeRecord
  let frames := s.labels.entries.map fun (label, id) => (label, framesOf record id)
  ({ reply
     frames := frames.filter fun x => !x.2.isEmpty
     ends := s.labels.entries.filterMap fun (label, id) => (endOf record id).map (label, ·)
     changes := world.engine.metrics.changes old },
    { s with world })

def step (s : State) (a : Step) : Option (Report × State) :=
  (act s a).map fun (reply, s') => report s.world.engine.metrics reply s'

/-- An engine over a store that was filled before, and the report of its start. Of the replies to
the steps that filled the store only errors are reported. -/
def start (config : Config) (setup : List (Except Reply Storing.Step))
    (faults : List (Target × Option Fault)) : Except StartError (Report × State) :=
  (Engine.start config).map fun engine =>
    let (replies, store) := setup.foldl (fun (rs, store) a =>
      match a with
      | .error r => (rs ++ [r], store)
      | .ok a =>
        let (r, store) := Storing.step false store a
        (if r.isError then rs ++ [r] else rs, store)) (([] : List Reply), Store.empty)
    let world := faults.foldl (fun w (target, fault) => setFault w target fault)
      (World.ofEngine engine store)
    report Metrics.zero (.many replies) ⟨world, .empty⟩

end Presence.Script.Serving
