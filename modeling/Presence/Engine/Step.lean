import Presence.Engine.Basic
import Presence.Message.Inbound

/-!
Transitions of the engine. An `Action` is what happens between two suspension points of the tasks;
an action that is not enabled leaves the state unchanged. `step` returns the new state and the notes
of what happened, in order. Interleavings of the tasks are lists of actions, so statements about all
runs quantify over lists of actions.
-/

namespace Presence.Engine

/-- A new state and the notes of the transition to it. -/
abbrev Effect := Engine × List Note

/-- Sequential composition of effects. -/
def andThen (a : Effect) (f : Engine → Effect) : Effect :=
  let b := f a.1
  (b.1, a.2 ++ b.2)

/-- Removes a pending call and records its result. -/
def answer (e : Engine) (ticket : Nat) (r : CallResult) : Effect :=
  ({ e with calls := e.calls.erase ticket }, [.answered ticket r])

/-- Adds a pending call. -/
def await (e : Engine) (ticket : Nat) (c : Call) : Engine :=
  { e with calls := e.calls.insert ticket c }

/-! ### Opening and leaving sessions -/

/-- Creates a party session with its poller, and answers the call with it. -/
def addPartySession (e : Engine) (ticket : Nat) (party : Party) (user : User) : Effect :=
  match e.board.addLine? e.config.sessionOutboundCapacity with
  | none => e.answer ticket .panicked
  | some board =>
    let poller := Poller.start party e.config.partyPollInterval e.now
    let id := e.nextSession
    answer { e.withBoard board with
      sessions := e.sessions.add ⟨user, .party poller false, .ready⟩
      opened := e.opened + 1 } ticket (.opened id)

/-- Ends the work on session `s`: closes the receiving end of its line, withdraws a pending
submission of its reader and cancels its poller. -/
def depart (e : Engine) (s : SessionId) (stage : Stage) : Engine :=
  let e := e.withBoard (e.board.hangUp (lineOf s))
  let e := { e with queue := e.queue.abandon (.reader s) }
  e.updateSession s fun x => { x.stopPoller with stage }

/-- The driver of `s` leaves its loop. -/
def leave (e : Engine) (s : SessionId) (how : SessionEnd) : Engine := e.depart s (.leaving how)

/-! ### Submitting events -/

/-- Continuation of a producer after its submission was accepted or dropped. -/
def resume (e : Engine) (p : Producer) (accepted : Bool) : Effect :=
  match p with
  | .reader s =>
    (e.updateSession s fun x =>
      match x.stage with
      | .driven _ w => { x with stage := .driven .reading w }
      | _ => x, [])
  | .call ticket =>
    match e.calls.get? ticket with
    | some .heartbeat => e.answer ticket (.submitted accepted)
    | some .inbound => e.answer ticket .handled
    | some (.openStatus s) => (e.setStage s .ready).answer ticket (.opened s)
    | some (.openParty party user) => e.addPartySession ticket party user
    | _ => (e, [])

/-- A submission returns to its producer, which continues. -/
def submitted (e : Engine) (p : Producer) (accepted : Bool) : Effect :=
  andThen (e, [.returned (some p) accepted]) (·.resume p accepted)

/-- Submission of an event by a producer that can wait. -/
def submit (e : Engine) (p : Producer) (ev : Event) : Effect :=
  let (outcome, queue) := e.queue.submit p ev e.now
  let e := { e with queue }
  match outcome with
  | .accepted => andThen (e, [.accepted ev]) (·.submitted p true)
  | .dropped => andThen (e, [.gaveUp ev]) (·.submitted p false)
  | .waiting => (e, [])

/-- Submission without waiting. -/
def offer (e : Engine) (ev : Event) : Effect :=
  match e.queue.trySubmit ev with
  | (true, queue) => ({ e with queue }, [.accepted ev, .returned none true])
  | (false, queue) => ({ e with queue }, [.gaveUp ev, .returned none false])

/-- The first waiting producer whose deadline has passed, or whose queue is closed, drops its
event. -/
def giveUp (e : Engine) : Effect :=
  match e.queue.giveUp? e.now with
  | none => (e, [])
  | some (w, queue) => andThen ({ e with queue }, [.gaveUp w.event]) (·.submitted w.producer false)

/-! ### Calls -/

def heartbeat (e : Engine) (ticket : Nat) (u : User) : Effect :=
  (e.await ticket .heartbeat).submit (.call ticket) (Event.mk u .heartbeat)

/-- Opens a status session: registers it in place of the user's last one, then submits the
`connected` event. -/
def openStatus (e : Engine) (ticket : Nat) (u : User) : Effect :=
  if e.shutdown then e.answer ticket (.failed .shutDown)
  else
    match e.board.addLine? e.config.sessionOutboundCapacity with
    | none => e.answer ticket .panicked
    | some board =>
      let id := e.nextSession
      let e := e.withBoard (board.register u ⟨id, lineOf id⟩)
      let e := { e with
        sessions := e.sessions.add ⟨u, .status, .opening⟩
        opened := e.opened + 1 }
      andThen (e.await ticket (.openStatus id), [.registered u id])
        (·.submit (.call ticket) (Event.mk u .connected))

/-- Starts a membership lookup; with `opens`, a party session follows. -/
def authorize (e : Engine) (ticket : Nat) (p : Party) (u : User) (opens : Bool) : Effect :=
  if e.shutdown then e.answer ticket (.failed .shutDown)
  else (e.await ticket (.lookup p u opens), [])

/-- Submits the `connected` event of a member; the party session follows in `resume`. -/
def startParty (e : Engine) (ticket : Nat) (m : Membership) : Effect :=
  if e.shutdown then e.answer ticket (.failed .shutDown)
  else (e.await ticket (.openParty m.party m.user)).submit (.call ticket) (Event.mk m.user .connected)

/-- Answer of the source to a membership lookup. -/
def lookupAnswered (e : Engine) (ticket : Nat) (a : Answer (Option Membership)) : Effect :=
  match e.calls.get? ticket with
  | some (.lookup p u opens) =>
    match a with
    | .error f => e.answer ticket (.failed f.asPresence)
    | .ok none => e.answer ticket (.failed (.notPartyMember p u))
    | .ok (some m) => if opens then e.startParty ticket m else e.answer ticket (.authorized m)
  | _ => (e, [])

/-- Deregisters the user's session and requests it to close; `false` if none was registered. -/
def closeSession (e : Engine) (u : User) : Bool × Engine :=
  match e.board.lookup u with
  | some h => (true, e.withBoard ((e.board.deregister u).requestClose h.line))
  | none => (false, e)

/-- Answer of the source to the first fetch of `refreshNow`. -/
def friendsAnswered (e : Engine) (ticket : Nat) (a : Answer (Graph .friends)) : Effect :=
  match e.calls.get? ticket with
  | some .refreshFriends =>
    match e.relations.absorb .friends a with
    | (.error f, _) => e.answer ticket (.failed f.asPresence)
    | (.ok n, r) => ((e.withRelations r).await ticket (.refreshParties n), [])
  | _ => (e, [])

/-- Answer of the source to the second fetch of `refreshNow`. -/
def partiesAnswered (e : Engine) (ticket : Nat) (a : Answer (Graph .parties)) : Effect :=
  match e.calls.get? ticket with
  | some (.refreshParties friends) =>
    match e.relations.absorb .parties a with
    | (.error f, _) => e.answer ticket (.failed f.asPresence)
    | (.ok n, r) => (e.withRelations r).answer ticket (.refreshed friends n)
  | _ => (e, [])

/-- A text from a client of `u`, with the handle through which a pong is sent. -/
def inbound (e : Engine) (ticket : Nat) (u : User) (h : Handle) (text : String) : Effect :=
  match Inbound.parse text with
  | .error _ => e.answer ticket .ignored
  | .ok .ping =>
    let pong : Effect :=
      match e.board.deliver h.line .pong with
      | .ok board => (e.withBoard board, [.sent (h.line + 1) .pong])
      | .error _ => (e, [])
    andThen pong fun e => (e.await ticket .inbound).submit (.call ticket) (Event.mk u .heartbeat)

/-- Sends a text to the line of a handle. -/
def post (e : Engine) (h : Handle) (text : String) : Effect :=
  match e.board.deliver h.line (.plain text) with
  | .ok board => (e.withBoard board, [.sent (h.line + 1) (.plain text)])
  | .error _ => (e, [])

/-- Sets the shutdown signal; the first call waits for the dispatcher and the loops, any later one
returns at once. -/
def stop (e : Engine) (ticket : Nat) : Effect :=
  let e := { e with shutdown := true }
  if e.awaited then e.answer ticket .stopped
  else (await { e with awaited := true } ticket .shutdown, [])

/-- The future of a call is dropped. A status session that was being opened stays registered. -/
def dropCall (e : Engine) (ticket : Nat) : Engine :=
  let left := { e with
    calls := e.calls.erase ticket
    queue := e.queue.abandon (.call ticket) }
  match e.calls.get? ticket with
  | some (.openStatus s) => left.depart s .dropped
  | _ => left

/-- Answers a pending `shutdown` call once the workers have stopped. -/
def stopped (e : Engine) (ticket : Nat) : Effect :=
  match e.calls.get? ticket with
  | some .shutdown => if e.workersStopped then e.answer ticket .stopped else (e, [])
  | _ => (e, [])

/-! ### The dispatcher -/

/-- Starts the fanout of an event taken from the queue. -/
def begin (e : Engine) (ev : Event) (queue : Queue Producer) : Engine :=
  let (friends, dispatch) := e.dispatch.begin ev e.now
  { e with
    queue
    dispatch
    dispatcher := .notifying ⟨ev, friends, .next, ⟨friends.length, 0, 0, 0⟩⟩ }

/-- Step of the idle dispatcher: takes the next event, or stops if the shutdown signal is set. -/
def takeEvent (e : Engine) : Effect :=
  if e.shutdown then
    ({ e with dispatcher := .stopped, queue := e.queue.hangUp },
      [.discarded e.queue.events.items])
  else
    match e.queue.take? with
    | none => (e, [])
    | some (ev, promoted, queue) =>
      let begun := e.begin ev queue
      match promoted with
      | none => (begun, [.processed ev e.now])
      | some w =>
        andThen (begun, [.processed ev e.now, .accepted w.event]) (·.submitted w.producer true)

/-- Step of a fanout: lookup, delivery or removal for one friend, or the end of the fanout. -/
def notifyStep (e : Engine) (f : Fanout) : Effect :=
  let go (e : Engine) (f : Fanout) : Engine := { e with dispatcher := .notifying f }
  match f.stage with
  | .next =>
    match f.pending with
    | [] => ({ e with dispatch := e.dispatch.finish f.report, dispatcher := .idle }, [])
    | friend :: rest =>
      match e.board.lookup friend with
      | none => (go e { f with pending := rest, report := f.report.add .offline }, [])
      | some h => (go e { f with pending := rest, stage := .sending friend h }, [])
  | .sending friend h =>
    let notice := Message.friendOnline f.event.user
    match e.board.sendNotice h notice with
    | (some .delivered, board) =>
      (go (e.withBoard board) { f with stage := .next, report := f.report.add .delivered },
        [.sent (h.line + 1) notice])
    | (some fate, board) =>
      (go (e.withBoard board) { f with stage := .next, report := f.report.add fate }, [])
    | (none, board) =>
      (go (e.withBoard board)
        { f with stage := .removing friend h.session, report := f.report.add .failed }, [])
  | .removing friend session =>
    (go (e.withBoard (e.board.deregisterSession friend session).2) { f with stage := .next }, [])

def dispatchStep (e : Engine) : Effect :=
  match e.dispatcher with
  | .idle => e.takeEvent
  | .notifying f => e.notifyStep f
  | .stopped => (e, [])

/-! ### The refresh loops -/

/-- Starts the fetch that is due. -/
def wakeLoop (e : Engine) (kind : RefreshKind) : Effect :=
  if e.shutdown then (e, [])
  else
    match (e.loop kind).wake? e.now with
    | some l => (e.withLoop kind l, [.fetching kind e.now])
    | none => (e, [])

/-- Answer to the fetch of a loop; ignored after the shutdown signal. -/
def loopAnswered (e : Engine) (kind : RefreshKind) (a : Answer (Graph kind)) : Engine :=
  if e.shutdown then e
  else
    match (e.loop kind).answer? kind e.relations a e.now with
    | some (l, r) => (e.withRelations r).withLoop kind l
    | none => e

/-- Ends a loop after the shutdown signal. -/
def stopLoop (e : Engine) (kind : RefreshKind) : Engine :=
  if e.shutdown then e.withLoop kind (e.loop kind).stop else e

/-! ### Pollers -/

/-- Whether a poller may continue: neither its session nor the engine cancelled it. -/
def pollerRuns (e : Engine) (stopped : Bool) : Bool := !stopped && !e.shutdown

/-- A poller takes the tick that is due. -/
def tick (e : Engine) (s : SessionId) : Engine :=
  match e.session? s with
  | some ⟨_, .party p stopped, _⟩ =>
    if e.pollerRuns stopped then
      match p.tick? e.status e.relations e.now with
      | some p => e.updateSession s (·.withPoller p)
      | none => e
    else e
  | _ => e

/-- A poller delivers the snapshot it holds if its line has room, or finds the line closed. -/
def emit (e : Engine) (s : SessionId) : Effect :=
  match e.session? s, e.board.line? (lineOf s) with
  | some ⟨_, .party p stopped, _⟩, some line =>
    if e.pollerRuns stopped then
      match p.phase, p.emit line.frames with
      | .sending held _, .sent p frames =>
        let e := e.withBoard (e.board.updateFrames (lineOf s) fun _ => frames)
        let e := e.updateSession s (·.withPoller p)
        ({ e with snapshots := e.snapshots + 1 }, [.sent s (.snapshot held)])
      | _, .noReceiver p => (e.updateSession s (·.withPoller p), [])
      | _, _ => (e, [])
    else (e, [])
  | _, _ => (e, [])

/-- Ends a poller that was cancelled. -/
def finishPoller (e : Engine) (s : SessionId) : Engine :=
  match e.session? s with
  | some ⟨_, .party p stopped, _⟩ =>
    if e.pollerRuns stopped then e else e.updateSession s (·.withPoller p.finish)
  | _ => e

/-! ### Drivers -/

/-- Attaches a driver to a session that is ready. -/
def drive (e : Engine) (s : SessionId) : Engine :=
  match e.session? s with
  | some ⟨_, _, .ready⟩ => e.setStage s (.driven .reading .idle)
  | _ => e

/-- Drops a session before it is driven, or the future of its driver. A party session can also be
dropped while its driver waits for the poller. -/
def dropSession (e : Engine) (s : SessionId) : Engine :=
  match e.session? s with
  | some ⟨_, _, .ready⟩ => e.depart s .dropped
  | some ⟨_, _, .driven ..⟩ => e.depart s .dropped
  | some ⟨_, .party .., .leaving _⟩ => e.setStage s .dropped
  | _ => e

/-- Step of a reader on a frame. A ping is answered with a pong, if the line has room, and submits a
heartbeat; any other text is ignored; a closing frame, the end or a failure makes the driver
leave. -/
def hear (e : Engine) (s : SessionId) (user : User) (w : Writer) (frame : Inflow) : Effect :=
  match frame with
  | .text t =>
    match Inbound.parse t with
    | .error _ => (e, [])
    | .ok .ping =>
      let pong : Effect :=
        match e.board.deliver (lineOf s) .pong with
        | .ok board => (e.withBoard board, [.sent s .pong])
        | .error _ => (e, [])
      andThen pong fun e =>
        (e.setStage s (.driven .submitting w)).submit (.reader s) (Event.mk user .heartbeat)
  | .other => (e, [])
  | .close => (e.leave s .clientClosed, [])
  | .finished => (e.leave s .clientClosed, [])
  | .failure => (e.leave s .readError, [])

/-- A driver that is reading receives a frame. -/
def read (e : Engine) (s : SessionId) (frame : Inflow) : Effect :=
  match e.session? s with
  | some ⟨user, _, .driven .reading w⟩ =>
    andThen (e, [.heard s frame]) (·.hear s user w frame)
  | _ => (e, [])

/-- A driver takes the next frame of its line. The slot goes to the poller if it waits for one. -/
def takeFrame (e : Engine) (s : SessionId) : Effect :=
  match e.session? s, e.board.line? (lineOf s) with
  | some ⟨_, _, .driven r .idle⟩, some line =>
    match line.frames.take? with
    | some (m, frames) =>
      let e := e.withBoard (e.board.updateFrames (lineOf s) fun _ => frames)
      (e.setStage s (.driven r (.holding m))).emit s
    | none => (e, [])
  | _, _ => (e, [])

/-- The frame held by the writer was written. -/
def frameWritten (e : Engine) (s : SessionId) : Effect :=
  match e.session? s with
  | some ⟨_, _, .driven r (.holding m)⟩ => (e.setStage s (.driven r .idle), [.wrote s m])
  | _ => (e, [])

/-- Writing the frame held by the writer failed. -/
def writeFailed (e : Engine) (s : SessionId) : Engine :=
  match e.session? s with
  | some ⟨_, _, .driven _ (.holding _)⟩ => e.leave s .writeFailed
  | _ => e

/-- The line of a driver is empty and has no sender left. -/
def starve (e : Engine) (s : SessionId) : Engine :=
  match e.session? s, e.board.line? (lineOf s) with
  | some x, some line =>
    match x.stage with
    | .driven _ .idle =>
      if line.frames.items.isEmpty && !e.hasSender s x then e.leave s .cancelled else e
    | _ => e
  | _, _ => e

/-- The driver of a cancelled session leaves. -/
def cancel (e : Engine) (s : SessionId) : Engine :=
  match e.session? s with
  | some x => if x.isDriven && e.isCancelled s x then e.leave s .cancelled else e
  | none => e

/-- Cleanup of a driver that has left: a status session is deregistered if it is still the
registered one; a party session first waits for its poller. -/
def finishDriver (e : Engine) (s : SessionId) : Effect :=
  match e.session? s with
  | some x =>
    match x.stage with
    | .leaving how =>
      if x.pollerFinished then
        let e := if x.isParty then e
          else e.withBoard (e.board.deregisterSession x.user s).2
        ({ e.setStage s (.ended how) with closed := e.closed + 1 }, [.ended s how])
      else (e, [])
    | _ => (e, [])
  | none => (e, [])

/-! ### Actions -/

/-- The atomic actions of clients, callers, the source, the workers and the clock. -/
inductive Action
  -- calls
  | heartbeat (u : User)
  | offer (ev : Event)
  | openStatus (u : User)
  | authorize (p : Party) (u : User)
  | openParty (p : Party) (u : User)
  | startParty (m : Membership)
  | inbound (u : User) (h : Handle) (text : String)
  | refreshNow
  | closeSession (u : User)
  | dropCall (ticket : Nat)
  | shutdown
  | signalShutdown
  -- the registry, used directly
  | deregister (u : User)
  | deregisterSession (u : User) (s : SessionId)
  | deliver (h : Handle) (text : String)
  -- the source
  | lookupAnswered (ticket : Nat) (a : Answer (Option Membership))
  | friendsAnswered (ticket : Nat) (a : Answer (Graph .friends))
  | partiesAnswered (ticket : Nat) (a : Answer (Graph .parties))
  | loopAnswered (kind : RefreshKind) (a : Answer (Graph kind))
  -- the engine's own work
  | giveUp
  | dispatch
  | wakeLoop (kind : RefreshKind)
  | stopLoop (kind : RefreshKind)
  | stopped (ticket : Nat)
  | tick (s : SessionId)
  | emit (s : SessionId)
  | finishPoller (s : SessionId)
  -- sessions
  | drive (s : SessionId)
  | dropSession (s : SessionId)
  | read (s : SessionId) (frame : Inflow)
  | takeFrame (s : SessionId)
  | frameWritten (s : SessionId)
  | writeFailed (s : SessionId)
  | starve (s : SessionId)
  | cancel (s : SessionId)
  | finishDriver (s : SessionId)
  -- time
  | elapse (d : Duration)

/-- Runs `f` with the next ticket. -/
def withTicket (e : Engine) (f : Engine → Nat → Effect) : Effect :=
  f { e with tickets := e.tickets + 1 } e.tickets

def step (e : Engine) : Action → Effect
  | .heartbeat u => e.withTicket fun e t => e.heartbeat t u
  | .offer ev => e.offer ev
  | .openStatus u => e.withTicket fun e t => e.openStatus t u
  | .authorize p u => e.withTicket fun e t => e.authorize t p u false
  | .openParty p u => e.withTicket fun e t => e.authorize t p u true
  | .startParty m => e.withTicket fun e t => e.startParty t m
  | .inbound u h text => e.withTicket fun e t => e.inbound t u h text
  | .refreshNow => e.withTicket fun e t => (e.await t .refreshFriends, [])
  | .closeSession u => ((e.closeSession u).2, [.dismissed u])
  | .dropCall t => (e.dropCall t, [])
  | .shutdown => e.withTicket fun e t => e.stop t
  | .signalShutdown => ({ e with shutdown := true }, [])
  | .deregister u => (e.withBoard (e.board.deregister u), [])
  | .deregisterSession u s => (e.withBoard (e.board.deregisterSession u s).2, [])
  | .deliver h text => e.post h text
  | .lookupAnswered t a => e.lookupAnswered t a
  | .friendsAnswered t a => e.friendsAnswered t a
  | .partiesAnswered t a => e.partiesAnswered t a
  | .loopAnswered kind a => (e.loopAnswered kind a, [])
  | .giveUp => e.giveUp
  | .dispatch => e.dispatchStep
  | .wakeLoop kind => e.wakeLoop kind
  | .stopLoop kind => (e.stopLoop kind, [])
  | .stopped t => e.stopped t
  | .tick s => (e.tick s, [])
  | .emit s => e.emit s
  | .finishPoller s => (e.finishPoller s, [])
  | .drive s => (e.drive s, [])
  | .dropSession s => (e.dropSession s, [])
  | .read s frame => e.read s frame
  | .takeFrame s => e.takeFrame s
  | .frameWritten s => e.frameWritten s
  | .writeFailed s => (e.writeFailed s, [])
  | .starve s => (e.starve s, [])
  | .cancel s => (e.cancel s, [])
  | .finishDriver s => e.finishDriver s
  | .elapse d => ({ e with now := e.now + d.nanos }, [])

/-- The run of a list of actions, with all notes. -/
def run (e : Engine) : List Action → Effect
  | [] => (e, [])
  | a :: rest => andThen (e.step a) (·.run rest)

end Presence.Engine
