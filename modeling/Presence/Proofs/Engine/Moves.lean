import Presence.Engine.Step

/-!
Actions as sequences of moves. A `Move` is one branch-free transition with its guard, its notes and
the engine after it. `step_moves`: every action is a sequence of moves. `run_keeps`: a run preserves
what every move preserves.
-/

namespace Presence.Engine

/-- Calls that continue when their submission returns. -/
def submits : Call → Bool
  | .heartbeat => true
  | .inbound => true
  | .openStatus _ => true
  | .openParty .. => true
  | _ => false

/-- The continuation of a producer after its submission has returned. -/
inductive Resumed (e : Engine) : Producer → Bool → List Note → Engine → Prop
  | reader (s : SessionId) (b : Bool) :
      Resumed e (.reader s) b [] (e.updateSession s fun x =>
        match x.stage with
        | .driven _ w => { x with stage := .driven .reading w }
        | _ => x)
  | heartbeat {t : Nat} {b : Bool} (hc : e.calls.get? t = some .heartbeat) :
      Resumed e (.call t) b [.answered t (.submitted b)] { e with calls := e.calls.erase t }
  | inbound {t : Nat} {b : Bool} (hc : e.calls.get? t = some .inbound) :
      Resumed e (.call t) b [.answered t .handled] { e with calls := e.calls.erase t }
  | status {t : Nat} {b : Bool} {s : SessionId} (hc : e.calls.get? t = some (.openStatus s)) :
      Resumed e (.call t) b [.answered t (.opened s)]
        { e.setStage s .ready with calls := e.calls.erase t }
  | party {t : Nat} {b : Bool} {p : Party} {u : User} {board : Switchboard}
      (hc : e.calls.get? t = some (.openParty p u))
      (hb : e.board.addLine? e.config.sessionOutboundCapacity = some board) :
      Resumed e (.call t) b [.answered t (.opened e.nextSession)]
        { e.withBoard board with
          calls := e.calls.erase t
          sessions := e.sessions.add
            ⟨u, .party (Poller.start p e.config.partyPollInterval e.now) false, .ready⟩
          opened := e.opened + 1 }
  | noLine {t : Nat} {b : Bool} {p : Party} {u : User}
      (hc : e.calls.get? t = some (.openParty p u))
      (hb : e.board.addLine? e.config.sessionOutboundCapacity = none) :
      Resumed e (.call t) b [.answered t .panicked] { e with calls := e.calls.erase t }
  | nobody (t : Nat) (b : Bool) (hn : ∀ c, e.calls.get? t = some c → submits c = false) :
      Resumed e (.call t) b [] e

/-- The causes of a driver leaving its loop, with their result. -/
inductive Leaving (a : Action) (e : Engine) (s : SessionId) (x : Session) : SessionEnd → Prop
  | closed {w : Writer} (hx : x.stage = .driven .reading w) (ha : a = .read s .close) :
      Leaving a e s x .clientClosed
  | finished {w : Writer} (hx : x.stage = .driven .reading w) (ha : a = .read s .finished) :
      Leaving a e s x .clientClosed
  | unreadable {w : Writer} (hx : x.stage = .driven .reading w) (ha : a = .read s .failure) :
      Leaving a e s x .readError
  | unwritable {r : Reader} {m : Message} (hx : x.stage = .driven r (.holding m))
      (ha : a = .writeFailed s) : Leaving a e s x .writeFailed
  | starved {r : Reader} {l : Line} (hx : x.stage = .driven r .idle) (ha : a = .starve s)
      (hl : e.board.line? (lineOf s) = some l) (hi : l.frames.items = [])
      (hn : e.hasSender s x = false) : Leaving a e s x .cancelled
  | cancelled {r : Reader} {w : Writer} (hx : x.stage = .driven r w) (ha : a = .cancel s)
      (hc : e.isCancelled s x = true) : Leaving a e s x .cancelled

/-- Answers of the source to a refresh on demand. -/
def Action.answersRefresh : Action → Bool
  | .friendsAnswered .. => true
  | .partiesAnswered .. => true
  | _ => false

/-- Actions that are calls. -/
def Action.isCall : Action → Bool
  | .heartbeat _ => true
  | .openStatus _ => true
  | .authorize .. => true
  | .openParty .. => true
  | .startParty _ => true
  | .inbound .. => true
  | .refreshNow => true
  | .shutdown => true
  | _ => false

/-- Actions about call `t`, which was made before. -/
def Action.concerns (t : Nat) : Action → Bool
  | .dropCall u => u = t
  | .lookupAnswered u _ => u = t
  | .friendsAnswered u _ => u = t
  | .partiesAnswered u _ => u = t
  | .stopped u => u = t
  | _ => false

/-- Call `t` is the one that the action makes or is about. -/
def Owns (a : Action) (e : Engine) (t : Nat) : Prop :=
  (a.isCall = true ∧ t + 1 = e.tickets) ∨
    a.concerns t = true ∧ ∃ c, e.calls.get? t = some c

/-- When a call may be answered otherwise than by its submission. -/
def Warranted (a : Action) (e : Engine) (t : Nat) : CallResult → Prop
  | .submitted _ => False
  | .opened _ => False
  | .stopped => a = .shutdown ∨ a = .stopped t
  | .panicked => e.board.addLine? e.config.sessionOutboundCapacity = none
  | _ => True

/-- One move of an action: its guard, its notes and the engine after it. -/
inductive Move (a : Action) (e : Engine) : List Note → Engine → Prop
  -- calls and time
  | ticket : Move a e [] { e with tickets := e.tickets + 1 }
  | called (t : Nat) {c : Call} (hc : ∀ s, c ≠ .openStatus s) (ho : Owns a e t) :
      Move a e [] (e.await t c)
  | answered (t : Nat) {r : CallResult} (hr : Warranted a e t r) (ho : Owns a e t) :
      Move a e [.answered t r] { e with calls := e.calls.erase t }
  | forsook {t : Nat} (ha : a = .dropCall t) :
      Move a e [] { e with
        calls := e.calls.erase t
        queue := e.queue.abandon (.call t) }
  | forsookSession {t : Nat} {s : SessionId} (ha : a = .dropCall t)
      (hc : e.calls.get? t = some (.openStatus s)) :
      Move a e [] (depart { e with
        calls := e.calls.erase t
        queue := e.queue.abandon (.call t) } s .dropped)
  | told (ha : a = .shutdown ∨ a = .signalShutdown) : Move a e [] { e with shutdown := true }
  | awaited (ha : a = .shutdown) : Move a e [] { e with awaited := true }
  | elapsed (d : Duration) : Move a e [] { e with now := e.now + d.nanos }
  -- relationships
  | refreshed (kind : RefreshKind) (g : Graph kind) (ha : a.answersRefresh = true) :
      Move a e [] (e.withRelations (e.relations.refresh kind g))
  | woke {kind : RefreshKind} {l : RefreshLoop} (hs : e.shutdown = false)
      (hl : (e.loop kind).wake? e.now = some l) :
      Move a e [.fetching kind e.now] (e.withLoop kind l)
  | loopAnswered {kind : RefreshKind} {g : Answer (Graph kind)} {l : RefreshLoop}
      {r : Relationships} (hs : e.shutdown = false)
      (hl : (e.loop kind).answer? kind e.relations g e.now = some (l, r)) :
      Move a e [] ((e.withRelations r).withLoop kind l)
  | loopStopped (kind : RefreshKind) (hs : e.shutdown = true) :
      Move a e [] (e.withLoop kind (e.loop kind).stop)
  -- the queue
  | entered {p : Producer} {ev : Event} {out : List Note} {e' : Engine}
      (ho : e.queue.events.isOpen = true) (hr : e.queue.events.hasRoom = true)
      (h : Resumed { e with queue := e.queue.accept ev } p true out e') :
      Move a e (.accepted ev :: .returned (some p) true :: out) e'
  | refused {p : Producer} {ev : Event} {out : List Note} {e' : Engine}
      (ho : e.queue.events.isOpen = false)
      (h : Resumed { e with queue := e.queue.drop } p false out e') :
      Move a e (.gaveUp ev :: .returned (some p) false :: out) e'
  | linedUp {p : Producer} {ev : Event} (ho : e.queue.events.isOpen = true)
      (hr : e.queue.events.hasRoom = false) :
      Move a e [] { e with queue := e.queue.lineUp p ev e.now }
  | offered {ev : Event} (ho : e.queue.events.isOpen = true)
      (hr : e.queue.events.hasRoom = true) :
      Move a e [.accepted ev, .returned none true] { e with queue := e.queue.accept ev }
  | declined {ev : Event} :
      Move a e [.gaveUp ev, .returned none false] { e with queue := e.queue.drop }
  | timedOut {w : Waiter Producer} {q : Queue Producer} {out : List Note} {e' : Engine}
      (hq : e.queue.giveUp? e.now = some (w, q))
      (h : Resumed { e with queue := q } w.producer false out e') :
      Move a e (.gaveUp w.event :: .returned (some w.producer) false :: out) e'
  -- the dispatcher
  | began {ev : Event} {q : Queue Producer} (ha : a = .dispatch) (hd : e.dispatcher = .idle)
      (hs : e.shutdown = false) (hq : e.queue.take? = some (ev, none, q)) :
      Move a e [.processed ev e.now] (e.begin ev q)
  | promoted {ev : Event} {w : Waiter Producer} {q : Queue Producer} {out : List Note}
      {e' : Engine} (ha : a = .dispatch) (hd : e.dispatcher = .idle) (hs : e.shutdown = false)
      (hq : e.queue.take? = some (ev, some w, q))
      (h : Resumed (e.begin ev q) w.producer true out e') :
      Move a e (.processed ev e.now :: .accepted w.event :: .returned (some w.producer) true :: out)
        e'
  | retired (ha : a = .dispatch) (hd : e.dispatcher = .idle) (hs : e.shutdown = true) :
      Move a e [.discarded e.queue.events.items]
        { e with dispatcher := .stopped, queue := e.queue.hangUp }
  | finished {ev : Event} {r : FanoutReport} (ha : a = .dispatch)
      (hd : e.dispatcher = .notifying ⟨ev, [], .next, r⟩) :
      Move a e [] { e with dispatch := e.dispatch.finish r, dispatcher := .idle }
  | missed {ev : Event} {u : User} {rest : List User} {r : FanoutReport} (ha : a = .dispatch)
      (hd : e.dispatcher = .notifying ⟨ev, u :: rest, .next, r⟩) (hu : e.board.lookup u = none) :
      Move a e [] { e with dispatcher := .notifying ⟨ev, rest, .next, r.add .offline⟩ }
  | found {ev : Event} {u : User} {rest : List User} {r : FanoutReport} {h : Handle}
      (ha : a = .dispatch) (hd : e.dispatcher = .notifying ⟨ev, u :: rest, .next, r⟩)
      (hu : e.board.lookup u = some h) :
      Move a e [] { e with dispatcher := .notifying ⟨ev, rest, .sending u h, r⟩ }
  | notified {ev : Event} {u : User} {rest : List User} {r : FanoutReport} {h : Handle}
      {board : Switchboard} (ha : a = .dispatch)
      (hd : e.dispatcher = .notifying ⟨ev, rest, .sending u h, r⟩)
      (hb : e.board.deliver h.line (.friendOnline ev.user) = .ok board) :
      Move a e [.sent (h.line + 1) (.friendOnline ev.user)]
        { e.withBoard board with dispatcher := .notifying ⟨ev, rest, .next, r.add .delivered⟩ }
  | crowded {ev : Event} {u : User} {rest : List User} {r : FanoutReport} {h : Handle}
      (ha : a = .dispatch) (hd : e.dispatcher = .notifying ⟨ev, rest, .sending u h, r⟩)
      (hb : e.board.deliver h.line (.friendOnline ev.user) = .error .full) :
      Move a e [] { e with dispatcher := .notifying ⟨ev, rest, .next, r.add .failed⟩ }
  | vanished {ev : Event} {u : User} {rest : List User} {r : FanoutReport} {h : Handle}
      (ha : a = .dispatch) (hd : e.dispatcher = .notifying ⟨ev, rest, .sending u h, r⟩)
      (hb : e.board.deliver h.line (.friendOnline ev.user) = .error .closed) :
      Move a e [] { e with dispatcher := .notifying ⟨ev, rest, .removing u h.session, r.add .failed⟩ }
  | removed {ev : Event} {u : User} {s : SessionId} {rest : List User} {r : FanoutReport}
      (ha : a = .dispatch) (hd : e.dispatcher = .notifying ⟨ev, rest, .removing u s, r⟩) :
      Move a e [] { e.withBoard (e.board.deregisterSession u s).2 with
        dispatcher := .notifying ⟨ev, rest, .next, r⟩ }
  -- the board, from outside
  | dismissed {u : User} (ha : a = .closeSession u) (hu : e.board.lookup u = none) :
      Move a e [.dismissed u] e
  | evicted {u : User} {h : Handle} (ha : a = .closeSession u) (hu : e.board.lookup u = some h) :
      Move a e [.dismissed u] (e.withBoard ((e.board.deregister u).requestClose h.line))
  | deregistered {u : User} (ha : a = .deregister u) :
      Move a e [] (e.withBoard (e.board.deregister u))
  | sessionDeregistered {u : User} {s : SessionId} (ha : a = .deregisterSession u s) :
      Move a e [] (e.withBoard (e.board.deregisterSession u s).2)
  | posted {h : Handle} {text : String} {board : Switchboard} (ha : a = .deliver h text)
      (hb : e.board.deliver h.line (.plain text) = .ok board) :
      Move a e [.sent (h.line + 1) (.plain text)] (e.withBoard board)
  | replied {u : User} {h : Handle} {text : String} {board : Switchboard}
      (ha : a = .inbound u h text) (hb : e.board.deliver h.line .pong = .ok board) :
      Move a e [.sent (h.line + 1) .pong] (e.withBoard board)
  -- sessions
  | opened {t : Nat} {u : User} {board : Switchboard} (ha : a = .openStatus u)
      (hs : e.shutdown = false)
      (hb : e.board.addLine? e.config.sessionOutboundCapacity = some board)
      (ho : t + 1 = e.tickets) :
      Move a e [.registered u e.nextSession]
        { e.withBoard (board.register u ⟨e.nextSession, lineOf e.nextSession⟩) with
          calls := e.calls.insert t (.openStatus e.nextSession)
          sessions := e.sessions.add ⟨u, .status, .opening⟩
          opened := e.opened + 1 }
  | ticked {s : SessionId} {x : Session} {p p' : Poller} (ha : a = .tick s)
      (hx : e.session? s = some x) (hp : x.role = .party p false) (hs : e.shutdown = false)
      (ht : p.tick? e.status e.relations e.now = some p') :
      Move a e [] (e.updateSession s (·.withPoller p'))
  | emitted {s : SessionId} {x : Session} {p p' : Poller} {held : Snapshot} {next : Instant}
      {l : Line} {frames : Channel Message} (hx : e.session? s = some x)
      (hp : x.role = .party p false) (hs : e.shutdown = false)
      (hl : e.board.line? (lineOf s) = some l) (hh : p.phase = .sending held next)
      (ht : p.emit l.frames = .sent p' frames) :
      Move a e [.sent s (.snapshot held)]
        { (e.withBoard (e.board.updateFrames (lineOf s) fun _ => frames)).updateSession s
            (·.withPoller p') with snapshots := e.snapshots + 1 }
  | pollerEnded {s : SessionId} {x : Session} {p p' : Poller} (hx : e.session? s = some x)
      (hp : x.role = .party p false) (hs : e.shutdown = false) {l : Line}
      (hl : e.board.line? (lineOf s) = some l) (ht : p.emit l.frames = .noReceiver p') :
      Move a e [] (e.updateSession s (·.withPoller p'))
  | pollerStopped {s : SessionId} {x : Session} {p : Poller} {b : Bool}
      (ha : a = .finishPoller s) (hx : e.session? s = some x) (hp : x.role = .party p b)
      (hb : e.pollerRuns b = false) : Move a e [] (e.updateSession s (·.withPoller p.finish))
  | driven {s : SessionId} {x : Session} (ha : a = .drive s) (hx : e.session? s = some x)
      (hr : x.stage = .ready) : Move a e [] (e.setStage s (.driven .reading .idle))
  | dropped {s : SessionId} {x : Session} (ha : a = .dropSession s) (hx : e.session? s = some x)
      (hr : x.stage = .ready ∨ x.isDriven = true) : Move a e [] (e.depart s .dropped)
  | leftUncleared {s : SessionId} {x : Session} {how : SessionEnd} (ha : a = .dropSession s)
      (hx : e.session? s = some x) (hr : x.stage = .leaving how) (hp : x.isParty = true) :
      Move a e [] (e.setStage s .dropped)
  | left {s : SessionId} {x : Session} {how : SessionEnd} (hx : e.session? s = some x)
      (hh : Leaving a e s x how) : Move a e [] (e.leave s how)
  | heard {s : SessionId} {x : Session} {w : Writer} {frame : Inflow} (ha : a = .read s frame)
      (hx : e.session? s = some x) (hr : x.stage = .driven .reading w) :
      Move a e [.heard s frame] e
  | ponged {s : SessionId} {x : Session} {w : Writer} {text : String} {board : Switchboard}
      (ha : a = .read s (.text text)) (hx : e.session? s = some x)
      (hr : x.stage = .driven .reading w) (ht : Inbound.parse text = .ok .ping)
      (hb : e.board.deliver (lineOf s) .pong = .ok board) :
      Move a e [.heard s (.text text), .sent s .pong] (e.withBoard board)
  | submitting {s : SessionId} {x : Session} {w : Writer} (hx : e.session? s = some x)
      (hr : x.stage = .driven .reading w) : Move a e [] (e.setStage s (.driven .submitting w))
  | took {s : SessionId} {x : Session} {r : Reader} {l : Line} {m : Message}
      {frames : Channel Message} (ha : a = .takeFrame s) (hx : e.session? s = some x)
      (hr : x.stage = .driven r .idle) (hl : e.board.line? (lineOf s) = some l)
      (hf : l.frames.take? = some (m, frames)) :
      Move a e [] ((e.withBoard (e.board.updateFrames (lineOf s) fun _ => frames)).setStage s
        (.driven r (.holding m)))
  | wrote {s : SessionId} {x : Session} {r : Reader} {m : Message} (ha : a = .frameWritten s)
      (hx : e.session? s = some x) (hr : x.stage = .driven r (.holding m)) :
      Move a e [.wrote s m] (e.setStage s (.driven r .idle))
  | ended {s : SessionId} {x : Session} {how : SessionEnd} (ha : a = .finishDriver s)
      (hx : e.session? s = some x) (hr : x.stage = .leaving how) (hp : x.pollerFinished = true)
      (hs : x.isParty = false) :
      Move a e [.ended s how]
        { (e.withBoard (e.board.deregisterSession x.user s).2).setStage s (.ended how) with
          closed := e.closed + 1 }
  | partyEnded {s : SessionId} {x : Session} {how : SessionEnd} (ha : a = .finishDriver s)
      (hx : e.session? s = some x) (hr : x.stage = .leaving how) (hp : x.pollerFinished = true)
      (hs : x.isParty = true) :
      Move a e [.ended s how] { e.setStage s (.ended how) with closed := e.closed + 1 }

/-- Sequences of moves. -/
inductive Moves (a : Action) : Engine → List Note → Engine → Prop
  | none (e : Engine) : Moves a e [] e
  | more {e e' e'' : Engine} {out rest : List Note} (h : Move a e out e')
      (hs : Moves a e' rest e'') : Moves a e (out ++ rest) e''

section
variable {a : Action} {e e' e'' : Engine} {out rest : List Note}

theorem Moves.one (h : Move a e out e') : Moves a e out e' := by
  simpa using Moves.more h (.none e')

theorem Moves.append (h : Moves a e out e') (h' : Moves a e' rest e'') :
    Moves a e (out ++ rest) e'' := by
  induction h with
  | none => exact h'
  | more hm _ ih =>
    rw [List.append_assoc]
    exact .more hm (ih h')

end

/-! ### Moves of the parts of the engine -/

section
variable (a : Action) (e : Engine)

theorem resume_resumed (p : Producer) (b : Bool) :
    Resumed e p b (e.resume p b).2 (e.resume p b).1 := by
  unfold resume
  split
  · exact .reader _ b
  · split
    · exact .heartbeat ‹_›
    · exact .inbound ‹_›
    · exact .status ‹_›
    · unfold addPartySession
      split
      · exact .noLine ‹_› ‹_›
      · exact .party ‹_› ‹_›
    · rename_i heartbeat inbound status party
      refine .nobody _ b fun c hc => ?_
      cases c with
      | heartbeat => exact absurd hc heartbeat
      | inbound => exact absurd hc inbound
      | openStatus s => exact absurd hc (status s)
      | openParty p u => exact absurd hc (party p u)
      | _ => rfl

theorem submit_moves (p : Producer) (ev : Event) :
    Moves a e (e.submit p ev).2 (e.submit p ev).1 := by
  unfold submit Queue.submit
  cases h : e.queue.events.trySend ev with
  | ok c =>
    obtain ⟨ho, hr, -⟩ := Channel.trySend_eq_ok_iff.1 h
    exact .one (.entered ho hr (resume_resumed _ p true))
  | error d =>
    cases d with
    | closed =>
      exact .one (.refused (Channel.trySend_eq_closed_iff.1 h) (resume_resumed _ p false))
    | full =>
      obtain ⟨ho, hr⟩ := Channel.trySend_eq_full_iff.1 h
      exact .one (.linedUp ho hr)

theorem offer_moves (ev : Event) : Moves a e (e.offer ev).2 (e.offer ev).1 := by
  unfold offer Queue.trySubmit
  cases h : e.queue.events.trySend ev with
  | ok c =>
    obtain ⟨ho, hr, -⟩ := Channel.trySend_eq_ok_iff.1 h
    exact .one (.offered ho hr)
  | error d => exact .one .declined

theorem giveUp_moves : Moves a e (e.giveUp).2 (e.giveUp).1 := by
  unfold giveUp
  split
  · exact .none e
  · exact .one (.timedOut ‹_› (resume_resumed _ _ false))

theorem answer_moves (t : Nat) {r : CallResult} (hr : Warranted a e t r) (ho : Owns a e t) :
    Moves a e (e.answer t r).2 (e.answer t r).1 :=
  .one (.answered t hr ho)

theorem authorize_moves (t : Nat) (p : Party) (u : User) (opens : Bool) (ho : Owns a e t) :
    Moves a e (e.authorize t p u opens).2 (e.authorize t p u opens).1 := by
  unfold authorize
  split
  · exact answer_moves a e t trivial ho
  · exact .one (.called t (by simp) ho)

theorem startParty_moves (t : Nat) (m : Membership) (ho : Owns a e t) :
    Moves a e (e.startParty t m).2 (e.startParty t m).1 := by
  unfold startParty
  split
  · exact answer_moves a e t trivial ho
  · exact (Moves.one (.called t (by simp) ho)).append (submit_moves a _ _ _)

theorem lookupAnswered_moves (t : Nat) (g : Answer (Option Membership)) :
    Moves (.lookupAnswered t g) e (e.lookupAnswered t g).2 (e.lookupAnswered t g).1 := by
  unfold lookupAnswered
  split
  · rename_i hc
    have ho : Owns (.lookupAnswered t g) e t := .inr ⟨by simp [Action.concerns], _, hc⟩
    split
    · exact answer_moves _ e t trivial ho
    · exact answer_moves _ e t trivial ho
    · split
      · exact startParty_moves _ e t _ ho
      · exact answer_moves _ e t trivial ho
  · exact .none e

theorem openStatus_moves (t : Nat) (u : User) (ht : t + 1 = e.tickets) :
    Moves (.openStatus u) e (e.openStatus t u).2 (e.openStatus t u).1 := by
  unfold openStatus
  split
  · exact answer_moves _ e t trivial (.inl ⟨rfl, ht⟩)
  · rename_i hs
    split
    · exact answer_moves _ e t ‹_› (.inl ⟨rfl, ht⟩)
    · exact (Moves.one (.opened rfl (by simpa using hs) ‹_› ht)).append (submit_moves _ _ _ _)

theorem inbound_moves (t : Nat) (u : User) (h : Handle) (text : String) (ht : t + 1 = e.tickets) :
    Moves (.inbound u h text) e (e.inbound t u h text).2 (e.inbound t u h text).1 := by
  unfold inbound
  split
  · exact answer_moves _ e t trivial (.inl ⟨rfl, ht⟩)
  · dsimp only
    split
    · rename_i board hb
      have called : Move (.inbound u h text) (e.withBoard board) []
          ((e.withBoard board).await t .inbound) := .called t (by simp) (.inl ⟨rfl, ht⟩)
      exact (Moves.one (.replied rfl hb)).append ((Moves.one called).append (submit_moves _ _ _ _))
    · exact (Moves.one (.called t (by simp) (.inl ⟨rfl, ht⟩))).append (submit_moves _ _ _ _)

theorem friendsAnswered_moves (t : Nat) (g : Answer (Graph .friends)) :
    Moves (.friendsAnswered t g) e (e.friendsAnswered t g).2 (e.friendsAnswered t g).1 := by
  unfold friendsAnswered
  split
  · rename_i hc
    cases g with
    | error f => exact answer_moves _ e t trivial (.inr ⟨by simp [Action.concerns], _, hc⟩)
    | ok g =>
      exact (Moves.one (.refreshed .friends g rfl)).append
        (.one (.called t (by simp) (.inr ⟨by simp [Action.concerns], _, hc⟩)))
  · exact .none e

theorem partiesAnswered_moves (t : Nat) (g : Answer (Graph .parties)) :
    Moves (.partiesAnswered t g) e (e.partiesAnswered t g).2 (e.partiesAnswered t g).1 := by
  unfold partiesAnswered
  split
  · rename_i hc
    cases g with
    | error f => exact answer_moves _ e t trivial (.inr ⟨by simp [Action.concerns], _, hc⟩)
    | ok g =>
      exact (Moves.one (.refreshed .parties g rfl)).append
        (answer_moves _ _ t trivial (.inr ⟨by simp [Action.concerns], _, hc⟩))
  · exact .none e

theorem post_moves (h : Handle) (text : String) :
    Moves (.deliver h text) e (e.post h text).2 (e.post h text).1 := by
  unfold post
  split
  · exact .one (.posted rfl ‹_›)
  · exact .none e

theorem stop_moves (t : Nat) (ht : t + 1 = e.tickets) :
    Moves .shutdown e (e.stop t).2 (e.stop t).1 := by
  unfold stop
  dsimp only
  refine Moves.more (.told (.inl rfl)) ?_
  split
  · exact answer_moves _ _ t (.inl rfl) (.inl ⟨rfl, ht⟩)
  · exact (Moves.one (.awaited rfl)).append (.one (.called t (by simp) (.inl ⟨rfl, ht⟩)))

theorem dropCall_moves (t : Nat) : Moves (.dropCall t) e [] (e.dropCall t) := by
  unfold dropCall
  dsimp only
  split
  · exact .one (.forsookSession rfl ‹_›)
  · exact .one (.forsook rfl)

theorem stopped_moves (t : Nat) : Moves (.stopped t) e (e.stopped t).2 (e.stopped t).1 := by
  unfold stopped
  split
  · rename_i hc
    split
    · exact answer_moves _ e t (.inr rfl) (.inr ⟨by simp [Action.concerns], _, hc⟩)
    · exact .none e
  · exact .none e

theorem notifyStep_move {f : Fanout} (hd : e.dispatcher = .notifying f) :
    Move .dispatch e (e.notifyStep f).2 (e.notifyStep f).1 := by
  obtain ⟨ev, pending, stage, r⟩ := f
  unfold notifyStep
  cases stage with
  | next =>
    cases pending with
    | nil => exact .finished rfl hd
    | cons u rest =>
      dsimp only
      split
      · exact .missed rfl hd ‹_›
      · exact .found rfl hd ‹_›
  | sending u h =>
    dsimp only [Switchboard.sendNotice]
    cases hb : e.board.deliver h.line (.friendOnline ev.user) with
    | ok board => exact .notified rfl hd hb
    | error d =>
      cases d with
      | full => exact .crowded rfl hd hb
      | closed => exact .vanished rfl hd hb
  | removing u s => exact .removed rfl hd

/-- A step of the dispatcher is one move. -/
theorem dispatchStep_move :
    e.dispatchStep = (e, []) ∨ Move .dispatch e e.dispatchStep.2 e.dispatchStep.1 := by
  unfold dispatchStep
  split
  · rename_i hd
    unfold takeEvent
    split
    · exact .inr (.retired rfl hd ‹_›)
    · rename_i hs
      have hs : e.shutdown = false := by simpa using hs
      split
      · exact .inl rfl
      · dsimp only
        split
        · exact .inr (.began rfl hd hs ‹_›)
        · exact .inr (.promoted rfl hd hs ‹_› (resume_resumed _ _ true))
  · exact .inr (notifyStep_move e ‹_›)
  · exact .inl rfl

theorem dispatchStep_moves : Moves .dispatch e e.dispatchStep.2 e.dispatchStep.1 := by
  rcases dispatchStep_move e with h | h
  · rw [h]
    exact .none e
  · exact .one h

theorem wakeLoop_moves (kind : RefreshKind) :
    Moves a e (e.wakeLoop kind).2 (e.wakeLoop kind).1 := by
  unfold wakeLoop
  split
  · exact .none e
  · rename_i hs
    split
    · exact .one (.woke (by simpa using hs) ‹_›)
    · exact .none e

theorem loopAnswered_moves (kind : RefreshKind) (g : Answer (Graph kind)) :
    Moves a e [] (e.loopAnswered kind g) := by
  unfold loopAnswered
  split
  · exact .none e
  · rename_i hs
    split
    · exact .one (.loopAnswered (by simpa using hs) ‹_›)
    · exact .none e

theorem stopLoop_moves (kind : RefreshKind) : Moves a e [] (e.stopLoop kind) := by
  unfold stopLoop
  split
  · exact .one (.loopStopped kind ‹_›)
  · exact .none e

/-- A tick is one move. -/
theorem tick_move (s : SessionId) : e.tick s = e ∨ Move (.tick s) e [] (e.tick s) := by
  unfold tick
  split
  · rename_i p stopped _ hx
    split
    · rename_i hr
      obtain ⟨rfl, hs⟩ : stopped = false ∧ e.shutdown = false := by simpa [pollerRuns] using hr
      split
      · exact .inr (.ticked rfl hx rfl hs ‹_›)
      · exact .inl rfl
    · exact .inl rfl
  · exact .inl rfl

theorem tick_moves (s : SessionId) : Moves (.tick s) e [] (e.tick s) := by
  rcases tick_move e s with h | h
  · rw [h]
    exact .none e
  · exact .one h

theorem emit_moves (s : SessionId) : Moves a e (e.emit s).2 (e.emit s).1 := by
  unfold emit
  split
  · rename_i p stopped _ l hx hl
    split
    · rename_i hr
      obtain ⟨rfl, hs⟩ : stopped = false ∧ e.shutdown = false := by simpa [pollerRuns] using hr
      split
      · exact .one (.emitted hx rfl hs hl ‹_› ‹_›)
      · exact .one (.pollerEnded hx rfl hs hl ‹_›)
      · exact .none e
    · exact .none e
  · exact .none e

theorem finishPoller_moves (s : SessionId) :
    Moves (.finishPoller s) e [] (e.finishPoller s) := by
  unfold finishPoller
  split
  · split
    · exact .none e
    · rename_i hx hr
      exact .one (.pollerStopped rfl hx rfl (by simpa using hr))
  · exact .none e

theorem drive_moves (s : SessionId) : Moves (.drive s) e [] (e.drive s) := by
  unfold drive
  split
  · exact .one (.driven rfl ‹_› rfl)
  · exact .none e

theorem dropSession_moves (s : SessionId) : Moves (.dropSession s) e [] (e.dropSession s) := by
  unfold dropSession
  split
  · exact .one (.dropped rfl ‹_› (.inl rfl))
  · exact .one (.dropped rfl ‹_› (.inr rfl))
  · exact .one (.leftUncleared rfl ‹_› rfl rfl)
  · exact .none e

theorem hear_moves {s : SessionId} {x : Session} {w : Writer} (frame : Inflow)
    (hx : e.session? s = some x) (hr : x.stage = .driven .reading w) :
    Moves (.read s frame) e (.heard s frame :: (e.hear s x.user w frame).2)
      (e.hear s x.user w frame).1 := by
  have heard : Moves (.read s frame) e [.heard s frame] e := .one (.heard rfl hx hr)
  cases frame with
  | text t =>
    unfold hear
    dsimp only
    split
    · exact heard
    · rename_i ht
      split
      · rename_i board hb
        have hx' : (e.withBoard board).session? s = some x := hx
        exact (Moves.one (.ponged rfl hx hr ht hb)).append
          ((Moves.one (.submitting hx' hr)).append (submit_moves _ _ _ _))
      · exact heard.append ((Moves.one (.submitting hx hr)).append (submit_moves _ _ _ _))
  | other => exact heard
  | close => exact heard.append (.one (.left hx (.closed hr rfl)))
  | finished => exact heard.append (.one (.left hx (.finished hr rfl)))
  | failure => exact heard.append (.one (.left hx (.unreadable hr rfl)))

theorem read_moves (s : SessionId) (frame : Inflow) :
    Moves (.read s frame) e (e.read s frame).2 (e.read s frame).1 := by
  unfold read
  split
  · rename_i hx
    have h := hear_moves e frame hx rfl
    exact h
  · exact .none e

theorem takeFrame_moves (s : SessionId) :
    Moves (.takeFrame s) e (e.takeFrame s).2 (e.takeFrame s).1 := by
  unfold takeFrame
  split
  · split
    · exact (Moves.one (.took rfl ‹_› rfl ‹_› ‹_›)).append (emit_moves _ _ s)
    · exact .none e
  · exact .none e

theorem frameWritten_moves (s : SessionId) :
    Moves (.frameWritten s) e (e.frameWritten s).2 (e.frameWritten s).1 := by
  unfold frameWritten
  split
  · exact .one (.wrote rfl ‹_› rfl)
  · exact .none e

theorem writeFailed_moves (s : SessionId) : Moves (.writeFailed s) e [] (e.writeFailed s) := by
  unfold writeFailed
  split
  · exact .one (.left ‹_› (.unwritable rfl rfl))
  · exact .none e

theorem starve_moves (s : SessionId) : Moves (.starve s) e [] (e.starve s) := by
  unfold starve
  split
  · rename_i x l hx hl
    split
    · rename_i r hr
      split
      · rename_i h
        obtain ⟨hi, hn⟩ : l.frames.items = [] ∧ e.hasSender s x = false := by
          simpa using h
        exact .one (.left hx (.starved hr rfl hl hi hn))
      · exact .none e
    · exact .none e
  · exact .none e

theorem cancel_moves (s : SessionId) : Moves (.cancel s) e [] (e.cancel s) := by
  unfold cancel
  split
  · rename_i x hx
    split
    · rename_i h
      obtain ⟨hd, hc⟩ : x.isDriven = true ∧ e.isCancelled s x = true := by simpa using h
      unfold Session.isDriven at hd
      split at hd
      · rename_i r w hr
        exact .one (.left hx (.cancelled hr rfl hc))
      · cases hd
    · exact .none e
  · exact .none e

theorem finishDriver_moves (s : SessionId) :
    Moves (.finishDriver s) e (e.finishDriver s).2 (e.finishDriver s).1 := by
  unfold finishDriver
  split
  · rename_i x hx
    split
    · rename_i how hr
      split
      · rename_i hp
        dsimp only
        split
        · exact .one (.partyEnded rfl hx hr hp ‹_›)
        · rename_i hs
          exact .one (.ended rfl hx hr hp (by simpa using hs))
      · exact .none e
    · exact .none e
  · exact .none e

/-- The state from which the moves of an action start: for a call, after it has taken its ticket. -/
def ticketed (a : Action) (e : Engine) : Engine :=
  match a.isCall with
  | true => { e with tickets := e.tickets + 1 }
  | false => e

theorem ticketed_moves : Moves a (ticketed a e) (e.step a).2 (e.step a).1 := by
  cases a with
  | heartbeat u =>
    exact (Moves.one (.called e.tickets (by simp) (.inl ⟨rfl, rfl⟩))).append (submit_moves _ _ _ _)
  | offer ev => exact offer_moves _ e ev
  | openStatus u => exact openStatus_moves _ e.tickets u rfl
  | authorize p u => exact authorize_moves _ _ e.tickets p u false (.inl ⟨rfl, rfl⟩)
  | openParty p u => exact authorize_moves _ _ e.tickets p u true (.inl ⟨rfl, rfl⟩)
  | startParty m => exact startParty_moves _ _ e.tickets m (.inl ⟨rfl, rfl⟩)
  | inbound u h text => exact inbound_moves _ e.tickets u h text rfl
  | refreshNow => exact .one (.called e.tickets (by simp) (.inl ⟨rfl, rfl⟩))
  | closeSession u =>
    unfold step closeSession
    dsimp only
    split
    · exact .one (.evicted rfl ‹_›)
    · exact .one (.dismissed rfl ‹_›)
  | dropCall t => exact dropCall_moves e t
  | shutdown => exact stop_moves _ e.tickets rfl
  | signalShutdown => exact .one (.told (.inr rfl))
  | deregister u => exact .one (.deregistered rfl)
  | deregisterSession u s => exact .one (.sessionDeregistered rfl)
  | deliver h text => exact post_moves e h text
  | lookupAnswered t g => exact lookupAnswered_moves e t g
  | friendsAnswered t g => exact friendsAnswered_moves e t g
  | partiesAnswered t g => exact partiesAnswered_moves e t g
  | loopAnswered kind g => exact loopAnswered_moves _ e kind g
  | giveUp => exact giveUp_moves _ e
  | dispatch => exact dispatchStep_moves e
  | wakeLoop kind => exact wakeLoop_moves _ e kind
  | stopLoop kind => exact stopLoop_moves _ e kind
  | stopped t => exact stopped_moves e t
  | tick s => exact tick_moves e s
  | emit s => exact emit_moves _ e s
  | finishPoller s => exact finishPoller_moves e s
  | drive s => exact drive_moves e s
  | dropSession s => exact dropSession_moves e s
  | read s frame => exact read_moves e s frame
  | takeFrame s => exact takeFrame_moves e s
  | frameWritten s => exact frameWritten_moves e s
  | writeFailed s => exact writeFailed_moves e s
  | starve s => exact starve_moves e s
  | cancel s => exact cancel_moves e s
  | finishDriver s => exact finishDriver_moves e s
  | elapse d => exact .one (.elapsed d)

/-- Every action is a sequence of moves. -/
theorem step_moves : Moves a e (e.step a).2 (e.step a).1 := by
  have moves := ticketed_moves a e
  unfold ticketed at moves
  split at moves
  · exact (Moves.one .ticket).append moves
  · exact moves

end

/-! ### Invariants -/

section
variable {a : Action} {e e' : Engine} {out ns : List Note} {P : Engine → List Note → Prop}

/-- A sequence of moves preserves what every move of the action preserves. -/
theorem Moves.keeps
    (move : ∀ {e out e' ns}, Move a e out e' → P e ns → P e' (ns ++ out))
    (h : Moves a e out e') (hP : P e ns) : P e' (ns ++ out) := by
  induction h generalizing ns with
  | none => simpa using hP
  | more hm _ ih =>
    rw [← List.append_assoc]
    exact ih (move hm hP)

/-- A run preserves what every move of its actions preserves. -/
theorem run_keeps {as : List Action}
    (move : ∀ a ∈ as, ∀ {e out e' ns}, Move a e out e' → P e ns → P e' (ns ++ out))
    (hP : P e ns) : P (e.run as).1 (ns ++ (e.run as).2) := by
  induction as generalizing e ns with
  | nil => simpa [run] using hP
  | cons a as ih =>
    have hs := (step_moves a e).keeps (move a (by simp)) hP
    simpa [run, Engine.andThen] using ih (fun b hb => move b (by simp [hb])) hs

/-- As `Moves.keeps`, with the notes of the step starting from none. -/
theorem step_makes (move : ∀ {e out e' ns}, Move a e out e' → P e ns → P e' (ns ++ out))
    (hP : P e []) : P (e.step a).1 (e.step a).2 :=
  (step_moves a e).keeps move hP

/-- As `run_keeps`, with the notes of the run starting from none. -/
theorem run_makes {as : List Action}
    (move : ∀ a ∈ as, ∀ {e out e' ns}, Move a e out e' → P e ns → P e' (ns ++ out))
    (hP : P e []) : P (e.run as).1 (e.run as).2 :=
  run_keeps move hP

theorem run_append (e : Engine) (as bs : List Action) :
    e.run (as ++ bs) =
      (((e.run as).1.run bs).1, (e.run as).2 ++ ((e.run as).1.run bs).2) := by
  induction as generalizing e with
  | nil => rfl
  | cons a as ih => simp [run, andThen, ih]

/-- The state after `start`, with a queue of the configured size. -/
def fresh (config : Config) (status : StatusStore) : Engine :=
  initial config status
    ⟨⟨config.queueCapacity, [], true⟩, [], config.queueOverflowWait.nanos, 0, 0⟩

theorem start_eq_fresh {config : Config} (h : start config = .ok e) :
    ∃ status, StatusStore.create? config.statusTtl = some status ∧ e = fresh config status := by
  obtain ⟨status, queue, hst, hq, rfl⟩ := start_eq_ok h
  exact ⟨status, hst, by rw [Queue.create?_eq_some hq, fresh]⟩

/-- The actions `as` lead from a started engine to `e` with notes `ns`. -/
def Reaches (config : Config) (as : List Action) (e : Engine) (ns : List Note) : Prop :=
  ∃ e₀, start config = .ok e₀ ∧ e₀.run as = (e, ns)

theorem Reaches.of_start {config : Config} (h : start config = .ok e) (as : List Action) :
    Reaches config as (e.run as).1 (e.run as).2 :=
  ⟨e, h, rfl⟩

/-- What holds of a fresh engine and is preserved by every move holds of every reachable one. -/
theorem Reaches.keeps {config : Config} {as : List Action} (h : Reaches config as e ns)
    (first : ∀ status, StatusStore.create? config.statusTtl = some status →
      P (fresh config status) [])
    (move : ∀ a ∈ as, ∀ {e out e' ns}, Move a e out e' → P e ns → P e' (ns ++ out)) :
    P e ns := by
  obtain ⟨e₀, hs, hr⟩ := h
  obtain ⟨status, hst, rfl⟩ := start_eq_fresh hs
  have kept := run_keeps move (first status hst)
  rw [hr] at kept
  simpa using kept

end

end Presence.Engine
