import Presence.Proofs.Engine.Pollers
import Presence.Proofs.Simulation.Workload

/-!
Termination at one moment. If both loops have a positive pause, every enabled action decreases the
load, in any order and for any answers of the source, so a moment settles after finitely many
actions. Without a pause, which validated settings allow, a loop with a failing source fetches at
one moment forever.
-/

namespace Presence

namespace World

open Engine (Action Reaches fetches lineOf)
open Engine.Action
open Load (Lighter)

/-! ### Enabled actions -/

/-- Actions that are enabled at this moment, for any answers of the source. -/
inductive Due (w : World) : Action → Prop
  | giveUp {x : Waiter Producer} {q : Queue Producer}
      (h : w.engine.queue.giveUp? w.engine.now = some (x, q)) : Due w .giveUp
  | read {s : SessionId} {x : Session} {r : Writer} {frame : Inflow} {rest : List Inflow}
      (hx : w.engine.session? s = some x) (hr : x.stage = .driven .reading r)
      (hi : (w.client s).inbox = frame :: rest) : Due w (.read s frame)
  | finishPoller {s : SessionId} {x : Session} {p : Poller} {b : Bool}
      (hx : w.engine.session? s = some x) (hp : x.role = .party p b)
      (hb : w.engine.pollerRuns b = false) (hf : p.isFinished = false) : Due w (.finishPoller s)
  | cancel {s : SessionId} {x : Session} (hx : w.engine.session? s = some x)
      (hd : x.isDriven = true) (hc : w.engine.isCancelled s x = true) : Due w (.cancel s)
  | finishDriver {s : SessionId} {x : Session} {how : SessionEnd}
      (hx : w.engine.session? s = some x) (hr : x.stage = .leaving how)
      (hp : x.pollerFinished = true) : Due w (.finishDriver s)
  | notify {f : Fanout} (hd : w.engine.dispatcher = .notifying f) : Due w .dispatch
  | takeEvent (hd : w.engine.dispatcher = .idle)
      (hw : w.engine.shutdown = true ∨ w.engine.queue.events.items ≠ []) : Due w .dispatch
  | tick {s : SessionId} {x : Session} {p : Poller} {due : Nat}
      (hx : w.engine.session? s = some x) (hp : x.role = .party p false)
      (hs : w.engine.shutdown = false) (hh : p.phase = .waiting due) (hd : due ≤ w.engine.now) :
      Due w (.tick s)
  | emit {s : SessionId} {x : Session} {p : Poller} {l : Line} {held : Snapshot} {next : Instant}
      (hx : w.engine.session? s = some x) (hp : x.role = .party p false)
      (hs : w.engine.shutdown = false) (hl : w.engine.board.line? (lineOf s) = some l)
      (hh : p.phase = .sending held next)
      (hr : l.frames.isOpen = false ∨ l.frames.hasRoom = true) : Due w (.emit s)
  | takeFrame {s : SessionId} {x : Session} {r : Reader} {l : Line} {m : Message}
      {c : Channel Message} (hx : w.engine.session? s = some x) (hr : x.stage = .driven r .idle)
      (hl : w.engine.board.line? (lineOf s) = some l) (hc : l.frames.take? = some (m, c)) :
      Due w (.takeFrame s)
  | starve {s : SessionId} {x : Session} {r : Reader} {l : Line}
      (hx : w.engine.session? s = some x) (hr : x.stage = .driven r .idle)
      (hl : w.engine.board.line? (lineOf s) = some l) (hi : l.frames.items = [])
      (hn : w.engine.hasSender s x = false) : Due w (.starve s)
  | frameWritten {s : SessionId} {x : Session} {r : Reader} {m : Message}
      (hx : w.engine.session? s = some x) (hr : x.stage = .driven r (.holding m)) :
      Due w (.frameWritten s)
  | writeFailed {s : SessionId} {x : Session} {r : Reader} {m : Message}
      (hx : w.engine.session? s = some x) (hr : x.stage = .driven r (.holding m)) :
      Due w (.writeFailed s)
  | wakeLoop {kind : RefreshKind} {wake : Instant} (hs : w.engine.shutdown = false)
      (hp : (w.engine.loop kind).phase = .sleeping wake) (hw : wake ≤ w.engine.now) :
      Due w (.wakeLoop kind)
  | loopAnswered {kind : RefreshKind} (g : Answer (Graph kind)) (hs : w.engine.shutdown = false)
      (hp : (w.engine.loop kind).phase = .fetching) : Due w (.loopAnswered kind g)
  | stopLoop {kind : RefreshKind} (hs : w.engine.shutdown = true)
      (hn : (w.engine.loop kind).isStopped = false) : Due w (.stopLoop kind)
  | lookupAnswered {t : Nat} {p : Party} {u : User} {opens : Bool} (g : Answer (Option Membership))
      (hc : w.engine.calls.get? t = some (.lookup p u opens)) : Due w (.lookupAnswered t g)
  | friendsAnswered {t : Nat} (g : Answer (Graph .friends))
      (hc : w.engine.calls.get? t = some .refreshFriends) : Due w (.friendsAnswered t g)
  | partiesAnswered {t n : Nat} (g : Answer (Graph .parties))
      (hc : w.engine.calls.get? t = some (.refreshParties n)) : Due w (.partiesAnswered t g)
  | stopped {t : Nat} (hc : w.engine.calls.get? t = some .shutdown)
      (hw : w.engine.workersStopped = true) : Due w (.stopped t)

/-- The number of frames sent and not read. -/
def unread (w : World) : Nat := w.clients.total (·.inbox.length)

/-- The load of a world at this moment. -/
def load (w : World) : Load := w.engine.load w.unread

section
variable {w w' : World} {a : Action} {config : Config} {as : List Action} {ns : List Note}

theorem engine_act (w : World) (a : Action) : (w.act a).engine = (w.engine.step a).1 := by
  cases a <;> rfl

/-- Reading a frame decreases the unread ones. -/
theorem unread_read {s : SessionId} {frame : Inflow} {rest : List Inflow}
    (hi : (w.client s).inbox = frame :: rest) : (w.act (.read s frame)).unread < w.unread := by
  unfold client at hi
  cases hc : w.clients.get? s with
  | none => simp [hc, Client.fresh] at hi
  | some c =>
    have less := Table.total_erase_add_le (fun c : Client => c.inbox.length) hc
    have here : c.inbox.length = rest.length + 1 := by
      simpa [hc] using congrArg List.length hi
    have there : (w.act (.read s frame)).unread =
        (w.client s).inbox.tail.length + (w.clients.erase s).total (·.inbox.length) := rfl
    rw [there, show (w.client s).inbox = frame :: rest from hi, List.tail_cons]
    exact Nat.lt_of_lt_of_le (by omega) less

/-- An enabled action decreases the load. -/
theorem Due.lighter (hd : Due w a) (hr : Reaches config as w.engine ns)
    (hp : ∀ kind, 0 < config.pause kind) (ht : 0 < config.partyPollInterval.nanos) :
    Lighter (w.act a).load w.load := by
  have asked {a : Action} (hu : (w.act a).unread = w.unread)
      (h : (w.engine.step a).1.asked < w.engine.asked) : Lighter (w.act a).load w.load := by
    refine .asked ?_
    unfold load
    rw [engine_act, hu]
    exact Nat.add_lt_add_left h _
  -- each case decreases one component of the load and may increase only later ones
  cases hd with
  | giveUp h => exact Engine.giveUp_lighter h
  | @read s x r frame rest hx hr hi =>
    have fewer := unread_read hi
    have less := Engine.read_asked_le w.engine s frame
    exact .asked (Nat.add_lt_add_of_lt_of_le fewer less)
  | finishPoller hx hp hb hf => exact Engine.finishPoller_lighter hx hp hb hf
  | @cancel s x hx hd hc =>
    have left : w.engine.cancel s = w.engine.leave s .cancelled := by
      simp [Engine.cancel, hx, hd, hc]
    show Lighter ((w.engine.cancel s).load _) _
    rw [left]
    exact Engine.leave_lighter hx hd _
  | finishDriver hx hr hp => exact Engine.finishDriver_lighter hx hr hp
  | @notify f hd =>
    have same : w.engine.dispatchStep = w.engine.notifyStep f := by
      simp [Engine.dispatchStep, hd]
    show Lighter (w.engine.dispatchStep.1.load _) _
    rw [same]
    exact Engine.notifyStep_lighter hd
  | takeEvent hd hw =>
    have same : w.engine.dispatchStep = w.engine.takeEvent := by simp [Engine.dispatchStep, hd]
    show Lighter (w.engine.dispatchStep.1.load _) _
    rw [same]
    exact Engine.takeEvent_lighter hd hw
  | @tick s x p due hx hp hs hh hd =>
    have often : 0 < p.interval := by
      rw [hr.paced s x hx p.interval (by simp [Session.pace?, hp])]
      exact ht
    exact Engine.tick_lighter hx hp hs hh hd often
  | emit hx hp hs hl hh hr => exact Engine.emit_lighter hx hp hs hl hh hr
  | takeFrame hx hr hl hc => exact Engine.takeFrame_lighter hx hr hl hc
  | @starve s x r l hx hr hl hi hn =>
    have left : w.engine.starve s = w.engine.leave s .cancelled := by
      simp [Engine.starve, hx, hl, hr, hi, hn]
    show Lighter ((w.engine.starve s).load _) _
    rw [left]
    exact Engine.leave_lighter hx (by simp [Session.isDriven, hr]) _
  | frameWritten hx hr => exact Engine.frameWritten_lighter hx hr
  | @writeFailed s x r m hx hr =>
    have left : w.engine.writeFailed s = w.engine.leave s .writeFailed := by
      obtain ⟨u, role, stage⟩ := x
      cases hr
      simp [Engine.writeFailed, hx]
    show Lighter ((w.engine.writeFailed s).load _) _
    rw [left]
    exact Engine.leave_lighter hx (by simp [Session.isDriven, hr]) _
  | wakeLoop hs hp hw => exact asked rfl (Engine.wakeLoop_asked_lt hs hp hw)
  | @loopAnswered kind g hs hf =>
    exact asked rfl (Engine.loopAnswered_asked_lt (hr.regular kind) (hp kind) hs hf g)
  | stopLoop hs hn => exact asked rfl (Engine.stopLoop_asked_lt hs hn)
  | lookupAnswered g hc => exact asked rfl (Engine.lookupAnswered_asked_lt hc g)
  | friendsAnswered g hc => exact asked rfl (Engine.friendsAnswered_asked_lt hc g)
  | partiesAnswered g hc => exact asked rfl (Engine.partiesAnswered_asked_lt hc g)
  | stopped hc hw => exact asked rfl (Engine.stopped_asked_lt hc hw)

/-! ### The next action is enabled -/

theorem mem_numbered {s : SessionId} {x : Session} (h : (s, x) ∈ w.numbered) :
    w.engine.session? s = some x := by
  obtain ⟨⟨y, i⟩, hy, he⟩ := List.mem_map.1 h
  obtain ⟨rfl, rfl⟩ := Prod.mk.inj he
  simpa [Engine.session?, Roster.get?] using List.mem_zipIdx_iff_getElem?.1 hy

theorem due_of_readAction? {s : SessionId} {x : Session} (hx : w.engine.session? s = some x)
    (h : w.readAction? s x = some a) : Due w a := by
  unfold readAction? at h
  split at h
  · cases h
    exact .read hx ‹_› ‹_›
  · cases h

theorem due_of_endAction? (hr : Reaches config as w.engine ns) {s : SessionId} {x : Session}
    (hx : w.engine.session? s = some x) (h : w.endAction? s x = some a) : Due w a := by
  unfold endAction? at h
  split at h
  · rename_i p b hp
    split at h
    · rename_i hb
      simp only [Bool.and_eq_true, Bool.not_eq_true'] at hb
      cases h
      exact .finishPoller hx hp hb.1 hb.2
    · rename_i hb
      split at h
      · rename_i how hs
        cases h
        -- the poller of a session that is left was cancelled, so it has finished
        obtain ⟨rfl, -⟩ := (hr.tended hx hp).left (by simp [hs, Stage.isLive])
        refine .finishDriver hx hs ?_
        simpa [Session.pollerFinished, hp, Engine.pollerRuns] using hb
      · split at h
        · cases h
          exact .cancel hx (by simp [Session.isDriven, ‹x.stage = _›]) ‹_›
        · cases h
      · cases h
  · cases h
    rename_i hp hs
    exact .finishDriver hx hs (by simp [Session.pollerFinished, hp])
  · split at h
    · cases h
      exact .cancel hx (by simp [Session.isDriven, ‹x.stage = _›]) ‹_›
    · cases h
  · cases h

theorem due_of_dispatchAction? (h : w.dispatchAction? = some a) : Due w a := by
  unfold dispatchAction? at h
  split at h
  · cases h
  · cases h
    exact .notify ‹_›
  · split at h
    · rename_i hd hw
      cases h
      exact .takeEvent hd (by simpa using hw)
    · cases h

/-- An action of a poller that may continue is enabled. -/
theorem due_of_pollAction? {s : SessionId} {x : Session} (hx : w.engine.session? s = some x)
    (he : w.endAction? s x = none) (h : w.pollAction? s x = some a) : Due w a := by
  unfold pollAction? at h
  split at h
  · cases h
  · rename_i p b hp
    have runs (hf : p.isFinished = false) : b = false ∧ w.engine.shutdown = false := by
      unfold endAction? at he
      simp only [hp, hf] at he
      split at he
      · cases he
      · rename_i hb
        simpa [Engine.pollerRuns] using hb
    split at h
    · rename_i due hh
      obtain ⟨rfl, hs⟩ := runs (by simp [Poller.isFinished, hh])
      split at h
      · cases h
        exact .tick hx hp hs hh ‹_›
      · cases h
    · rename_i held next hh
      obtain ⟨rfl, hs⟩ := runs (by simp [Poller.isFinished, hh])
      split at h
      · split at h
        · rename_i hl hroom
          cases h
          exact .emit hx hp hs hl hh (by simpa using hroom)
        · cases h
      · cases h
    · cases h

theorem due_of_writeAction? {s : SessionId} {x : Session} (hx : w.engine.session? s = some x)
    (h : w.writeAction? s x = some a) : Due w a := by
  unfold writeAction? at h
  split at h
  · rename_i r hs
    split at h
    · rename_i l hl
      split at h
      · rename_i hi
        cases h
        obtain ⟨m, rest, hm⟩ := List.exists_cons_of_ne_nil (by simpa using hi)
        have head : l.frames.take? = some (m, { l.frames with items := rest }) := by
          simp [Channel.take?, hm]
        exact .takeFrame hx hs hl head
      · rename_i hi
        split at h
        · cases h
        · rename_i hn
          cases h
          exact .starve hx hs hl (by simpa using hi) (by simpa using hn)
    · cases h
  · rename_i hs
    split at h
    · cases h
      exact .frameWritten hx hs
    · cases h
      exact .writeFailed hx hs
    · cases h
  · cases h

theorem due_of_loopAction? {kind : RefreshKind} (h : w.loopAction? kind = some a) : Due w a := by
  unfold loopAction? at h
  dsimp only at h
  split at h
  · cases h
  · rename_i hn
    split at h
    · cases h
      exact .stopLoop ‹_› (by simpa using hn)
    · rename_i hs
      have hs : w.engine.shutdown = false := by simpa using hs
      split at h
      · split at h
        · cases h
          exact .wakeLoop hs ‹_› ‹_›
        · cases h
      · split at h
        · cases h
          exact .loopAnswered _ hs ‹_›
        · cases h
          exact .loopAnswered _ hs ‹_›
      · cases h

theorem due_of_callAction? {t : Nat} {c : Call} (hc : w.engine.calls.get? t = some c)
    (h : w.callAction? t c = some a) : Due w a := by
  unfold callAction? at h
  split at h
  · cases h
    exact .lookupAnswered _ hc
  · cases h
    exact .friendsAnswered _ hc
  · cases h
    exact .partiesAnswered _ hc
  · split at h
    · cases h
      exact .stopped hc ‹_›
    · cases h
  · cases h

theorem of_each {f : SessionId → Session → Option Action}
    (h : (w.numbered.findSome? fun (s, x) => f s x) = some a) :
    ∃ s x, w.engine.session? s = some x ∧ (s, x) ∈ w.numbered ∧ f s x = some a := by
  obtain ⟨⟨s, x⟩, hx, hf⟩ := List.exists_of_findSome?_eq_some h
  exact ⟨s, x, mem_numbered hx, hx, hf⟩

/-- The next action is enabled. -/
theorem due_of_nextAction? (hr : Reaches config as w.engine ns) (h : w.nextAction? = some a) :
    Due w a := by
  unfold nextAction? at h
  simp only [Option.orElse_eq_orElse, Option.orElse_eq_or, Option.or_eq_some_iff] at h
  rcases h with h | ⟨-, h⟩
  · unfold giveUpAction? at h
    split at h
    · rename_i hg
      cases h
      obtain ⟨_, hg⟩ := Option.isSome_iff_exists.1 hg
      exact .giveUp hg
    · cases h
  rcases h with h | ⟨-, h⟩
  · obtain ⟨s, x, hx, -, h⟩ := of_each h
    exact due_of_readAction? hx h
  rcases h with h | ⟨quiet, h⟩
  · obtain ⟨s, x, hx, -, h⟩ := of_each h
    exact due_of_endAction? hr hx h
  rcases h with h | ⟨-, h⟩
  · exact due_of_dispatchAction? h
  rcases h with h | ⟨-, h⟩
  · obtain ⟨s, x, hx, hm, h⟩ := of_each h
    exact due_of_pollAction? hx (List.findSome?_eq_none_iff.1 quiet (s, x) hm) h
  rcases h with h | ⟨-, h⟩
  · obtain ⟨s, x, hx, -, h⟩ := of_each h
    exact due_of_writeAction? hx h
  rcases h with h | ⟨-, h⟩
  · exact due_of_loopAction? h
  rcases h with h | ⟨-, h⟩
  · exact due_of_loopAction? h
  obtain ⟨⟨t, c⟩, hc, h⟩ := List.exists_of_findSome?_eq_some h
  exact due_of_callAction? (Table.get?_of_mem hc) h

/-! ### With a pause -/

/-- One enabled action. Store and fault may change with it, so the source may answer differently
each time. -/
def Follows (w w' : World) : Prop :=
  ∃ a, Due w a ∧ w'.engine = (w.act a).engine ∧ w'.clients = (w.act a).clients

/-- Every sequence of enabled actions at this moment ends. -/
def Settles (w : World) : Prop := Acc (fun w' w => Follows w w') w

theorem settles (hr : Reaches config as w.engine ns) (hp : ∀ kind, 0 < config.pause kind)
    (ht : 0 < config.partyPollInterval.nanos) : w.Settles := by
  induction w using (InvImage.wf load Load.lighter_wf).induction generalizing as ns with
  | _ w ih =>
    refine Acc.intro w fun w' follows => ?_
    obtain ⟨a, hd, he, hc⟩ := follows
    have same : w'.load = (w.act a).load := by
      unfold load unread
      rw [he, hc]
    have less : Lighter w'.load w.load := same ▸ hd.lighter hr hp ht
    have reached := hr.step a
    rw [← engine_act, ← he] at reached
    exact ih w' less reached

/-- A world that settles in every order settles in the fixed order. -/
theorem Settles.rests (h : w.Settles) (hr : Reaches config as w.engine ns) :
    ∃ n, (w.settleWithin n).nextAction? = none := by
  induction h generalizing as ns with
  | intro w _ ih =>
    cases hn : w.nextAction? with
    | none => exact ⟨0, hn⟩
    | some a =>
      obtain ⟨n, hn'⟩ := ih (w.act a) ⟨a, due_of_nextAction? hr hn, rfl, rfl⟩
        (engine_act w a ▸ hr.step a)
      exact ⟨n + 1, by simpa [settleWithin, hn] using hn'⟩

/-! ### Without a pause -/

end

end World

namespace Engine

/-- Only the loop for friends is enabled, which fetches or is due, and retries without a pause. -/
structure Spinning (e : Engine) : Prop where
  waiting : e.queue.waiting = []
  events : e.queue.events.items = []
  sessions : e.sessions = []
  idle : e.dispatcher = .idle
  running : e.shutdown = false
  hasty : e.friendsLoop.retryDelay = 0
  awake : e.friendsLoop.phase = .fetching ∨
    ∃ wake, e.friendsLoop.phase = .sleeping wake ∧ wake ≤ e.now

section
variable {e : Engine} {config : Config}

/-- Without a retry delay a started engine is `Spinning`. -/
theorem spinning_of_start (h : start config = .ok e) (hz : config.refreshRetryDelay.nanos = 0) :
    Spinning e := by
  obtain ⟨status, -, rfl⟩ := start_eq_fresh h
  refine ⟨rfl, rfl, rfl, rfl, rfl, ?_, .inr ⟨0, rfl, Nat.le_refl _⟩⟩
  show Nat.min config.refreshRetryDelay.nanos _ = 0
  rw [hz]
  exact Nat.zero_min _

/-- The loop that is due starts its fetch. -/
theorem Spinning.wake {wake : Instant} (h : Spinning e) (hp : e.friendsLoop.phase = .sleeping wake)
    (hw : wake ≤ e.now) :
    (e.step (.wakeLoop .friends)).2 = [.fetching .friends e.now] ∧
      (e.step (.wakeLoop .friends)).1.now = e.now ∧
      (e.step (.wakeLoop .friends)).1.friendsLoop.phase = .fetching ∧
      Spinning (e.step (.wakeLoop .friends)).1 := by
  have woken : e.step (.wakeLoop .friends) =
      (e.withLoop .friends { e.friendsLoop with phase := .fetching },
        [.fetching .friends e.now]) := by
    simp [step, wakeLoop, h.running, loop, RefreshLoop.wake?, hp, hw]
  rw [woken]
  exact ⟨rfl, rfl, rfl, h.waiting, h.events, h.sessions, h.idle, h.running, h.hasty, .inl rfl⟩

/-- The fetch fails, and the loop is due at the same moment. -/
theorem Spinning.fail (h : Spinning e) (hp : e.friendsLoop.phase = .fetching) (f : SourceFailure) :
    (e.step (.loopAnswered .friends (.error f))).2 = [] ∧
      (e.step (.loopAnswered .friends (.error f))).1.now = e.now ∧
      (e.step (.loopAnswered .friends (.error f))).1.friendsLoop.phase = .sleeping e.now ∧
      Spinning (e.step (.loopAnswered .friends (.error f))).1 := by
  have failed : e.step (.loopAnswered .friends (.error f)) =
      ((e.withRelations e.relations).withLoop .friends
        { e.friendsLoop with phase := .sleeping e.now, err := e.friendsLoop.err + 1 }, []) := by
    simp [step, loopAnswered, h.running, loop, RefreshLoop.answer?, hp, Relationships.absorb,
      RefreshLoop.settle, Except.isOk, Except.toBool, h.hasty]
  rw [failed]
  exact ⟨rfl, rfl, rfl, h.waiting, h.events, h.sessions, h.idle, h.running, h.hasty,
    .inr ⟨_, rfl, Nat.le_refl _⟩⟩

/-- Without a retry delay two fetches start at the first moment. -/
theorem fetches_of_no_delay (h : start config = .ok e)
    (hz : config.refreshRetryDelay.nanos = 0) (f : SourceFailure) :
    fetches .friends (e.run [.wakeLoop .friends, .loopAnswered .friends (.error f),
      .wakeLoop .friends]).2 = [0, 0] := by
  have spinning := spinning_of_start h hz
  obtain ⟨status, -, rfl⟩ := start_eq_fresh h
  have due : (fresh config status).friendsLoop.phase = .sleeping 0 := rfl
  obtain ⟨first, now, fetching, spins⟩ := spinning.wake due (Nat.le_refl _)
  obtain ⟨silent, now', sleeping, spins'⟩ := spins.fail fetching f
  obtain ⟨again, -⟩ := spins'.wake sleeping (Nat.le_of_eq now'.symm)
  have zero : (fresh config status).now = 0 := rfl
  simp only [run, andThen, first, silent, again, now, now', zero]
  rfl

end

end Engine

namespace World

open Engine (Action Reaches fetches)

section
variable {w : World}

/-- With a failing source a next action exists, and `Spinning` is preserved. -/
theorem spinning_next {f : Fault} (h : Engine.Spinning w.engine) (hf : w.friendsFault = some f) :
    ∃ a, w.nextAction? = some a ∧ Due w a ∧ Engine.Spinning (w.act a).engine ∧
      (w.act a).friendsFault = some f := by
  -- no action comes before that of the loop for friends
  have next {a : Action} (ha : w.loopAction? .friends = some a) : w.nextAction? = some a := by
    simp [nextAction?, giveUpAction?, Queue.giveUp?, h.waiting, numbered, h.sessions,
      dispatchAction?, h.idle, h.running, h.events, ha]
  rcases h.awake with hp | ⟨wake, hp, hw⟩
  · have acts : w.loopAction? .friends = some (.loopAnswered .friends (.error f.failure)) := by
      simp [loopAction?, Engine.loop, RefreshLoop.isStopped, hp, h.running, friendsAnswer, faulty, hf]
    exact ⟨_, next acts, due_of_loopAction? acts, (h.fail hp f.failure).2.2.2, hf⟩
  · have acts : w.loopAction? .friends = some (.wakeLoop .friends) := by
      simp [loopAction?, Engine.loop, RefreshLoop.isStopped, hp, h.running, hw]
    exact ⟨_, next acts, due_of_loopAction? acts, (h.wake hp hw).2.2.2, hf⟩

/-- Some order of enabled actions has no end. -/
theorem not_settles_of_spinning {f : Fault} (h : Engine.Spinning w.engine)
    (hf : w.friendsFault = some f) : ¬ w.Settles := by
  intro hs
  induction hs with
  | intro w _ ih =>
    obtain ⟨a, -, hd, h', hf'⟩ := spinning_next h hf
    exact ih (w.act a) ⟨a, hd, rfl, rfl⟩ h' hf'

/-- The fixed order has no end. -/
theorem nextAction?_of_spinning {f : Fault} (h : Engine.Spinning w.engine)
    (hf : w.friendsFault = some f) (n : Nat) : (w.settleWithin n).nextAction? ≠ none := by
  induction n generalizing w with
  | zero =>
    obtain ⟨a, ha, -⟩ := spinning_next h hf
    simp [settleWithin, ha]
  | succ n ih =>
    obtain ⟨a, ha, -, h', hf'⟩ := spinning_next h hf
    simpa [settleWithin, ha] using ih h' hf'

end

/-! ### The main statement -/

section
variable {config : Config} {e : Engine}

/-- A started engine in a world whose source fails for friends. -/
def outage (e : Engine) (store : Store) (fault : Fault) : World :=
  { ofEngine e store with friendsFault := some fault }

/-- For any answers of the source the fetches of a loop are at least a pause apart, the smaller of
retry delay and interval; so their number in a stretch of time is bounded by the number of pauses in
it, plus one. For settings that start an engine, the pauses are positive and every moment settles in
any order of actions, exactly if the retry delay is not zero, which `validate` does not require. -/
theorem refresh_pauses_iff (hs : Engine.start config = .ok e) :
    (∀ as e ns, Reaches config as e ns → ∀ kind,
      Spaced (config.pause kind) (fetches kind ns) ∧
      ∀ lo hi, ((fetches kind ns).countP fun t => lo ≤ t && t ≤ hi) * config.pause kind ≤
        hi - lo + config.pause kind) ∧
    (0 < config.refreshRetryDelay.nanos ↔
      ∀ as e ns, Reaches config as e ns → ∀ kind, (fetches kind ns).Pairwise (· < ·)) ∧
    (0 < config.refreshRetryDelay.nanos ↔
      ∀ (w : World) as ns, Reaches config as w.engine ns → w.Settles) ∧
    (0 < config.refreshRetryDelay.nanos ↔
      ∀ (w : World) as ns, Reaches config as w.engine ns →
        ∃ n, (w.settleWithin n).nextAction? = none) := by
  have accepted := Engine.validate_of_start hs
  have begun : Reaches config [] e [] := .of_start hs []
  have pauses (hd : 0 < config.refreshRetryDelay.nanos) (kind : RefreshKind) :
      0 < config.pause kind := (config.pause_pos_iff accepted kind).2 hd
  have settled (hd : 0 < config.refreshRetryDelay.nanos) (w : World) (as : List Action)
      (ns : List Note) (h : Reaches config as w.engine ns) : w.Settles :=
    settles h (pauses hd) (Config.positive_of_validate accepted).partyPollInterval
  refine ⟨fun as e ns h kind => ⟨(h.regular kind).spaced, h.fetches_le kind⟩, ⟨?_, ?_⟩, ⟨?_, ?_⟩,
    ⟨?_, ?_⟩⟩
  · intro hd as e ns h kind
    have pause := pauses hd kind
    exact (h.regular kind).spaced.imp fun apart =>
      Nat.lt_of_lt_of_le (Nat.lt_add_of_pos_right pause) apart
  · intro ascend
    refine Nat.pos_of_ne_zero fun hz => ?_
    have twice := ascend _ _ _ (.of_start hs [.wakeLoop .friends,
      .loopAnswered .friends (.error .crashed), .wakeLoop .friends]) .friends
    rw [Engine.fetches_of_no_delay hs hz .crashed] at twice
    simp at twice
  · exact settled
  · intro all
    refine Nat.pos_of_ne_zero fun hz => ?_
    exact not_settles_of_spinning (w := outage e .empty .crash) (Engine.spinning_of_start hs hz) rfl
      (all _ _ _ begun)
  · intro hd w as ns h
    exact (settled hd w as ns h).rests h
  · intro all
    refine Nat.pos_of_ne_zero fun hz => ?_
    obtain ⟨n, hn⟩ := all (outage e .empty .crash) _ _ begun
    have spins := Engine.spinning_of_start hs hz
    exact nextAction?_of_spinning (w := outage e .empty .crash) spins rfl n hn

/-- The default settings: a failed fetch is retried after five seconds. -/
theorem refresh_pauses_standard :
    ∃ e₀ e ns, Engine.start Config.standard = .ok e₀ ∧
      Reaches Config.standard [.wakeLoop .friends, .loopAnswered .friends (.error .crashed),
        .wakeLoop .friends, .elapse (.ofSeconds 5), .wakeLoop .friends] e ns ∧
      fetches .friends ns = [0, 5000000000] ∧ (fetches .friends ns).Pairwise (· < ·) ∧
      ∀ (w : World) as ns, Reaches Config.standard as w.engine ns →
        ∃ n, (w.settleWithin n).nextAction? = none := by
  have started : Engine.start Config.standard = .ok _ := rfl
  have reached : Reaches Config.standard [.wakeLoop .friends,
      .loopAnswered .friends (.error .crashed), .wakeLoop .friends, .elapse (.ofSeconds 5),
      .wakeLoop .friends] _ _ := .of_start started _
  obtain ⟨-, ascend, -, rests⟩ := refresh_pauses_iff started
  have delayed : 0 < Config.standard.refreshRetryDelay.nanos := by decide
  exact ⟨_, _, _, started, reached, by decide +kernel, ascend.1 delayed _ _ _ reached .friends,
    rests.1 delayed⟩

/-- Validated settings of an engine that fetches twice at the first moment from a failing source,
and never settles. -/
theorem accepted_settings_spin :
    ∃ (config : Config) (e₀ : Engine), config = { Config.standard with refreshRetryDelay := ⟨0⟩ } ∧
      config.validate = .ok () ∧ Engine.start config = .ok e₀ ∧
      (∃ e ns, Reaches config [.wakeLoop .friends,
          .loopAnswered .friends (.error (.failed (.unavailable "down"))), .wakeLoop .friends] e ns ∧
        e.now = 0 ∧ fetches .friends ns = [0, 0]) ∧
      ∀ store n, ((outage e₀ store (.unavailable "down")).settleWithin n).nextAction? ≠ none := by
  have started : Engine.start { Config.standard with refreshRetryDelay := ⟨0⟩ } = .ok _ := rfl
  refine ⟨_, _, rfl, rfl, started, ⟨_, _, .of_start started _, rfl,
    Engine.fetches_of_no_delay started rfl _⟩, fun store n => ?_⟩
  exact nextAction?_of_spinning (w := outage _ store (.unavailable "down"))
    (Engine.spinning_of_start started rfl) rfl n

end

end World

end Presence
