import Presence.Proofs.Engine.Fetches
import Presence.Simulation.World

/-!
The load of an engine at one moment: what remains to be done before time can advance, as a
lexicographic measure. An action that increases one entry decreases an earlier one, so every enabled
action decreases the load.
-/

namespace Presence

/-! ### Sums over lists and tables -/

/-- The sum of the weights of a list. -/
def tally {α : Type} (f : α → Nat) : List α → Nat
  | [] => 0
  | a :: rest => f a + tally f rest

section
variable {α : Type} {f : α → Nat} {l : List α} {a : α}

theorem tally_modify {i : Nat} (h : l[i]? = some a) (g : α → α) :
    tally f (l.modify i g) + f a = tally f l + f (g a) := by
  induction l generalizing i with
  | nil => simp at h
  | cons b rest ih =>
    cases i with
    | zero =>
      obtain rfl : b = a := by simpa using h
      simp only [List.modify_zero_cons, tally]
      omega
    | succ i =>
      have later := ih (i := i) (by simpa using h)
      simp only [List.modify_succ_cons, tally]
      omega

theorem tally_filter_le (p : α → Bool) : tally f (l.filter p) ≤ tally f l := by
  induction l with
  | nil => exact Nat.le_refl _
  | cons b rest ih =>
    rw [List.filter_cons]
    split <;> simp only [tally] <;> omega

/-- Removing an element removes its weight. -/
theorem tally_filter_add_le {p : α → Bool} (ha : a ∈ l) (hp : p a = false) :
    tally f (l.filter p) + f a ≤ tally f l := by
  induction l with
  | nil => cases ha
  | cons b rest ih =>
    rw [List.filter_cons]
    rcases List.mem_cons.1 ha with rfl | ha
    · have others := tally_filter_le (f := f) (l := rest) p
      simp only [hp, Bool.false_eq_true, if_false, tally]
      omega
    · have others := ih ha
      split <;> simp only [tally] <;> omega

end

namespace Table

variable {κ α : Type} [DecidableEq κ]

/-- The sum of the weights of a table's values. -/
def total (f : α → Nat) (t : Table κ α) : Nat := tally (fun e => f e.2) t.entries

theorem total_erase_le (f : α → Nat) (t : Table κ α) (k : κ) :
    (t.erase k).total f ≤ t.total f :=
  tally_filter_le _

theorem total_erase_add_le {t : Table κ α} {k : κ} {v : α} (f : α → Nat)
    (h : t.get? k = some v) : (t.erase k).total f + f v ≤ t.total f := by
  have there := mem_of_get? h
  exact tally_filter_add_le (f := fun e => f e.2) (p := fun e => e.1 ≠ k) there (by simp)

theorem total_insert (f : α → Nat) (t : Table κ α) (k : κ) (v : α) :
    (t.insert k v).total f = f v + (t.erase k).total f := rfl

end Table

namespace Roster

variable {r : Roster} {s : SessionId} {x : Session}

theorem tally_update (f : Session → Nat) (h : r.get? s = some x) (g : Session → Session) :
    tally f (r.update s g) + f x = tally f r + f (g x) := by
  unfold get? at h
  unfold update
  split at h
  · cases h
  · rw [if_neg ‹_›]
    exact tally_modify h g

end Roster

/-! ### The load -/

/-- The number of answers that a call can receive at this moment. -/
def Call.toDo : Call → Nat
  | .lookup .. => 1
  | .refreshFriends => 2
  | .refreshParties _ => 1
  | .shutdown => 1
  | _ => 0

/-- The number of actions of a loop before it sleeps or stops. -/
def RefreshLoop.toDo (l : RefreshLoop) (now : Instant) : Nat :=
  match l.phase with
  | .sleeping wake => if wake ≤ now then 3 else 1
  | .fetching => 2
  | .stopped => 0

/-- The number of actions of a driver before it returns. -/
def Stage.toDo : Stage → Nat
  | .leaving _ => 1
  | .ended _ => 0
  | .dropped => 0
  | _ => 2

/-- The number of actions of a poller before it waits or finishes: a tick and a delivery for each
tick that is due. -/
def PollerPhase.toDo (now : Instant) : PollerPhase → Nat
  | .waiting due => 2 * (now + 1 - due) + 1
  | .sending _ next => 2 * (now + 1 - next) + 2
  | .finished => 0

def Role.toDo (now : Instant) : Role → Nat
  | .status => 0
  | .party p _ => p.phase.toDo now

/-- The number of actions of a session's driver and poller. -/
def Session.toDo (now : Instant) (x : Session) : Nat := x.stage.toDo + x.role.toDo now

/-- The number of actions of the dispatcher before it takes the next event. -/
def DispatcherPhase.toDo : DispatcherPhase → Nat
  | .idle => 1
  | .notifying f =>
    3 * f.pending.length +
      match f.stage with
      | .next => 2
      | .removing .. => 3
      | .sending .. => 4
  | .stopped => 0

/-- The measure, most significant entry first. -/
structure Load where
  /-- Frames to be read, answers of the source, and fetches to be started. -/
  asked : Nat
  /-- Waiting producers. -/
  waiting : Nat
  /-- Actions of drivers and pollers. -/
  sessions : Nat
  /-- Events in the queue. -/
  events : Nat
  /-- Notices of the fanout in progress. -/
  notices : Nat
  /-- Frames to be written. -/
  frames : Nat

namespace Load

/-- The lexicographic order of loads. -/
inductive Lighter (a b : Load) : Prop
  | asked (h : a.asked < b.asked)
  | waiting (ha : a.asked ≤ b.asked) (h : a.waiting < b.waiting)
  | sessions (ha : a.asked ≤ b.asked) (hw : a.waiting ≤ b.waiting) (h : a.sessions < b.sessions)
  | events (ha : a.asked ≤ b.asked) (hw : a.waiting ≤ b.waiting) (hs : a.sessions ≤ b.sessions)
      (h : a.events < b.events)
  | notices (ha : a.asked ≤ b.asked) (hw : a.waiting ≤ b.waiting) (hs : a.sessions ≤ b.sessions)
      (he : a.events ≤ b.events) (h : a.notices < b.notices)
  | frames (ha : a.asked ≤ b.asked) (hw : a.waiting ≤ b.waiting) (hs : a.sessions ≤ b.sessions)
      (he : a.events ≤ b.events) (hn : a.notices ≤ b.notices) (h : a.frames < b.frames)

/-- The lexicographic order of tuples. -/
def Before : Nat × Nat × Nat × Nat × Nat × Nat → Nat × Nat × Nat × Nat × Nat × Nat → Prop :=
  Prod.Lex (· < ·) (Prod.Lex (· < ·) (Prod.Lex (· < ·) (Prod.Lex (· < ·)
    (Prod.Lex (· < ·) (· < ·)))))

theorem before_wf : WellFounded Before :=
  (Prod.lex Nat.lt_wfRel (Prod.lex Nat.lt_wfRel (Prod.lex Nat.lt_wfRel
    (Prod.lex Nat.lt_wfRel (Prod.lex Nat.lt_wfRel Nat.lt_wfRel))))).wf

/-- Well-foundedness of `Lighter`. -/
theorem lighter_wf : WellFounded Lighter := by
  refine Subrelation.wf (fun {a b} h => ?_) (InvImage.wf
    (fun l : Load => (l.asked, l.waiting, l.sessions, l.events, l.notices, l.frames)) before_wf)
  simp only [InvImage, Before, Prod.lex_def]
  cases h <;> omega

end Load

namespace Engine

open Load

/-- The answers that calls wait for, and the actions of the loops. -/
def asked (e : Engine) : Nat :=
  e.calls.total Call.toDo + (e.friendsLoop.toDo e.now + e.partiesLoop.toDo e.now)

/-- The load of an engine with `unread` frames not read. -/
def load (e : Engine) (unread : Nat) : Load where
  asked := unread + e.asked
  waiting := e.queue.waiting.length
  sessions := tally (·.toDo e.now) e.sessions
  events := e.queue.events.items.length
  notices := e.dispatcher.toDo
  frames := tally (2 * ·.frames.items.length) e.board.lines +
    tally (·.stage.held.length) e.sessions

section
variable {e e' : Engine} {out : List Note} {n : Nat}

/-! ### Submissions and calls -/

/-- A continuation adds no pending answer. -/
theorem Resumed.asked_le {p : Producer} {b : Bool} (h : Resumed e p b out e') :
    e'.asked ≤ e.asked ∧ e'.queue = e.queue := by
  have erased (t : Nat) : (e.calls.erase t).total Call.toDo ≤ e.calls.total Call.toDo :=
    Table.total_erase_le _ _ t
  cases h with
  | reader => exact ⟨Nat.le_refl _, rfl⟩
  | nobody => exact ⟨Nat.le_refl _, rfl⟩
  | _ => exact ⟨Nat.add_le_add_right (erased _) _, rfl⟩

theorem submit_asked_le (e : Engine) (p : Producer) (ev : Event) :
    (e.submit p ev).1.asked ≤ e.asked := by
  unfold submit
  rcases e.queue.submit p ev e.now with ⟨outcome, queue⟩
  cases outcome with
  | accepted => exact (resume_resumed { e with queue } p true).asked_le.1
  | dropped => exact (resume_resumed { e with queue } p false).asked_le.1
  | waiting => exact Nat.le_refl _

/-- A waiting producer drops its event. -/
theorem giveUp_lighter {w : Waiter Producer} {q : Queue Producer}
    (h : e.queue.giveUp? e.now = some (w, q)) : Lighter (e.giveUp.1.load n) (e.load n) := by
  have fewer : q.waiting.length < e.queue.waiting.length := by
    obtain ⟨hw, rfl⟩ := Queue.giveUp?_eq_some h
    have there := List.mem_of_find?_eq_some hw
    have one := List.length_pos_of_mem there
    have left := List.length_eraseP_of_mem there (List.find?_some hw)
    simp only [Queue.drop, left]
    omega
  obtain ⟨asked, queue⟩ := (resume_resumed { e with queue := q } w.producer false).asked_le
  unfold giveUp
  rw [h]
  refine .waiting (Nat.add_le_add_left asked n) ?_
  exact Nat.lt_of_le_of_lt (Nat.le_of_eq (congrArg (·.waiting.length) queue)) fewer

/-- A call receives its answer. -/
theorem asked_erase_lt {t : Nat} {c : Call} (hc : e.calls.get? t = some c) (hd : 0 < c.toDo) :
    asked { e with calls := e.calls.erase t } < e.asked := by
  have rest := Table.total_erase_add_le Call.toDo hc
  have less : (e.calls.erase t).total Call.toDo < e.calls.total Call.toDo := by omega
  exact Nat.add_lt_add_right less _

theorem asked_await_lt {t : Nat} {c d : Call} (hc : e.calls.get? t = some c)
    (hd : d.toDo < c.toDo) : (e.await t d).asked < e.asked := by
  have rest := Table.total_erase_add_le Call.toDo hc
  have less : (e.calls.insert t d).total Call.toDo < e.calls.total Call.toDo := by
    rw [Table.total_insert]
    omega
  exact Nat.add_lt_add_right less _

theorem startParty_asked_lt {t : Nat} {c : Call} (m : Membership)
    (hc : e.calls.get? t = some c) (hd : 0 < c.toDo) : (e.startParty t m).1.asked < e.asked := by
  unfold startParty
  split
  · exact asked_erase_lt hc hd
  · exact Nat.lt_of_le_of_lt (submit_asked_le _ _ _) (asked_await_lt hc hd)

theorem lookupAnswered_asked_lt {t : Nat} {p : Party} {u : User} {opens : Bool}
    (hc : e.calls.get? t = some (.lookup p u opens)) (g : Answer (Option Membership)) :
    (e.lookupAnswered t g).1.asked < e.asked := by
  have one : 0 < (Call.lookup p u opens).toDo := Nat.zero_lt_one
  unfold lookupAnswered
  rw [hc]
  dsimp only
  split
  · exact asked_erase_lt hc one
  · exact asked_erase_lt hc one
  · split
    · exact startParty_asked_lt _ hc one
    · exact asked_erase_lt hc one

theorem friendsAnswered_asked_lt {t : Nat} (hc : e.calls.get? t = some .refreshFriends)
    (g : Answer (Graph .friends)) : (e.friendsAnswered t g).1.asked < e.asked := by
  unfold friendsAnswered
  rw [hc]
  cases g with
  | error f => exact asked_erase_lt hc (Nat.zero_lt_succ _)
  | ok g => exact asked_await_lt (d := .refreshParties g.size) hc (Nat.lt_succ_self _)

theorem partiesAnswered_asked_lt {t k : Nat} (hc : e.calls.get? t = some (.refreshParties k))
    (g : Answer (Graph .parties)) : (e.partiesAnswered t g).1.asked < e.asked := by
  unfold partiesAnswered
  rw [hc]
  cases g with
  | error f => exact asked_erase_lt hc (Nat.zero_lt_succ _)
  | ok g => exact asked_erase_lt hc (Nat.zero_lt_succ _)

theorem stopped_asked_lt {t : Nat} (hc : e.calls.get? t = some .shutdown)
    (hw : e.workersStopped = true) : (e.stopped t).1.asked < e.asked := by
  unfold stopped
  rw [hc]
  simp only [hw, if_true]
  exact asked_erase_lt hc (Nat.zero_lt_succ _)

/-! ### Loops -/

theorem asked_withLoop_lt {kind : RefreshKind} {l : RefreshLoop}
    (h : l.toDo e.now < (e.loop kind).toDo e.now) : (e.withLoop kind l).asked < e.asked := by
  cases kind with
  | friends => exact Nat.add_lt_add_left (Nat.add_lt_add_right h _) _
  | parties => exact Nat.add_lt_add_left (Nat.add_lt_add_left h _) _

theorem wakeLoop_asked_lt {kind : RefreshKind} {wake : Instant} (hs : e.shutdown = false)
    (hp : (e.loop kind).phase = .sleeping wake) (hw : wake ≤ e.now) :
    (e.wakeLoop kind).1.asked < e.asked := by
  have woken : (e.loop kind).wake? e.now = some { e.loop kind with phase := .fetching } := by
    simp [RefreshLoop.wake?, hp, hw]
  unfold wakeLoop
  rw [woken, hs]
  refine asked_withLoop_lt ?_
  simp [RefreshLoop.toDo, hp, hw]

/-- The fetch of a loop is answered, and the loop sleeps. -/
theorem loopAnswered_asked_lt {config : Config} {kind : RefreshKind} {ts : List Instant}
    (hr : Regular config kind (e.loop kind) e.now ts) (hpos : 0 < config.pause kind)
    (hs : e.shutdown = false) (hp : (e.loop kind).phase = .fetching) (g : Answer (Graph kind)) :
    (e.loopAnswered kind g).asked < e.asked := by
  have long : 0 < (e.loop kind).interval :=
    hr.interval ▸ Nat.lt_of_lt_of_le hpos (config.pause_le_interval kind)
  have short : 0 < (e.loop kind).retryDelay := hr.retryDelay ▸ hpos
  unfold loopAnswered RefreshLoop.answer?
  simp only [hp, hs, Bool.false_eq_true, if_false]
  refine asked_withLoop_lt (e := e.withRelations _) ?_
  have before : ((e.withRelations (e.relations.absorb kind g).2).loop kind).toDo e.now = 2 := by
    rw [loop_withRelations]
    simp [RefreshLoop.toDo, hp]
  have later (b : Bool) : ((e.loop kind).settle b e.now).toDo e.now = 1 := by
    cases b with
    | true => exact if_neg (Nat.not_le.2 (Nat.lt_add_of_pos_right long))
    | false => exact if_neg (Nat.not_le.2 (Nat.lt_add_of_pos_right short))
  exact Nat.lt_of_le_of_lt (Nat.le_of_eq (later _)) (before ▸ Nat.lt_succ_self 1)

theorem stopLoop_asked_lt {kind : RefreshKind} (hs : e.shutdown = true)
    (hn : (e.loop kind).isStopped = false) : (e.stopLoop kind).asked < e.asked := by
  unfold stopLoop
  rw [hs]
  refine asked_withLoop_lt ?_
  cases hp : (e.loop kind).phase with
  | sleeping wake =>
    simp only [RefreshLoop.stop, RefreshLoop.toDo, hp]
    split <;> omega
  | fetching => simp [RefreshLoop.stop, RefreshLoop.toDo, hp]
  | stopped => simp [RefreshLoop.isStopped, hp] at hn

/-! ### Sessions -/

/-- If one session has less to do, all sessions together have. -/
theorem toDo_update_lt {s : SessionId} {x : Session} {f : Session → Session}
    (hx : e.session? s = some x) (hl : (f x).toDo e.now < x.toDo e.now) :
    tally (·.toDo e.now) (e.sessions.update s f) < tally (·.toDo e.now) e.sessions := by
  have change := Roster.tally_update (·.toDo e.now) hx f
  omega

theorem lighter_of_sessions
    (hl : tally (·.toDo e.now) e'.sessions < tally (·.toDo e.now) e.sessions)
    (ha : e'.asked = e.asked) (hn : e'.now = e.now)
    (hw : e'.queue.waiting.length ≤ e.queue.waiting.length) :
    Lighter (e'.load n) (e.load n) := by
  refine .sessions (Nat.le_of_eq (congrArg (n + ·) ha)) hw ?_
  show tally (·.toDo e'.now) e'.sessions < _
  rw [hn]
  exact hl

theorem role_stopPoller_toDo (x : Session) (now : Instant) :
    x.stopPoller.role.toDo now = x.role.toDo now := by
  obtain ⟨u, role, stage⟩ := x
  cases role <;> rfl

/-- A driver leaves its loop. -/
theorem leave_lighter {s : SessionId} {x : Session} (hx : e.session? s = some x)
    (hd : x.isDriven = true) (how : SessionEnd) :
    Lighter ((e.leave s how).load n) (e.load n) := by
  refine lighter_of_sessions (toDo_update_lt hx ?_) rfl rfl (List.length_filter_le ..)
  have role := role_stopPoller_toDo x e.now
  unfold Session.isDriven at hd
  split at hd
  · rename_i hs
    simp only [Session.toDo, hs, Stage.toDo, role]
    omega
  · cases hd

theorem finishDriver_lighter {s : SessionId} {x : Session} {how : SessionEnd}
    (hx : e.session? s = some x) (hr : x.stage = .leaving how) (hp : x.pollerFinished = true) :
    Lighter ((e.finishDriver s).1.load n) (e.load n) := by
  have less : Session.toDo e.now { x with stage := .ended how } < x.toDo e.now := by
    simp only [Session.toDo, hr, Stage.toDo]
    omega
  unfold finishDriver
  simp only [hx, hr, hp, if_true]
  split
  · exact lighter_of_sessions (toDo_update_lt hx less) rfl rfl (Nat.le_refl _)
  · exact lighter_of_sessions (toDo_update_lt hx less) rfl rfl (Nat.le_refl _)

/-- If a poller has less to do, all sessions together have. -/
theorem toDo_withPoller_lt {s : SessionId} {x : Session} {p q : Poller} {b : Bool}
    (hx : e.session? s = some x) (hp : x.role = .party p b)
    (hl : q.phase.toDo e.now < p.phase.toDo e.now) :
    tally (·.toDo e.now) (e.sessions.update s (·.withPoller q)) <
      tally (·.toDo e.now) e.sessions := by
  refine toDo_update_lt hx ?_
  obtain ⟨u, role, stage⟩ := x
  cases hp
  exact Nat.add_lt_add_left hl _

theorem finish_toDo_lt {p : Poller} (h : p.phase ≠ .finished) (now : Instant) :
    p.finish.phase.toDo now < p.phase.toDo now := by
  cases hh : p.phase with
  | waiting due => exact Nat.zero_lt_succ _
  | sending held next => exact Nat.zero_lt_succ _
  | finished => exact absurd hh h

theorem finishPoller_lighter {s : SessionId} {x : Session} {p : Poller} {b : Bool}
    (hx : e.session? s = some x) (hp : x.role = .party p b) (hb : e.pollerRuns b = false)
    (hf : p.isFinished = false) : Lighter ((e.finishPoller s).load n) (e.load n) := by
  have going : p.phase ≠ .finished := fun hh => by simp [Poller.isFinished, hh] at hf
  have same : e.finishPoller s = e.updateSession s (·.withPoller p.finish) := by
    obtain ⟨u, role, stage⟩ := x
    cases hp
    simp [finishPoller, hx, hb]
  rw [same]
  exact lighter_of_sessions (toDo_withPoller_lt hx hp (finish_toDo_lt going e.now)) rfl rfl
    (Nat.le_refl _)

/-- The tick after the one taken is due later. -/
theorem tick_lighter {s : SessionId} {x : Session} {p : Poller} {due : Nat}
    (hx : e.session? s = some x) (hp : x.role = .party p false) (hs : e.shutdown = false)
    (hh : p.phase = .waiting due) (hd : due ≤ e.now) (hi : 0 < p.interval) :
    Lighter ((e.tick s).load n) (e.load n) := by
  have same : e.tick s = e.updateSession s (·.withPoller { p with
      phase := .sending (partySnapshot e.status e.relations p.party e.now)
        (Poller.nextDue p.interval due e.now) }) := by
    obtain ⟨u, role, stage⟩ := x
    cases hp
    simp [tick, hx, pollerRuns, hs, Poller.tick?, hh, hd]
  have later : due < Poller.nextDue p.interval due e.now := by
    unfold Poller.nextDue
    split
    · exact Nat.lt_add_of_pos_right hi
    · exact Nat.lt_of_le_of_lt hd (Nat.lt_add_of_pos_right hi)
  rw [same]
  refine lighter_of_sessions (toDo_withPoller_lt hx hp ?_) rfl rfl (Nat.le_refl _)
  simp only [hh, PollerPhase.toDo]
  omega

theorem sending_of_noReceiver {p q : Poller} {c : Channel Message}
    (h : p.emit c = .noReceiver q) : ∃ held next, p.phase = .sending held next := by
  unfold Poller.emit at h
  split at h
  · exact ⟨_, _, ‹_›⟩
  · cases h

/-- A delivery by a poller decreases its work, or has no effect. -/
theorem emit_cases (e : Engine) (s : SessionId) :
    (e.emit s).1 = e ∨
      tally (·.toDo e.now) (e.emit s).1.sessions < tally (·.toDo e.now) e.sessions ∧
        (e.emit s).1.asked = e.asked ∧ (e.emit s).1.now = e.now ∧ (e.emit s).1.queue = e.queue := by
  unfold emit
  split
  · rename_i p stopped stage l hx hl
    split
    · split
      · rename_i held next q c hh ht
        obtain ⟨_, _, hh', -, -, -, rfl⟩ := Poller.emit_eq_sent ht
        refine .inr ⟨toDo_withPoller_lt hx rfl ?_, rfl, rfl, rfl⟩
        simp only [hh', PollerPhase.toDo]
        omega
      · rename_i q ht
        obtain ⟨held, next, hh⟩ := sending_of_noReceiver ht
        obtain ⟨-, rfl⟩ := Poller.emit_eq_noReceiver ht
        exact .inr ⟨toDo_withPoller_lt hx rfl (finish_toDo_lt (by simp [hh]) e.now), rfl, rfl, rfl⟩
      · exact .inl rfl
    · exact .inl rfl
  · exact .inl rfl

/-- A poller delivers its snapshot or finds the line closed. -/
theorem emit_lighter {s : SessionId} {x : Session} {p : Poller} {l : Line} {held : Snapshot}
    {next : Instant} (hx : e.session? s = some x) (hp : x.role = .party p false)
    (hs : e.shutdown = false) (hl : e.board.line? (lineOf s) = some l)
    (hh : p.phase = .sending held next) (hr : l.frames.isOpen = false ∨ l.frames.hasRoom = true) :
    Lighter ((e.emit s).1.load n) (e.load n) := by
  obtain ⟨u, role, stage⟩ := x
  cases hp
  cases ho : l.frames.isOpen with
  | false =>
    have same : (e.emit s).1 = e.updateSession s (·.withPoller p.finish) := by
      simp [emit, hx, hl, pollerRuns, hs, hh, Poller.emit, Channel.trySend, ho, Poller.finish]
    rw [same]
    exact lighter_of_sessions (toDo_withPoller_lt hx rfl (finish_toDo_lt (by simp [hh]) e.now)) rfl rfl
      (Nat.le_refl _)
  | true =>
    have room := hr.resolve_left (by simp [ho])
    have same : (e.emit s).1 = { (e.withBoard (e.board.updateFrames (lineOf s) fun _ =>
          l.frames.push (.snapshot held))).updateSession s
            (·.withPoller { p with phase := .waiting next }) with
        snapshots := e.snapshots + 1 } := by
      simp [emit, hx, hl, pollerRuns, hs, hh, Poller.emit, Channel.trySend, ho, room]
      rfl
    rw [same]
    refine lighter_of_sessions (toDo_withPoller_lt hx rfl ?_) rfl rfl (Nat.le_refl _)
    simp only [hh, PollerPhase.toDo]
    omega

/-! ### Frames -/

theorem tally_toDo_stage {s : SessionId} {x : Session} (stage : Stage)
    (hx : e.session? s = some x) (hs : stage.toDo = x.stage.toDo) :
    tally (·.toDo e.now) (e.setStage s stage).sessions = tally (·.toDo e.now) e.sessions := by
  have change := Roster.tally_update (·.toDo e.now) hx fun x => { x with stage }
  simp only [Session.toDo, hs] at change
  exact Nat.add_right_cancel change

theorem tally_held_stage {s : SessionId} {x : Session} (stage : Stage)
    (hx : e.session? s = some x) :
    tally (·.stage.held.length) (e.setStage s stage).sessions + x.stage.held.length =
      tally (·.stage.held.length) e.sessions + stage.held.length :=
  Roster.tally_update (·.stage.held.length) hx fun x => { x with stage }

/-- The writer's frame is written. -/
theorem frameWritten_lighter {s : SessionId} {x : Session} {r : Reader} {m : Message}
    (hx : e.session? s = some x) (hr : x.stage = .driven r (.holding m)) :
    Lighter ((e.frameWritten s).1.load n) (e.load n) := by
  have same : (e.frameWritten s).1 = e.setStage s (.driven r .idle) := by
    obtain ⟨u, role, stage⟩ := x
    cases hr
    simp [frameWritten, hx]
  have sessions := tally_toDo_stage (.driven r .idle) hx (by rw [hr]; rfl)
  have held := tally_held_stage (.driven r .idle) hx
  rw [hr] at held
  rw [same]
  refine .frames (Nat.le_refl _) (Nat.le_refl _) (Nat.le_of_eq sessions) (Nat.le_refl _)
    (Nat.le_refl _) ?_
  exact Nat.add_lt_add_left (Nat.lt_of_succ_le (Nat.le_of_eq held)) _

/-- A driver takes a frame; if its poller can deliver into the slot, its work decreases. -/
theorem takeFrame_lighter {s : SessionId} {x : Session} {r : Reader} {l : Line} {m : Message}
    {c : Channel Message} (hx : e.session? s = some x) (hr : x.stage = .driven r .idle)
    (hl : e.board.line? (lineOf s) = some l) (hc : l.frames.take? = some (m, c)) :
    Lighter ((e.takeFrame s).1.load n) (e.load n) := by
  let taken := e.withBoard (e.board.updateFrames (lineOf s) fun _ => c)
  have hx' : taken.session? s = some x := hx
  have same : e.takeFrame s = (taken.setStage s (.driven r (.holding m))).emit s := by
    obtain ⟨u, role, stage⟩ := x
    cases hr
    simp [takeFrame, hx, hl, hc, taken]
  have sessions := tally_toDo_stage (.driven r (.holding m)) hx' (by rw [hr]; rfl)
  rw [same]
  rcases emit_cases (taken.setStage s (.driven r (.holding m))) s with still | ⟨hl, ha, hn, hq⟩
  · have held := tally_held_stage (.driven r (.holding m)) hx'
    have lines := tally_modify (f := (2 * ·.frames.items.length)) hl fun l => { l with frames := c }
    have items : l.frames.items.length = c.items.length + 1 := by
      rw [(Channel.take?_eq_some_iff.1 hc).1, List.length_cons]
    rw [hr] at held
    have fewer : tally (2 * ·.frames.items.length) taken.board.lines + 2 =
        tally (2 * ·.frames.items.length) e.board.lines := by
      dsimp only at lines
      show tally _ (e.board.lines.modify (lineOf s) fun l => { l with frames := c }) + 2 = _
      omega
    have more : tally (·.stage.held.length)
        (taken.setStage s (.driven r (.holding m))).sessions =
          tally (·.stage.held.length) e.sessions + 1 := held
    rw [still]
    refine .frames (Nat.le_refl _) (Nat.le_refl _) (Nat.le_of_eq sessions) (Nat.le_refl _)
      (Nat.le_refl _) ?_
    show tally (2 * ·.frames.items.length) taken.board.lines + _ < _ + _
    omega
  · exact lighter_of_sessions (Nat.lt_of_lt_of_le hl (Nat.le_of_eq sessions)) ha hn
      (Nat.le_of_eq (congrArg (·.waiting.length) hq))

/-! ### Dispatching -/

/-- A step of the fanout decreases its work. -/
theorem notifyStep_toDo_lt (e : Engine) (f : Fanout) :
    ∃ d p, (e.notifyStep f).1 = { e with dispatch := d, dispatcher := p } ∧
      p.toDo < (DispatcherPhase.notifying f).toDo := by
  obtain ⟨ev, pending, stage, r⟩ := f
  unfold notifyStep
  cases stage with
  | next =>
    cases pending with
    | nil => exact ⟨_, _, rfl, Nat.lt_succ_self 1⟩
    | cons u rest =>
      dsimp only
      split
      · exact ⟨_, _, rfl, by simp [DispatcherPhase.toDo]⟩
      · exact ⟨_, _, rfl, by simp [DispatcherPhase.toDo]; omega⟩
  | sending u h =>
    dsimp only
    split
    · exact ⟨_, _, rfl, by simp [DispatcherPhase.toDo]⟩
    · exact ⟨_, _, rfl, by simp [DispatcherPhase.toDo]⟩
    · exact ⟨_, _, rfl, by simp [DispatcherPhase.toDo]⟩
  | removing u s => exact ⟨_, _, rfl, by simp [DispatcherPhase.toDo]⟩

theorem notifyStep_lighter {f : Fanout} (hd : e.dispatcher = .notifying f) :
    Lighter ((e.notifyStep f).1.load n) (e.load n) := by
  obtain ⟨d, p, same, less⟩ := notifyStep_toDo_lt e f
  rw [same]
  rw [← hd] at less
  exact .notices (Nat.le_refl _) (Nat.le_refl _) (Nat.le_refl _) (Nat.le_refl _) less

/-- The dispatcher takes an event, or stops. -/
theorem takeEvent_lighter (hd : e.dispatcher = .idle)
    (hw : e.shutdown = true ∨ e.queue.events.items ≠ []) :
    Lighter (e.takeEvent.1.load n) (e.load n) := by
  unfold takeEvent
  split
  · refine .notices (Nat.le_refl _) (Nat.le_refl _) (Nat.le_refl _) (Nat.zero_le _) ?_
    exact (hd ▸ Nat.zero_lt_one : 0 < e.dispatcher.toDo)
  · rename_i hs
    have some := hw.resolve_left hs
    cases ht : e.queue.take? with
    | none =>
      obtain ⟨ev, rest, he⟩ := List.exists_cons_of_ne_nil some
      simp only [Queue.take?, Channel.take?, he] at ht
      split at ht
      · cases ht
      · split at ht <;> cases ht
    | some taken =>
      obtain ⟨ev, promoted, q⟩ := taken
      cases promoted with
      | none =>
        obtain ⟨c, hc, rfl⟩ := Queue.take?_eq_some ht
        have items := (Channel.take?_eq_some_iff.1 hc).1
        refine .events (Nat.le_refl _) (Nat.le_refl _) (Nat.le_refl _) ?_
        show c.items.length < e.queue.events.items.length
        rw [items]
        exact Nat.lt_succ_self _
      | some w =>
        obtain ⟨c, rest, hc, hwait, -, rfl⟩ := Queue.take?_eq_some_waiter ht
        obtain ⟨asked, queue⟩ := (resume_resumed (e.begin ev ({ e.queue with
          events := c, waiting := rest }.accept w.event)) w.producer true).asked_le
        refine .waiting (Nat.add_le_add_left asked n) ?_
        have fewer : rest.length < e.queue.waiting.length := by
          rw [hwait]
          exact Nat.lt_succ_self _
        exact Nat.lt_of_le_of_lt (Nat.le_of_eq (congrArg (·.waiting.length) queue)) fewer

/-- Reading a frame adds no pending answer. -/
theorem read_asked_le (e : Engine) (s : SessionId) (frame : Inflow) :
    (e.read s frame).1.asked ≤ e.asked := by
  unfold read
  split
  · rename_i user role w hx
    cases frame with
    | text t =>
      unfold hear
      dsimp only [andThen]
      split
      · exact Nat.le_refl _
      · split <;> exact submit_asked_le _ _ _
    | _ => exact Nat.le_refl _
  · exact Nat.le_refl _

end

end Engine

end Presence
