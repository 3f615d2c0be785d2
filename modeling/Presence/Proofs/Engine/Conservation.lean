import Presence.Proofs.Engine.Moves

/-!
Conservation of events. The events accepted by the queue are, in order, those that the dispatcher
has processed, followed by those in the queue or, after the dispatcher has stopped, by those
discarded. Every submission that has returned is counted once, by its result.
-/

namespace Presence.Engine

/-! ### Reading a record -/

/-- The events that entered the queue, oldest first. -/
def accepted : List Note → List Event
  | [] => []
  | .accepted ev :: ns => ev :: accepted ns
  | _ :: ns => accepted ns

/-- The events that the dispatcher has processed, oldest first. -/
def processed : List Note → List Event
  | [] => []
  | .processed ev _ :: ns => ev :: processed ns
  | _ :: ns => processed ns

/-- The events discarded when the dispatcher stopped. -/
def discarded : List Note → List Event
  | [] => []
  | .discarded evs :: ns => evs ++ discarded ns
  | _ :: ns => discarded ns

/-- The number of submissions that returned `b`. -/
def returns (b : Bool) : List Note → Nat
  | [] => 0
  | .returned _ c :: ns => (if c = b then 1 else 0) + returns b ns
  | _ :: ns => returns b ns

section
variable (ns ms : List Note) (b : Bool)

@[simp] theorem accepted_append : accepted (ns ++ ms) = accepted ns ++ accepted ms := by
  induction ns with
  | nil => rfl
  | cons n ns ih => cases n <;> simp [accepted, ih]

@[simp] theorem processed_append : processed (ns ++ ms) = processed ns ++ processed ms := by
  induction ns with
  | nil => rfl
  | cons n ns ih => cases n <;> simp [processed, ih]

@[simp] theorem discarded_append : discarded (ns ++ ms) = discarded ns ++ discarded ms := by
  induction ns with
  | nil => rfl
  | cons n ns ih => cases n <;> simp [discarded, ih]

@[simp] theorem returns_append : returns b (ns ++ ms) = returns b ns + returns b ms := by
  induction ns with
  | nil => simp [returns]
  | cons n ns ih => cases n <;> simp [returns, ih, Nat.add_assoc]

end

/-! ### The invariant -/

/-- The accounts of the queue: one entry for each event and each returned submission. -/
structure Ledger (q : Queue Producer) (d : DispatcherPhase) (done : Nat) (ns : List Note) :
    Prop where
  events : accepted ns = processed ns ++ discarded ns ++ q.events.items
  running : d ≠ .stopped → discarded ns = [] ∧ q.events.isOpen = true
  stopped : d = .stopped → q.events.items = [] ∧ q.events.isOpen = false
  done : done = (processed ns).length
  enqueued : q.accepted = returns true ns
  dropped : q.dropped = returns false ns

/-- Notes that concern no event and no submission. -/
def Silent (out : List Note) : Prop :=
  accepted out = [] ∧ processed out = [] ∧ discarded out = [] ∧ ∀ b, returns b out = 0

variable {a : Action} {e e' : Engine} {ns out : List Note}

theorem Ledger.silent {q : Queue Producer} {d : DispatcherPhase} {done : Nat}
    (h : Ledger q d done ns) (hs : Silent out) : Ledger q d done (ns ++ out) := by
  obtain ⟨ha, hp, hd, hr⟩ := hs
  constructor
  · simpa [ha, hp, hd] using h.events
  · simpa [hd] using h.running
  · exact h.stopped
  · simpa [hp] using h.done
  · simpa [hr] using h.enqueued
  · simpa [hr] using h.dropped

/-- A continuation leaves the queue unchanged. -/
theorem Resumed.books {p : Producer} {b : Bool} (h : Resumed e p b out e') :
    e'.queue = e.queue ∧ e'.dispatcher = e.dispatcher ∧
      e'.dispatch.processed = e.dispatch.processed ∧ Silent out := by
  cases h <;> exact ⟨rfl, rfl, rfl, rfl, rfl, rfl, fun _ => rfl⟩

section
variable {q : Queue Producer} {d d' : DispatcherPhase} {done : Nat}

theorem Ledger.start (c : Channel Event) (wait : Nat) (hc : c.items = []) (ho : c.isOpen = true) :
    Ledger ⟨c, [], wait, 0, 0⟩ .idle 0 [] where
  events := by simp [accepted, processed, discarded, hc]
  running _ := ⟨rfl, ho⟩
  stopped := nofun
  done := rfl
  enqueued := rfl
  dropped := rfl

/-- Only the waiting producers have changed. -/
theorem Ledger.waiting (h : Ledger q d done ns) (ws : List (Waiter Producer)) :
    Ledger { q with waiting := ws } d done ns :=
  ⟨h.events, h.running, h.stopped, h.done, h.enqueued, h.dropped⟩

/-- The phase of the dispatcher has changed, with no event taken. -/
theorem Ledger.turn (h : Ledger q d done ns) (hd : d ≠ .stopped) (hd' : d' ≠ .stopped) :
    Ledger q d' done ns :=
  ⟨h.events, fun _ => h.running hd, fun hs => absurd hs hd', h.done, h.enqueued, h.dropped⟩

theorem Ledger.accept (p : Option Producer) (ev : Event) (h : Ledger q d done ns)
    (ho : q.events.isOpen = true) :
    Ledger (q.accept ev) d done (ns ++ [.accepted ev, .returned p true]) := by
  have hd : d ≠ .stopped := fun hs => by simp [(h.stopped hs).2] at ho
  constructor
  · simp [h.events, Queue.accept, accepted, processed, discarded]
  · intro _
    exact ⟨by simp [(h.running hd).1, discarded], ho⟩
  · exact fun hs => absurd hs hd
  · simp [h.done, processed]
  · simp [h.enqueued, Queue.accept, returns]
  · simp [h.dropped, Queue.accept, returns]

theorem Ledger.drop (p : Option Producer) (ev : Event) (h : Ledger q d done ns) :
    Ledger q.drop d done (ns ++ [.gaveUp ev, .returned p false]) := by
  constructor
  · simp [h.events, Queue.drop, accepted, processed, discarded]
  · intro hd
    exact ⟨by simp [(h.running hd).1, discarded], (h.running hd).2⟩
  · exact h.stopped
  · simp [h.done, processed]
  · simp [h.enqueued, Queue.drop, returns]
  · simp [h.dropped, Queue.drop, returns]

/-- The dispatcher takes the oldest event. -/
theorem Ledger.take {ev : Event} {t : Instant} {c : Channel Event} {f : Fanout} (h : Ledger q d done ns)
    (hd : d ≠ .stopped) (hc : q.events.take? = some (ev, c)) :
    Ledger { q with events := c } (.notifying f) (done + 1) (ns ++ [.processed ev t]) := by
  obtain ⟨hi, -, ho⟩ := Channel.take?_eq_some_iff.1 hc
  obtain ⟨hn, hq⟩ := h.running hd
  constructor
  · simp [h.events, hi, hn, accepted, processed, discarded]
  · intro _
    exact ⟨by simp [hn, discarded], by simp [ho, hq]⟩
  · nofun
  · simp [h.done, processed]
  · simp [h.enqueued, returns]
  · simp [h.dropped, returns]

/-- The dispatcher stops and the events in the queue are discarded. -/
theorem Ledger.hangUp (h : Ledger q d done ns) (hd : d ≠ .stopped) :
    Ledger q.hangUp .stopped done (ns ++ [.discarded q.events.items]) := by
  obtain ⟨hn, -⟩ := h.running hd
  constructor
  · simp [h.events, hn, Queue.hangUp, accepted, processed, discarded]
  · exact fun hs => absurd rfl hs
  · exact fun _ => ⟨rfl, rfl⟩
  · simp [h.done, processed]
  · simp [h.enqueued, Queue.hangUp, returns]
  · simp [h.dropped, Queue.hangUp, returns]

end

/-- The accounts of an engine. -/
def InOrder (e : Engine) (ns : List Note) : Prop :=
  Ledger e.queue e.dispatcher e.dispatch.processed ns

theorem InOrder.begin {ev : Event} {c : Channel Event} (h : InOrder e ns)
    (hd : e.dispatcher = .idle) (hc : e.queue.events.take? = some (ev, c)) :
    InOrder (e.begin ev { e.queue with events := c }) (ns ++ [.processed ev e.now]) :=
  Ledger.take h (by simp [hd]) hc

/-- A continuation preserves the accounts. -/
theorem InOrder.resumed {p : Producer} {b : Bool} (h : InOrder e ns)
    (hr : Resumed e p b out e') : InOrder e' (ns ++ out) := by
  obtain ⟨hq, hd, hn, hs⟩ := hr.books
  unfold InOrder at h ⊢
  rw [hq, hd, hn]
  exact h.silent hs

theorem InOrder.move (hm : Move a e out e') (h : InOrder e ns) : InOrder e' (ns ++ out) := by
  -- a move either lets an event in or out, or turns the dispatcher, or is silent
  have quiet : Silent [] := ⟨rfl, rfl, rfl, fun _ => rfl⟩
  cases hm with
  | forsook => exact (Ledger.waiting h _).silent quiet
  | forsookSession => exact (Ledger.waiting h _).silent quiet
  | dropped => exact (Ledger.waiting h _).silent quiet
  | left => exact (Ledger.waiting h _).silent quiet
  | linedUp => exact (Ledger.waiting h _).silent quiet
  | @entered p ev _ _ ho _ hr =>
    have h' : InOrder { e with queue := e.queue.accept ev } _ := Ledger.accept (some p) ev h ho
    simpa using h'.resumed hr
  | @refused p ev _ _ _ hr =>
    have h' : InOrder { e with queue := e.queue.drop } _ := Ledger.drop (some p) ev h
    simpa using h'.resumed hr
  | offered ho => exact Ledger.accept none _ h ho
  | declined => exact Ledger.drop none _ h
  | @timedOut w q _ _ hq hr =>
    obtain ⟨-, he⟩ := Queue.giveUp?_eq_some hq
    have h' : InOrder { e with queue := q } _ :=
      he ▸ Ledger.drop (some w.producer) w.event (Ledger.waiting h _)
    simpa using h'.resumed hr
  | began _ hd _ hq =>
    obtain ⟨c, hc, rfl⟩ := Queue.take?_eq_some hq
    exact h.begin hd hc
  | @promoted ev w _ _ _ _ hd _ hq hr =>
    obtain ⟨c, rest, hc, -, ho, rfl⟩ := Queue.take?_eq_some_waiter hq
    have h' : InOrder (e.begin ev _) _ :=
      Ledger.accept (some w.producer) w.event (Ledger.waiting (h.begin hd hc) rest) ho
    simpa using h'.resumed hr
  | retired _ hd => exact Ledger.hangUp h (by simp [hd])
  | finished _ hd => exact (Ledger.turn h (by simp [hd]) (by simp)).silent quiet
  | missed _ hd => exact (Ledger.turn h (by simp [hd]) (by simp)).silent quiet
  | found _ hd => exact (Ledger.turn h (by simp [hd]) (by simp)).silent quiet
  | notified _ hd =>
    exact (Ledger.turn h (by simp [hd]) (by simp)).silent ⟨rfl, rfl, rfl, fun _ => rfl⟩
  | crowded _ hd => exact (Ledger.turn h (by simp [hd]) (by simp)).silent quiet
  | vanished _ hd => exact (Ledger.turn h (by simp [hd]) (by simp)).silent quiet
  | removed _ hd => exact (Ledger.turn h (by simp [hd]) (by simp)).silent quiet
  | _ => exact Ledger.silent h ⟨rfl, rfl, rfl, fun _ => rfl⟩

/-! ### Results of calls -/

/-- The result of a `heartbeat` call is that of its submission. -/
def Told (ns : List Note) : Prop :=
  ∀ t b, .answered t (.submitted b) ∈ ns → .returned (some (.call t)) b ∈ ns

theorem Told.append {ms : List Note} (h : Told ns) (h' : Told ms) : Told (ns ++ ms) := by
  intro t b hb
  rw [List.mem_append] at hb ⊢
  exact hb.imp (h t b) (h' t b)

theorem Resumed.told {p : Producer} {b : Bool} (hr : Resumed e p b out e') (pre : List Note)
    (hp : .returned (some p) b ∈ pre) (hn : ∀ t c, .answered t (.submitted c) ∉ pre) :
    Told (pre ++ out) := by
  intro t c hc
  rw [List.mem_append] at hc ⊢
  have hout := hc.resolve_left (hn t c)
  cases hr <;> simp at hout
  obtain ⟨rfl, rfl⟩ := hout
  exact .inl hp

theorem Told.move (hm : Move a e out e') (h : Told ns) : Told (ns ++ out) := by
  refine h.append ?_
  cases hm with
  | entered _ _ hr => exact hr.told [_, _] (by simp) (by simp)
  | refused _ hr => exact hr.told [_, _] (by simp) (by simp)
  | timedOut _ hr => exact hr.told [_, _] (by simp) (by simp)
  | promoted _ _ _ _ hr => exact hr.told [_, _, _] (by simp) (by simp)
  | answered t hr =>
    intro u b hb
    simp at hb
    obtain ⟨-, rfl⟩ := hb
    exact hr.elim
  | _ => simp [Told]

/-! ### The main statement -/

theorem Reaches.inOrder {config : Config} {as : List Action} (h : Reaches config as e ns) :
    InOrder e ns :=
  h.keeps (fun _ _ => Ledger.start _ _ rfl rfl) fun _ _ _ _ _ _ hm hP => hP.move hm

theorem Reaches.told {config : Config} {as : List Action} (h : Reaches config as e ns) :
    Told ns :=
  h.keeps (P := fun _ ns => Told ns) (fun _ _ => by simp [Told]) fun _ _ _ _ _ _ hm hP =>
    hP.move hm

/-- While the dispatcher has not stopped, the accepted events are the processed ones followed by
those in the queue; afterwards, the processed ones followed by the discarded ones. The counters of
the queue are the numbers of submissions that returned `true` and `false`, and a `heartbeat` call is
answered as its submission returned. -/
theorem events_conserved {config : Config} {as : List Action} (h : Reaches config as e ns) :
    (e.dispatcher ≠ .stopped →
      accepted ns = processed ns ++ e.queue.events.items ∧ discarded ns = []) ∧
    (e.dispatcher = .stopped →
      accepted ns = processed ns ++ discarded ns ∧ e.queue.events.items = []) ∧
    e.metrics.eventsProcessed = (processed ns).length ∧
    e.metrics.heartbeatsEnqueued = returns true ns ∧
    e.metrics.heartbeatsDropped = returns false ns ∧
    ∀ t b, .answered t (.submitted b) ∈ ns → .returned (some (.call t)) b ∈ ns := by
  have books := h.inOrder
  refine ⟨fun hd => ?_, fun hd => ?_, books.done, books.enqueued, books.dropped, h.told⟩
  · have hn := (books.running hd).1
    exact ⟨by simpa [hn] using books.events, hn⟩
  · have hi := (books.stopped hd).1
    exact ⟨by simpa [hi] using books.events, hi⟩

/-- A producer waits for the only slot and gets it from the dispatcher; the next event is
dropped. -/
theorem events_conserved_one_slot :
    ∃ u e ns, Reaches { Config.standard with queueCapacity := 1 }
        [.offer ⟨u, .heartbeat⟩, .heartbeat u, .dispatch, .offer ⟨u, .connected⟩] e ns ∧
      accepted ns = processed ns ++ e.queue.events.items ∧
      processed ns = [⟨u, .heartbeat⟩] ∧ e.queue.events.items = [⟨u, .heartbeat⟩] ∧
      e.metrics.heartbeatsEnqueued = returns true ns ∧ returns true ns = 2 ∧
      e.metrics.heartbeatsDropped = returns false ns ∧ returns false ns = 1 := by
  have reached (u : User) : Reaches { Config.standard with queueCapacity := 1 }
      [.offer ⟨u, .heartbeat⟩, .heartbeat u, .dispatch, .offer ⟨u, .connected⟩] _ _ :=
    .of_start rfl _
  have hr := reached ⟨"ann", by decide, "ann", rfl⟩
  obtain ⟨runs, -, -, hq, hd, -⟩ := events_conserved hr
  refine ⟨_, _, _, hr, (runs ?_).1, ?_, ?_, hq, ?_, hd, ?_⟩
  all_goals decide +kernel

end Presence.Engine
