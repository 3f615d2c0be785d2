import Presence.Channel
import Presence.Status

/-!
The queue of presence events. A producer at a full queue waits for a slot, at most for the overflow
wait. Waiting producers are served in order of arrival: a free slot goes to the first of them before
any other producer can take it. Every submission is counted once, as accepted when its event enters
the queue or as dropped when it does not. Deadlines are ideal: they expire at the exact nanosecond,
where the runtime's timers have a resolution of one millisecond.
-/

namespace Presence

/-- The kinds of events. -/
inductive EventKind
  | connected
  | heartbeat
deriving DecidableEq, Repr

/-- An event of a user. -/
structure Event where
  user : User
  kind : EventKind
deriving DecidableEq

/-- A producer waiting for a slot. -/
structure Waiter (π : Type) where
  producer : π
  event : Event
  deadline : Instant
deriving DecidableEq

/-- The queue; `π` is the type of producers. -/
structure Queue (π : Type) where
  events : Channel Event
  /-- The waiting producers in order of arrival. -/
  waiting : List (Waiter π)
  overflowWait : Nat
  accepted : Nat
  dropped : Nat

namespace Queue

variable {π : Type}

/-- An empty queue; `none` if no channel has this capacity. -/
def create? (capacity : Nat) (overflowWait : Duration) : Option (Queue π) :=
  (Channel.create? capacity).map fun c => ⟨c, [], overflowWait.nanos, 0, 0⟩

/-- The state of a submission after `submit`. -/
inductive Outcome
  | accepted
  | dropped
  | waiting
deriving DecidableEq, Repr

/-- The event enters the queue. -/
def accept (q : Queue π) (e : Event) : Queue π :=
  { q with events := q.events.push e, accepted := q.accepted + 1 }

/-- The submission is dropped. -/
def drop (q : Queue π) : Queue π := { q with dropped := q.dropped + 1 }

/-- Appends a producer to the waiting ones. -/
def lineUp (q : Queue π) (p : π) (e : Event) (now : Instant) : Queue π :=
  { q with waiting := q.waiting ++ [⟨p, e, now + q.overflowWait⟩] }

/-- Submission without waiting. -/
def trySubmit (q : Queue π) (e : Event) : Bool × Queue π :=
  match q.events.trySend e with
  | .ok _ => (true, q.accept e)
  | .error _ => (false, q.drop)

/-- Submission by a producer that waits if the queue is full. -/
def submit (q : Queue π) (p : π) (e : Event) (now : Instant) : Outcome × Queue π :=
  match q.events.trySend e with
  | .ok _ => (.accepted, q.accept e)
  | .error .closed => (.dropped, q.drop)
  | .error .full => (.waiting, q.lineUp p e now)

/-- Removes the oldest event. The slot goes to the first waiting producer, which is returned with
it. -/
def take? (q : Queue π) : Option (Event × Option (Waiter π) × Queue π) :=
  match q.events.take? with
  | none => none
  | some (e, c) =>
    match q.waiting with
    | [] => some (e, none, { q with events := c })
    | w :: rest =>
      if c.isOpen then
        some (e, some w, { q with events := c, waiting := rest }.accept w.event)
      else
        some (e, none, { q with events := c })

/-- Whether a waiting producer drops its event: its deadline has passed, or the queue is closed. -/
def mustGiveUp (q : Queue π) (now : Instant) (w : Waiter π) : Bool :=
  !q.events.isOpen || w.deadline ≤ now

/-- The first waiting producer that drops its event, and the queue without it. -/
def giveUp? (q : Queue π) (now : Instant) : Option (Waiter π × Queue π) :=
  (q.waiting.find? (q.mustGiveUp now)).map fun w =>
    (w, { q with waiting := q.waiting.eraseP (q.mustGiveUp now) }.drop)

/-- Removes a waiting producer without an answer. -/
def abandon (q : Queue π) [DecidableEq π] (p : π) : Queue π :=
  { q with waiting := q.waiting.filter fun w => w.producer ≠ p }

/-- Closes the queue to further submissions. -/
def close (q : Queue π) : Queue π := { q with events := q.events.close }

/-- Closes the receiving side and drops the events. -/
def hangUp (q : Queue π) : Queue π := { q with events := q.events.hangUp }

theorem create?_eq_some {capacity : Nat} {wait : Duration} {q : Queue π}
    (h : create? capacity wait = some q) : q = ⟨⟨capacity, [], true⟩, [], wait.nanos, 0, 0⟩ := by
  unfold create? Channel.create? at h
  split at h <;> simp at h
  exact h.symm

theorem take?_eq_some {q q' : Queue π} {e : Event} (h : q.take? = some (e, none, q')) :
    ∃ c, q.events.take? = some (e, c) ∧ q' = { q with events := c } := by
  unfold take? at h
  split at h
  · cases h
  · rename_i c hc
    split at h
    · cases h
      exact ⟨c, hc, rfl⟩
    · split at h
      · cases h
      · cases h
        exact ⟨c, hc, rfl⟩

/-- Only the first waiting producer is promoted, and only by an open queue. -/
theorem take?_eq_some_waiter {q q' : Queue π} {e : Event} {w : Waiter π}
    (h : q.take? = some (e, some w, q')) :
    ∃ c rest, q.events.take? = some (e, c) ∧ q.waiting = w :: rest ∧ c.isOpen = true ∧
      q' = { q with events := c, waiting := rest }.accept w.event := by
  unfold take? at h
  split at h
  · cases h
  · rename_i c hc
    split at h
    · cases h
    · rename_i rest hw
      split at h
      · rename_i ho
        cases h
        exact ⟨c, rest, hc, hw, ho, rfl⟩
      · cases h

theorem giveUp?_eq_some {q q' : Queue π} {now : Instant} {w : Waiter π}
    (h : q.giveUp? now = some (w, q')) :
    q.waiting.find? (q.mustGiveUp now) = some w ∧
      q' = { q with waiting := q.waiting.eraseP (q.mustGiveUp now) }.drop := by
  unfold giveUp? at h
  obtain ⟨v, hv, he⟩ := Option.map_eq_some_iff.1 h
  cases he
  exact ⟨hv, rfl⟩

/-- Dropping one waiting producer keeps the order of the others. -/
theorem giveUp?_cut {q q' : Queue π} {now : Instant} {w : Waiter π}
    (h : q.giveUp? now = some (w, q')) :
    ∃ before after, q.waiting = before ++ w :: after ∧
      q.waiting.eraseP (q.mustGiveUp now) = before ++ after ∧ q.mustGiveUp now w = true := by
  obtain ⟨must, before, after, hw, first⟩ :=
    List.find?_eq_some_iff_append.1 (giveUp?_eq_some h).1
  refine ⟨before, after, hw, ?_, must⟩
  rw [hw, List.eraseP_append_right _ (by simpa using first), List.eraseP_cons_of_pos must]

end Queue

end Presence
