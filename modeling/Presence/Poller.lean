import Presence.Channel
import Presence.Message
import Presence.Relationships
import Presence.Status

/-!
Party pollers. At each tick a poller takes a snapshot of the online members of its party and
delivers it; while the channel is full it keeps that snapshot. Ticks are at a fixed interval, and a
tick taken more than `tolerance` late moves the schedule of the next ones. Ticks are ideal: they are
due at the exact nanosecond, where the runtime's timers have a resolution of one millisecond.
-/

namespace Presence

/-- The online members of a party at a moment. -/
def partySnapshot (status : StatusStore) (relations : Relationships) (party : Party)
    (now : Instant) : Snapshot :=
  .online ((relations.membersOf party).filter fun u => status.isOnline u now)

/-- The state of a poller. -/
inductive PollerPhase
  /-- Waiting for the tick due at the given moment. -/
  | waiting (due : Instant)
  /-- Holding a snapshot to be delivered; `next` is the moment of the next tick. -/
  | sending (held : Snapshot) (next : Instant)
  | finished
deriving DecidableEq

structure Poller where
  party : Party
  interval : Nat
  phase : PollerPhase
deriving DecidableEq

namespace Poller

/-- The lateness up to which a tick does not move the schedule: five milliseconds. -/
def tolerance : Nat := 5000000

/-- A poller whose first tick is due at once. -/
def start (party : Party) (interval : Duration) (now : Instant) : Poller :=
  ⟨party, interval.nanos, .waiting now⟩

/-- The moment of the tick after the one due at `due` and taken at `now`. -/
def nextDue (interval : Nat) (due now : Instant) : Instant :=
  if now ≤ due + tolerance then due + interval else now + interval

/-- Step that takes the tick that is due, with a snapshot of this moment. -/
def tick? (p : Poller) (status : StatusStore) (relations : Relationships) (now : Instant) :
    Option Poller :=
  match p.phase with
  | .waiting due =>
    if due ≤ now then
      some { p with phase := .sending (partySnapshot status relations p.party now)
                                      (nextDue p.interval due now) }
    else none
  | _ => none

/-- The results of an attempt to deliver the snapshot. -/
inductive Emission
  | sent (p : Poller) (c : Channel Message)
  | noReceiver (p : Poller)
  | blocked

/-- Step that delivers the snapshot, if the channel has room. -/
def emit (p : Poller) (c : Channel Message) : Emission :=
  match p.phase with
  | .sending held next =>
    match c.trySend (.snapshot held) with
    | .ok c => .sent { p with phase := .waiting next } c
    | .error .closed => .noReceiver { p with phase := .finished }
    | .error .full => .blocked
  | _ => .blocked

/-- Ends the poller; a snapshot that it holds is lost. -/
def finish (p : Poller) : Poller := { p with phase := .finished }

def isFinished (p : Poller) : Bool :=
  match p.phase with
  | .finished => true
  | _ => false

/-- The moment at which the poller is due. -/
def due? (p : Poller) : Option Instant :=
  match p.phase with
  | .waiting due => some due
  | _ => none

theorem tick?_eq_some {p q : Poller} {status : StatusStore} {r : Relationships} {now : Instant}
    (h : p.tick? status r now = some q) :
    ∃ due, p.phase = .waiting due ∧ due ≤ now ∧
      q = { p with phase := .sending (partySnapshot status r p.party now)
                                     (nextDue p.interval due now) } := by
  unfold tick? at h
  split at h
  · split at h
    · cases h
      exact ⟨_, ‹_›, ‹_›, rfl⟩
    · cases h
  · cases h

theorem emit_eq_sent {p q : Poller} {c d : Channel Message} (h : p.emit c = .sent q d) :
    ∃ held next, p.phase = .sending held next ∧ c.isOpen = true ∧ c.hasRoom = true ∧
      d = c.push (.snapshot held) ∧ q = { p with phase := .waiting next } := by
  unfold emit at h
  split at h
  · split at h <;> cases h
    obtain ⟨ho, hr, hd⟩ := Channel.trySend_eq_ok_iff.1 ‹_›
    exact ⟨_, _, ‹_›, ho, hr, hd, rfl⟩
  · cases h

theorem emit_eq_noReceiver {p q : Poller} {c : Channel Message} (h : p.emit c = .noReceiver q) :
    c.isOpen = false ∧ q = p.finish := by
  unfold emit at h
  split at h
  · split at h <;> cases h
    exact ⟨Channel.trySend_eq_closed_iff.1 ‹_›, rfl⟩
  · cases h

end Poller

end Presence
