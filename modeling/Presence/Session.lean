import Presence.Poller
import Presence.Switchboard

/-!
Sessions of clients. A session is opened, handed to its driver and driven until its client leaves,
reading or writing fails, or it is cancelled. The driver reads frames of the client and writes
frames of the session's line concurrently; it then releases the line and returns. A status session
carries friend notices, a party session the snapshots of its poller.
-/

namespace Presence

/-- Events on the reading side of a connection. -/
inductive Inflow
  | text (s : String)
  /-- A frame other than text or close. -/
  | other
  | close
  | failure
  /-- The end of the connection without a closing frame. -/
  | finished
deriving DecidableEq, Repr

/-- The ways for a driver to end. -/
inductive SessionEnd
  | clientClosed
  | readError
  | writeFailed
  | cancelled
deriving DecidableEq, Repr

/-- The reading half of a driver. -/
inductive Reader
  | reading
  /-- Submitting a heartbeat; no frame is read meanwhile. -/
  | submitting
deriving DecidableEq, Repr

/-- The writing half of a driver. -/
inductive Writer
  | idle
  | holding (m : Message)
deriving DecidableEq

/-- The stages of a session. -/
inductive Stage
  /-- Registered; its `connected` event is being submitted. -/
  | opening
  /-- Open and not driven yet. -/
  | ready
  | driven (r : Reader) (w : Writer)
  /-- The driver has left its loop and has not cleaned up yet. -/
  | leaving (how : SessionEnd)
  | ended (how : SessionEnd)
  /-- Dropped before its driver could return. -/
  | dropped
deriving DecidableEq

/-- The kinds of sessions. -/
inductive Role
  | status
  /-- A party session: its poller, and whether that was cancelled. -/
  | party (poller : Poller) (stopped : Bool)
deriving DecidableEq

structure Session where
  user : User
  role : Role
  stage : Stage
deriving DecidableEq

namespace Session

def isParty (s : Session) : Bool :=
  match s.role with
  | .status => false
  | .party .. => true

/-- Cancels the poller, if any. -/
def stopPoller (s : Session) : Session :=
  match s.role with
  | .status => s
  | .party p _ => { s with role := .party p true }

/-- Replaces the poller, if any. -/
def withPoller (s : Session) (p : Poller) : Session :=
  match s.role with
  | .status => s
  | .party _ stopped => { s with role := .party p stopped }

/-- Whether no poller is running. -/
def pollerFinished (s : Session) : Bool :=
  match s.role with
  | .status => true
  | .party p _ => p.isFinished

/-- Whether a driver is in its loop. -/
def isDriven (s : Session) : Bool :=
  match s.stage with
  | .driven .. => true
  | _ => false

/-- Whether the session value exists: with its opener, its owner or its driver. -/
def isHeld (s : Session) : Bool :=
  match s.stage with
  | .ended _ => false
  | .dropped => false
  | _ => true

end Session

/-! ### All sessions -/

/-- Sessions by number, starting from one. -/
abbrev Roster := List Session

namespace Roster

def get? (r : Roster) (s : SessionId) : Option Session :=
  if s = 0 then none else r[s - 1]?

def update (r : Roster) (s : SessionId) (f : Session → Session) : Roster :=
  if s = 0 then r else r.modify (s - 1) f

def add (r : Roster) (x : Session) : Roster := r ++ [x]

/-- The number of the next session. -/
def next (r : Roster) : SessionId := r.length + 1

variable {r : Roster} {s t : SessionId} {x : Session}

@[simp] theorem get?_update (f : Session → Session) :
    (r.update s f).get? t = if t = s then (r.get? t).map f else r.get? t := by
  unfold get? update
  by_cases hs : s = 0 <;> by_cases ht : t = 0 <;> simp only [hs, ht, if_true, if_false]
  · simp
  · simp
  · rw [List.getElem?_modify]
    by_cases h : t = s
    · simp [h]
    · have : s - 1 ≠ t - 1 := by grind
      simp [h, this]

@[simp] theorem get?_add :
    (r.add x).get? t = if t = r.next then some x else r.get? t := by
  unfold get? add next
  by_cases ht : t = 0
  · simp [ht]
  · rcases Nat.lt_trichotomy (t - 1) r.length with h | h | h
    · rw [List.getElem?_append_left h]
      grind
    · grind
    · grind

theorem lt_next_of_get? (h : r.get? s = some x) : 0 < s ∧ s < r.next := by
  unfold get? at h
  split at h
  · cases h
  · obtain ⟨hlt, _⟩ := List.getElem?_eq_some_iff.1 h
    grind [next]

theorem get?_next : r.get? r.next = none := by
  simp [get?, next]

@[simp] theorem length_update (f : Session → Session) : (r.update s f).length = r.length := by
  unfold update
  split
  · rfl
  · exact List.length_modify ..

@[simp] theorem length_add : (r.add x).length = r.length + 1 := by
  simp [add]

end Roster

end Presence
