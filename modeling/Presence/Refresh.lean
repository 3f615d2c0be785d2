import Presence.Failure
import Presence.Relationships
import Presence.Status

/-!
Refresh loops. A loop fetches all lists of its kind, replaces the old ones and pauses for the
interval; after a failed fetch it keeps the old lists and pauses for the retry delay.
-/

namespace Presence

/-- Reasons for a fetch to fail. -/
inductive SourceFailure
  | failed (cause : SourceError)
  /-- The task of the source panicked. -/
  | crashed
deriving DecidableEq, Repr

/-- The failure as an error of the engine's calls. -/
def SourceFailure.asPresence : SourceFailure → PresenceError
  | .failed cause => .source cause
  | .crashed => .sourceCrashed

abbrev Answer (α : Type) := Except SourceFailure α

/-- Replaces all lists of a kind by a successful answer; a failure changes nothing. Returns the
number of lists written. -/
def Relationships.absorb (r : Relationships) (kind : RefreshKind) (answer : Answer (Graph kind)) :
    Except SourceFailure Nat × Relationships :=
  match answer with
  | .ok g => (.ok g.size, r.refresh kind g)
  | .error e => (.error e, r)

/-- The state of a refresh loop. -/
inductive LoopPhase
  | sleeping (wake : Instant)
  | fetching
  | stopped
deriving DecidableEq, Repr

structure RefreshLoop where
  interval : Nat
  retryDelay : Nat
  phase : LoopPhase
  /-- The number of successful fetches. -/
  ok : Nat
  /-- The number of failed fetches. -/
  err : Nat
deriving DecidableEq, Repr

namespace RefreshLoop

/-- A loop whose first fetch is due at once. -/
def start (interval retryDelay : Duration) (now : Instant) : RefreshLoop :=
  ⟨interval.nanos, retryDelay.nanos, .sleeping now, 0, 0⟩

/-- Step that starts the fetch that is due. -/
def wake? (l : RefreshLoop) (now : Instant) : Option RefreshLoop :=
  match l.phase with
  | .sleeping wake => if wake ≤ now then some { l with phase := .fetching } else none
  | _ => none

/-- Counts a fetch and starts the pause. -/
def settle (l : RefreshLoop) (succeeded : Bool) (now : Instant) : RefreshLoop :=
  if succeeded then
    { l with phase := .sleeping (now + l.interval), ok := l.ok + 1 }
  else
    { l with phase := .sleeping (now + l.retryDelay), err := l.err + 1 }

/-- Step on the answer to the fetch. -/
def answer? (l : RefreshLoop) (kind : RefreshKind) (r : Relationships) (a : Answer (Graph kind))
    (now : Instant) : Option (RefreshLoop × Relationships) :=
  match l.phase with
  | .fetching =>
    let (result, r) := r.absorb kind a
    some (l.settle result.isOk now, r)
  | _ => none

/-- Ends the loop; a fetch that was started is not awaited. -/
def stop (l : RefreshLoop) : RefreshLoop := { l with phase := .stopped }

def isStopped (l : RefreshLoop) : Bool :=
  match l.phase with
  | .stopped => true
  | _ => false

/-- The moment at which the loop is due. -/
def due? (l : RefreshLoop) : Option Instant :=
  match l.phase with
  | .sleeping wake => some wake
  | _ => none

end RefreshLoop

end Presence
