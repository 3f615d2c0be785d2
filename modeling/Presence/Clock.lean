import Presence.Status

/-!
Virtual time. Time advances from one due moment to the next, and everything due at a moment is
settled before time advances. Timers are ideal: they fire at the exact nanosecond for which they are
set, while timers of the runtime have a resolution of one millisecond and fire up to that much
later.
-/

namespace Presence.Clock

variable {σ : Type}

/-- Advances to the moment `stop`: `due?` is the next moment at which something is due, `arrive`
moves the state to a moment and settles it there. Every round reaches a later moment, so `rounds`
bounds the number of moments. -/
def runUntil (due? : σ → Option Instant) (arrive : Instant → σ → σ) (stop : Instant) :
    (rounds : Nat) → σ → σ
  | 0, s => arrive stop s
  | rounds + 1, s =>
    match due? s with
    | some t => if t ≤ stop then runUntil due? arrive stop rounds (arrive t s) else arrive stop s
    | none => arrive stop s

/-- The earliest of some moments. -/
def earliest (moments : List (Option Instant)) : Option Instant :=
  (moments.filterMap id).min?

end Presence.Clock
