/-!
Durations, exact to the nanosecond.
-/

namespace Presence

structure Duration where
  nanos : Nat
deriving DecidableEq, Repr, Inhabited

namespace Duration

def ofNanos (n : Nat) : Duration := ⟨n⟩

def ofMillis (n : Nat) : Duration := ⟨n * 1000000⟩

def ofSeconds (n : Nat) : Duration := ⟨n * 1000000000⟩

def millis (d : Duration) : Nat := d.nanos / 1000000

def seconds (d : Duration) : Nat := d.nanos / 1000000000

/-- The nanoseconds beyond the whole seconds. -/
def subsecNanos (d : Duration) : Nat := d.nanos % 1000000000

def isZero (d : Duration) : Bool := d.nanos = 0

/-- The shorter of two lengths. -/
protected def min (a b : Duration) : Duration := ⟨Nat.min a.nanos b.nanos⟩

end Duration

end Presence
