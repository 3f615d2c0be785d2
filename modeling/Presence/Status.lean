import Presence.Duration
import Presence.Name
import Presence.Table

/-!
Online flags. An event sets the flag of its user, which holds for the TTL from then on; reading has
no effect. Moments are nanoseconds from an arbitrary start.
-/

namespace Presence

/-- Moments in nanoseconds. -/
abbrev Instant := Nat

/-- The moment at which each flag was set last, and the TTL. -/
structure StatusStore where
  ttl : Nat
  marks : Table User Instant

namespace StatusStore

/-- The longest TTL that the flag store supports: a thousand years. -/
def longestTtl : Nat := 1000 * 365 * 24 * 3600 * 1000000000

/-- An empty store; `none` for a TTL beyond `longestTtl`. -/
def create? (ttl : Duration) : Option StatusStore :=
  if ttl.nanos ≤ longestTtl then some ⟨ttl.nanos, .empty⟩ else none

def markOnline (s : StatusStore) (u : User) (now : Instant) : StatusStore :=
  { s with marks := s.marks.insert u now }

/-- Whether the flag of a user holds at a moment. -/
def isOnline (s : StatusStore) (u : User) (now : Instant) : Bool :=
  match s.marks.get? u with
  | some t => now < t + s.ttl
  | none => false

theorem isOnline_markOnline (s : StatusStore) (u v : User) (t now : Instant) :
    (s.markOnline u t).isOnline v now = if v = u then decide (now < t + s.ttl) else s.isOnline v now := by
  unfold isOnline markOnline
  rw [Table.get?_insert]
  by_cases h : v = u <;> simp [h]

end StatusStore

end Presence
