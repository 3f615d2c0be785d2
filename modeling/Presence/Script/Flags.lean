import Presence.Script.Reply

/-!
Scripts on online flags.
-/

namespace Presence.Script.Flags

inductive Step
  | mark (u : User)
  | online (u : User)
  | ttl
  | advance (time : Duration)

/-- The flags and the time. -/
structure State where
  status : StatusStore
  now : Instant

def start? (ttl : Duration) : Option State :=
  (StatusStore.create? ttl).map fun s => ⟨s, 0⟩

def step (s : State) : Step → Reply × State
  | .mark u => (.nothing, { s with status := s.status.markOnline u s.now })
  | .online u => (.flag (s.status.isOnline u s.now), s)
  | .ttl => (.count (Duration.ofNanos s.status.ttl).millis, s)
  | .advance d => (.nothing, { s with now := s.now + d.nanos })

end Presence.Script.Flags
