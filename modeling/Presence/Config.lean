import Presence.Duration

/-!
Settings of the presence engine and their validation. `validate` rejects a zero capacity, TTL or
interval, and names the first of them in a fixed order.
-/

namespace Presence

structure Config where
  /-- How long a user is online after an event. -/
  statusTtl : Duration
  /-- The maximal number of flags kept. -/
  statusCapacity : Nat
  /-- The capacity of the event queue. -/
  queueCapacity : Nat
  /-- The longest wait of a producer at a full queue. -/
  queueOverflowWait : Duration
  /-- The capacity of the outbound channel of a session. -/
  sessionOutboundCapacity : Nat
  friendsRefreshInterval : Duration
  partyRefreshInterval : Duration
  /-- The pause after a failed refresh. -/
  refreshRetryDelay : Duration
  partyPollInterval : Duration
deriving DecidableEq, Repr

/-- The settings that `validate` can reject. -/
inductive ConfigError
  | statusTtl
  | statusCapacity
  | queueCapacity
  | sessionOutboundCapacity
  | intervals
deriving DecidableEq, Repr

/-- The error message. -/
def ConfigError.message : ConfigError → String
  | .statusTtl => "status_ttl must be non-zero"
  | .statusCapacity => "status_capacity must be non-zero"
  | .queueCapacity => "queue_capacity must be non-zero"
  | .sessionOutboundCapacity => "session_outbound_capacity must be non-zero"
  | .intervals => "intervals must be non-zero"

namespace Config

/-- The default settings. -/
def standard : Config where
  statusTtl := .ofSeconds 10
  statusCapacity := 100000
  queueCapacity := 1000
  queueOverflowWait := .ofMillis 50
  sessionOutboundCapacity := 64
  friendsRefreshInterval := .ofSeconds 60
  partyRefreshInterval := .ofSeconds 60
  refreshRetryDelay := .ofSeconds 5
  partyPollInterval := .ofSeconds 5

/-- Rejects zeros; the first one in this order is named. -/
def validate (c : Config) : Except ConfigError Unit :=
  if c.statusTtl.isZero then .error .statusTtl
  else if c.statusCapacity = 0 then .error .statusCapacity
  else if c.queueCapacity = 0 then .error .queueCapacity
  else if c.sessionOutboundCapacity = 0 then .error .sessionOutboundCapacity
  else if c.friendsRefreshInterval.isZero || c.partyRefreshInterval.isZero ||
      c.partyPollInterval.isZero then .error .intervals
  else .ok ()

/-- The pause after a failed refresh, at most the refresh interval. -/
def retryDelayFor (c : Config) (interval : Duration) : Duration :=
  c.refreshRetryDelay.min interval

end Config

end Presence
