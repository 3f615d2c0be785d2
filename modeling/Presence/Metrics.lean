/-!
Counters of a presence engine and their report.
-/

namespace Presence

structure Metrics where
  heartbeatsEnqueued : Nat
  heartbeatsDropped : Nat
  eventsProcessed : Nat
  notificationsDelivered : Nat
  notificationsFailed : Nat
  friendsRefreshOk : Nat
  friendsRefreshErr : Nat
  partyRefreshOk : Nat
  partyRefreshErr : Nat
  sessionsOpened : Nat
  sessionsClosed : Nat
  partySnapshotsSent : Nat
deriving DecidableEq, Repr

namespace Metrics

def zero : Metrics := ⟨0, 0, 0, 0, 0, 0, 0, 0, 0, 0, 0, 0⟩

/-- The counters by name. -/
def entries (m : Metrics) : List (String × Nat) :=
  [("heartbeats_enqueued", m.heartbeatsEnqueued),
   ("heartbeats_dropped", m.heartbeatsDropped),
   ("events_processed", m.eventsProcessed),
   ("notifications_delivered", m.notificationsDelivered),
   ("notifications_failed", m.notificationsFailed),
   ("friends_refresh_ok", m.friendsRefreshOk),
   ("friends_refresh_err", m.friendsRefreshErr),
   ("party_refresh_ok", m.partyRefreshOk),
   ("party_refresh_err", m.partyRefreshErr),
   ("sessions_opened", m.sessionsOpened),
   ("sessions_closed", m.sessionsClosed),
   ("party_snapshots_sent", m.partySnapshotsSent)]

/-- The counters that differ from earlier ones. -/
def changes (m old : Metrics) : List (String × Nat) :=
  (m.entries.zip old.entries).filterMap fun (new, old) => if new.2 = old.2 then none else some new

end Metrics

end Presence
