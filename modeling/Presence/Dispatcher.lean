import Presence.Queue
import Presence.Relationships
import Presence.Switchboard

/-!
Dispatch of an event: set the flag of its user and send a notice to every friend with a registered
session. The result for a friend depends on its own registration and line only; a session whose line
is closed is deregistered.
-/

namespace Presence

/-- Counters of the notices of one event. -/
structure FanoutReport where
  recipients : Nat
  delivered : Nat
  offline : Nat
  failed : Nat
deriving DecidableEq, Repr

/-- The result of one notice. -/
inductive Fate
  | offline
  | delivered
  | failed
deriving DecidableEq, Repr

/-- Adds one result to the counters. -/
def FanoutReport.add (r : FanoutReport) : Fate → FanoutReport
  | .offline => { r with offline := r.offline + 1 }
  | .delivered => { r with delivered := r.delivered + 1 }
  | .failed => { r with failed := r.failed + 1 }

/-- The state of the dispatcher. -/
structure Dispatch where
  status : StatusStore
  relations : Relationships
  board : Switchboard
  processed : Nat
  delivered : Nat
  failed : Nat

namespace Dispatch

/-- Sets the flag and counts the event; returns the friends to notify. -/
def begin (d : Dispatch) (e : Event) (now : Instant) : List User × Dispatch :=
  (d.relations.friendsOf e.user,
    { d with status := d.status.markOnline e.user now, processed := d.processed + 1 })

/-- Adds a report to the totals. -/
def finish (d : Dispatch) (r : FanoutReport) : Dispatch :=
  { d with delivered := d.delivered + r.delivered, failed := d.failed + r.failed }

end Dispatch

namespace Switchboard

/-- Sends a notice to a handle; `none` if the line is closed. -/
def sendNotice (b : Switchboard) (h : Handle) (notice : Message) : Option Fate × Switchboard :=
  match b.deliver h.line notice with
  | .ok b => (some .delivered, b)
  | .error .full => (some .failed, b)
  | .error .closed => (none, b)

/-- Sends a notice to one friend, deregistering a session whose line is closed. -/
def notify (b : Switchboard) (notice : Message) (friend : User) : Fate × Switchboard :=
  match b.lookup friend with
  | none => (.offline, b)
  | some h =>
    match b.sendNotice h notice with
    | (some fate, b) => (fate, b)
    | (none, b) => (.failed, (b.deregisterSession friend h.session).2)

/-- Sends a notice to each friend in order. -/
def notifyAll (b : Switchboard) (notice : Message) (r : FanoutReport) :
    List User → FanoutReport × Switchboard
  | [] => (r, b)
  | friend :: rest =>
    let (fate, b) := b.notify notice friend
    b.notifyAll notice (r.add fate) rest

end Switchboard

/-- The whole dispatch of one event. -/
def Dispatch.process (d : Dispatch) (e : Event) (now : Instant) : FanoutReport × Dispatch :=
  let (friends, d) := d.begin e now
  let (report, board) :=
    d.board.notifyAll (.friendOnline e.user) ⟨friends.length, 0, 0, 0⟩ friends
  (report, { d with board }.finish report)

end Presence
