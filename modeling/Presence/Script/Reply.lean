import Presence.Dispatcher
import Presence.Metrics
import Presence.Store

/-!
Replies to the steps of scripts. A script drives one component through labelled handles, with one
reply per step.
-/

namespace Presence.Script

/-- Steps that refer to something missing or not usable. -/
inductive Trouble
  | invalidUser
  | invalidParty
  | noHandle
  | noReceiver
  | noSender
  | noSession
  | noSocket
  | notDriven
  | notIdle
  | alreadyStarted
  | rowRejected
deriving DecidableEq, Repr

/-- The reply to a step. -/
inductive Reply
  | nothing
  | done
  | flag (b : Bool)
  | count (n : Nat)
  | counts (ns : List Nat)
  /-- The number of entries, and whether there are none. -/
  | size (n : Nat)
  /-- The fields of a `FanoutReport`. -/
  | report (r : FanoutReport)
  | metrics (m : Metrics)
  /-- Fetches, number of lists, and the counters of both kinds. -/
  | refreshed (fetches : Nat) (lists friends parties : Nat × Nat)
  | text (s : String)
  | texts (ss : List String)
  | flags (bs : List Bool)
  /-- A received frame. -/
  | frame (text : String)
  /-- The channel is empty. -/
  | empty
  /-- The channel is empty and has no sender left. -/
  | disconnected
  /-- Whether a submission was accepted, and how many milliseconds it waited. -/
  | submitted (accepted : Bool) (waited : Nat)
  | pending
  | event (user : User) (kind : EventKind)
  | friendships (fs : List Friendship)
  | memberships (ms : List Membership)
  | membership (m : Membership)
  | lists (entries : List (String × List String))
  /-- The number of a session, and whether its client is disconnected. -/
  | session (id : Nat) (closed : Bool)
  | statusOpened (user : User) (id : Nat)
  | partyOpened (party : Party) (user : User)
  /-- Whether a client's text was a heartbeat. -/
  | handled (heartbeat : Bool)
  /-- Friend lists, parties, registered sessions and counters. -/
  | health (friendLists parties sessions : Nat) (m : Metrics)
  | many (rs : List Reply)
  | undelivered (e : DeliveryError)
  | failed (e : PresenceError)
  | storeFailed (e : StoreError)
  | trouble (t : Trouble)

/-- Whether a step failed. -/
def Reply.isError : Reply → Bool
  | .undelivered _ | .failed _ | .storeFailed _ | .trouble _ => true
  | _ => false

/-- A number, if any. -/
def Reply.ofCount? : Option Nat → Reply
  | some n => .count n
  | none => .nothing

end Presence.Script
