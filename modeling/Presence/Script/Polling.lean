import Presence.Clock
import Presence.Poller
import Presence.Script.Reply

/-!
Scripts on one party poller with a channel of its own.
-/

namespace Presence.Script.Polling

inductive Step
  | members (p : Party) (list : List User)
  | mark (users : List User)
  | snapshot (p : Party)
  | start
  | advance (time : Duration)
  | receive
  | dropReceiver
  | cancel
  | running
  | sent

structure State where
  status : StatusStore
  relations : Relationships
  now : Instant
  party : Party
  interval : Duration
  channel : Channel Message
  receiving : Bool
  poller : Option Poller
  cancelled : Bool
  sent : Nat

def start? (party : Party) (interval ttl : Duration) (capacity : Nat) : Option State := do
  let status ← StatusStore.create? ttl
  let channel ← Channel.create? capacity
  some ⟨status, .empty, 0, party, interval, channel, true, none, false, 0⟩

/-- The next step of the poller that is enabled without time passing. -/
def State.move? (s : State) : Option State :=
  match s.poller with
  | none => none
  | some p =>
    if p.isFinished then none
    else if s.cancelled || p.interval = 0 then some { s with poller := some p.finish }
    else
      match p.tick? s.status s.relations s.now with
      | some p => some { s with poller := some p }
      | none =>
        match p.emit s.channel with
        | .sent p channel => some { s with poller := some p, channel, sent := s.sent + 1 }
        | .noReceiver p => some { s with poller := some p }
        | .blocked => none

/-- All that happens without time passing. A poller makes at most two steps per tick, and ticks at
one moment are due within the tolerance. -/
def State.settle : (fuel : Nat) → State → State
  | 0, s => s
  | fuel + 1, s =>
    match s.move? with
    | some s => State.settle fuel s
    | none => s

/-- A bound on the number of steps of a poller at one moment. -/
def State.bound : Nat := 2 * Poller.tolerance + 4

def State.advanceTo (s : State) (stop : Instant) : State :=
  Clock.runUntil (fun s => s.poller.bind Poller.due?)
    (fun t s => State.settle State.bound { s with now := max t s.now }) stop (stop - s.now + 1) s

/-- Whether a sender is left: the script's until the poller is started, then the poller's. -/
def State.hasSender (s : State) : Bool := s.poller.all fun p => !p.isFinished

def act (s : State) : Step → Reply × State
  | .members p list => (.nothing, { s with relations := s.relations.replaceMembers p list })
  | .mark users =>
    (.nothing, { s with status := users.foldl (fun t u => t.markOnline u s.now) s.status })
  | .snapshot p => (.text (partySnapshot s.status s.relations p s.now).json, s)
  | .start =>
    if s.poller.isSome then (.trouble .alreadyStarted, s)
    else (.nothing, { s with poller := some (.start s.party s.interval s.now) })
  | .advance d => (.nothing, s.advanceTo (s.now + d.nanos))
  | .receive =>
    if s.receiving then
      match s.channel.take? with
      | some (m, channel) => (.frame m.text, { s with channel })
      | none => (if s.hasSender then .empty else .disconnected, s)
    else (.trouble .noReceiver, s)
  | .dropReceiver => (.flag s.receiving, { s with channel := s.channel.hangUp, receiving := false })
  | .cancel => (.nothing, { s with cancelled := true })
  | .running => (s.poller.elim .nothing fun p => .flag !p.isFinished, s)
  | .sent => (.count s.sent, s)

def step (s : State) (a : Step) : Reply × State :=
  let (reply, s) := act s a
  (reply, s.settle State.bound)

end Presence.Script.Polling
