import Presence.Script.Reply
import Presence.Switchboard

/-!
Scripts on lines and the registry. A label stands for a handle and for the receiving end of its
line; each can be dropped without the other.
-/

namespace Presence.Script.Lines

/-- How a step refers to a handle: by label, or as the one registered for a user. -/
structure Target where
  label : String
  user : Option User

inductive Step
  | create (label : String) (session : SessionId) (capacity : Nat)
  | register (label : String) (u : User)
  | forget (label : String)
  | lookup (u : User)
  | deregister (u : User)
  | deregisterSession (u : User) (session : SessionId)
  | size
  | deliver (t : Target) (text : String)
  | isClosed (t : Target)
  | close (t : Target)
  | closed (t : Target)
  | receive (label : String)
  | dropReceiver (label : String)

structure State where
  board : Switchboard
  handles : Table String Handle
  /-- The lines whose receiving ends are held, by label. -/
  receivers : Table String Nat

def start : State := ⟨.empty, .empty, .empty⟩

/-- The handle that a step refers to. -/
def State.target? (s : State) (t : Target) : Option Handle :=
  (s.handles.get? t.label).or (t.user.bind s.board.lookup)

/-- Whether a handle to a line is left. -/
def State.hasSender (s : State) (line : Nat) : Bool :=
  s.handles.entries.any (·.2.line = line) || s.board.registry.entries.any (·.2.line = line)

/-- Drops the receiving end of a label, if any. -/
def State.dropReceiver (s : State) (label : String) : Bool × State :=
  match s.receivers.get? label with
  | none => (false, s)
  | some line => (true, { s with board := s.board.hangUp line, receivers := s.receivers.erase label })

/-- Receives from a line. -/
def receiveFrom (board : Switchboard) (line : Nat) (hasSender : Bool) : Reply × Switchboard :=
  match (board.line? line).bind fun l => l.frames.take? with
  | some (m, c) => (.frame m.text, board.updateFrames line fun _ => c)
  | none => (if hasSender then .empty else .disconnected, board)

/-- One step; `none` if a line cannot be created. -/
def step (s : State) : Step → Option (Reply × State)
  | .create label session capacity =>
    (s.dropReceiver label).2.board.addLine? capacity |>.map fun board =>
      let line := s.board.lines.length
      (.nothing, ⟨board, s.handles.insert label ⟨session, line⟩, s.receivers.insert label line⟩)
  | .register label u => some <|
    match s.handles.get? label with
    | none => (.trouble .noHandle, s)
    | some h => (.ofCount? ((s.board.lookup u).map Handle.session),
        { s with board := s.board.register u h })
  | .forget label => some
    (.flag (s.handles.get? label).isSome, { s with handles := s.handles.erase label })
  | .lookup u => some (.ofCount? ((s.board.lookup u).map Handle.session), s)
  | .deregister u => some
    (.ofCount? ((s.board.lookup u).map Handle.session), { s with board := s.board.deregister u })
  | .deregisterSession u session => some <|
    let (removed, board) := s.board.deregisterSession u session
    (.flag removed, { s with board })
  | .size => some (.size s.board.registry.size, s)
  | .deliver t text => some <|
    match s.target? t with
    | none => (.nothing, s)
    | some h =>
      match s.board.deliver h.line (.plain text) with
      | .ok board => (.done, { s with board })
      | .error e => (.undelivered e, s)
  | .isClosed t => some <|
    match s.target? t with
    | none => (.nothing, s)
    | some h => (.flag (s.board.isClosed h.line), s)
  | .close t => some <|
    match s.target? t with
    | none => (.nothing, s)
    | some h => (.done, { s with board := s.board.requestClose h.line })
  | .closed t => some <|
    match s.target? t with
    | none => (.nothing, s)
    | some h => (.flag (s.board.closeRequested h.line), s)
  | .receive label => some <|
    match s.receivers.get? label with
    | none => (.trouble .noReceiver, s)
    | some line =>
      let (reply, board) := receiveFrom s.board line (s.hasSender line)
      (reply, { s with board })
  | .dropReceiver label => some <|
    let (had, s) := s.dropReceiver label
    (.flag had, s)

end Presence.Script.Lines
