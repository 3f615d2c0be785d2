import Presence.Http.Server
import Presence.Script.Serving

/-!
Scripts on the server. Requests are made one by one; upgraded connections are labelled. Every step
is followed by the frames that the labelled connections received.
-/

namespace Presence.Script.Web

open Http (Outcome Request Response)

/-- What a client sends over its connection. -/
inductive Sending
  | text (s : String)
  | close
  /-- A frame of another kind. -/
  | other

inductive Step
  | request (method target : String) (authorization : Option String)
  | connect (target : String) (authorization : Option String) (label : String)
  | send (label : String) (frame : Sending)
  | vanish (label : String)
  | store (s : Storing.Step)
  | fail (target : Serving.Target) (fault : Option Fault)
  | refresh
  | online (u : User)
  | close (u : User)
  | advance (time : Duration)
  | shutdown

/-- The reply to a step. -/
inductive Answer
  | reply (r : Reply)
  | response (r : Response)
  | connected
  | refused (r : Response)
  | badRequest
  | badHeader
  | noHandshake

/-- What a connection received. -/
inductive Received
  | text (s : String)
  | ended

/-- A labelled connection. -/
structure Socket where
  session : Option SessionId
  /-- Whether the client can still use it. -/
  alive : Bool

structure State where
  service : String
  world : World
  sockets : Table String Socket

/-- Whether a header can be sent: no control characters but tabs. -/
def isSendable (header : String) : Bool :=
  header.toList.all fun c => c = '\t' || (0x20 ≤ c.toNat && c.toNat ≠ 0x7f)

def isToken (method : String) : Bool :=
  !method.isEmpty && method.toList.all fun c =>
    c.isAlphanum || "!#$%&'*+-.^_\x60|~".toList.contains c

/-- A header as received: without blanks and tabs around it. -/
def onTheWire (header : String) : String :=
  let isSpace (c : Char) : Bool := c = ' ' || c = '\t'
  String.ofList (((header.toList.dropWhile isSpace).reverse.dropWhile isSpace).reverse)

/-- Opens the session of an upgraded connection and attaches a driver. A connection whose session is
refused ends at once. -/
def openSocket (s : State) (label : String) (a : Engine.Action) : Option State :=
  match s.world.ask a with
  | (some (.opened id), w) =>
    some { s with world := Serving.driveSession w id
                  sockets := s.sockets.insert label { session := some id, alive := true } }
  | (some .panicked, _) => none
  | (_, w) =>
    some { s with world := w, sockets := s.sockets.insert label { session := none, alive := true } }

/-- A request over a new connection. -/
def connect (s : State) (target : String) (authorization : Option String) (label : String) :
    Option (Answer × State) :=
  match Http.path? target with
  | none => some (.badRequest, s)
  | some path =>
    if authorization.any fun h => !isSendable h then some (.badHeader, s)
    else if authorization.any fun h => !Http.isReadable h then some (.noHandshake, s)
    else
      match Http.outcome s.service s.world ⟨"GET", path, authorization.map onTheWire, true⟩ with
      | (.respond r, world) => some (.refused r, { s with world })
      | (.statusSession u, world) =>
        (openSocket { s with world } label (.openStatus u)).map (.connected, ·)
      | (.partySession m, world) =>
        (openSocket { s with world } label (.startParty m)).map (.connected, ·)

/-- One step without the frames received; `none` if a line cannot be created. -/
def act (s : State) (step : Step) : Option (Answer × State) :=
  let w := s.world
  let reply (r : Reply) (w : World) : Option (Answer × State) :=
    some (.reply r, { s with world := w })
  /- Hands a client's frame to the session's driver. -/
  let deliver (id : SessionId) (frame : Inflow) : World := (Serving.sendFrames w id 0 [frame]).2
  match step with
  | .request method target authorization =>
    match Http.path? target with
    | none => some (.badRequest, s)
    | some path =>
      if !isToken method then some (.badRequest, s)
      else if authorization.any fun h => !isSendable h then some (.badHeader, s)
      else
        match Http.outcome s.service w ⟨method, path, authorization, false⟩ with
        | (.respond r, world) => some (.response r, { s with world })
        | (_, world) => some (.reply .nothing, { s with world })
  | .connect target authorization label => connect s target authorization label
  | .send label frame =>
    match s.sockets.get? label with
    | none => some (.reply (.trouble .noSocket), s)
    | some ⟨some id, true⟩ =>
      reply (.flag true) (deliver id (match frame with
        | .text t => .text t
        | .close => .close
        | .other => .other))
    | some _ => reply (.flag false) w
  | .vanish label =>
    match s.sockets.get? label with
    | none => reply (.flag false) w
    | some socket =>
      let world := match socket with
        | ⟨some id, true⟩ => deliver id .failure
        | _ => w
      some (.reply (.flag true), { s with world, sockets := s.sockets.erase label })
  | .store step =>
    let (r, store) := Storing.step false w.store step
    reply r { w with store }
  | .fail target fault => reply .nothing (Serving.setFault w target fault)
  | .refresh =>
    match w.ask .refreshNow with
    | (some (.refreshed friends parties), w) => reply (.counts [friends, parties]) w
    | (r, w) => reply (Serving.failure r) w
  | .online u => reply (.flag (w.engine.isOnline u)) w
  | .close u => reply (.flag (w.engine.board.lookup u).isSome) (w.act (.closeSession u))
  | .advance d => reply .nothing (w.advance d)
  | .shutdown => reply .nothing (w.ask .shutdown).2

/-- The frames that a connection received, and whether it has ended. -/
def received (record : List Note) (socket : Socket) : List Received × Bool :=
  match socket with
  | ⟨_, false⟩ => ([], true)
  | ⟨none, true⟩ => ([.ended], true)
  | ⟨some id, true⟩ =>
    let texts := (Serving.framesOf record id).map Received.text
    if (Serving.endOf record id).isSome then (texts ++ [.ended], true) else (texts, false)

/-- Settles and reports the frames received. -/
def report (s : State) : List (String × List Received) × State :=
  let (record, world) := s.world.settle.takeRecord
  let all := s.sockets.entries.map fun (label, socket) => (label, received record socket)
  (all.filterMap fun (label, texts, _) => if texts.isEmpty then none else some (label, texts),
    { s with world
             sockets := s.sockets.mapValues fun socket =>
               { socket with alive := !(received record socket).2 } })

def step (s : State) (a : Step) : Option (Answer × List (String × List Received) × State) :=
  (act s a).map fun (answer, s) =>
    let (got, s) := report s
    (answer, got, s)

/-- A server over an engine with a store that was filled before. -/
def start (service : String) (config : Config) (setup : List (Except Reply Storing.Step)) :
    Except StartError State :=
  (Serving.start config setup []).map fun (_, s) => ⟨service, s.world, .empty⟩

end Presence.Script.Web
