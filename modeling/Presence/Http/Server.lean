import Presence.Http.Target
import Presence.Simulation.World

/-!
Responses of the server. A request for a session passes fixed checks in this order: the header names
a caller, the segment names a party, the engine is not shutting down, the caller is a member, the
connection can be upgraded. The first failing check decides the response.
-/

namespace Presence.Http

/-- The parts of a request that the server reads. -/
structure Request where
  method : String
  path : String
  /-- The text of the authorization header. -/
  authorization : Option String
  /-- The connection can be upgraded to a WebSocket. -/
  upgrade : Bool

/-- The body of a response. -/
inductive Body
  | nothing
  | message (text : String)
  | plain (text : String)
  | alive
  /-- The service name, and the sizes and counters of the engine. -/
  | health (service : String) (friendLists parties sessions : Nat) (m : Metrics)

/-- A response. -/
structure Response where
  status : Nat
  body : Body
  /-- A response to `HEAD`. -/
  bodiless : Bool

/-- A response, or an upgrade to a session. -/
inductive Outcome
  | respond (r : Response)
  | statusSession (u : User)
  | partySession (m : Membership)

/-- The routes of the server. -/
inductive Route
  | health
  | metrics
  | status
  /-- The segment of the party as in the path. -/
  | party (segment : String)
deriving DecidableEq, Repr

def Route.ofPath? (path : String) : Option Route :=
  match path.splitOn "/" with
  | ["", "health"] => some .health
  | ["", "liveness"] => some .health
  | ["", "metrics"] => some .metrics
  | ["", "ws", "status"] => some .status
  | ["", "ws", "party", segment] => if segment.isEmpty then none else some (.party segment)
  | _ => none

/-! ### Callers -/

/-- Whether a header value can be read as text: visible ASCII and tabs. -/
def isReadable (header : String) : Bool :=
  header.toList.all fun c => c = '\t' || (0x20 ≤ c.toNat && c.toNat < 0x7f)

/-- The optional prefix of the caller's name. -/
def bearerMark : String := "Bearer "

/-- The user named by the header. -/
def caller? (header : Option String) : Option User :=
  match header with
  | none => none
  | some h =>
    if isReadable h then
      let cs := h.toList
      let mark := bearerMark.toList
      Name.parse? (String.ofList (if cs.take mark.length = mark then cs.drop mark.length else cs))
    else none

/-! ### Responses -/

def say (status : Nat) (text : String) : Outcome := .respond ⟨status, .message text, false⟩

def unauthorized : Outcome := say 401 "unauthorized"

def upgradeRequired : Outcome := say 426 "websocket upgrade required"

/-- The outcome of a request for a status session. -/
def statusOutcome (r : Request) : Outcome :=
  match caller? r.authorization with
  | none => unauthorized
  | some u => if r.upgrade then .statusSession u else upgradeRequired

/-- The response to an error of `authorize`. -/
def refusal : PresenceError → Outcome
  | .notPartyMember .. => say 404 "party membership not found"
  | .shutDown => say 503 "shutting down"
  | _ => say 500 "internal server error"

/-- The outcome of a request for a party session. -/
def partyOutcome (w : World) (r : Request) (segment : String) : Outcome × World :=
  match caller? r.authorization with
  | none => (unauthorized, w)
  | some u =>
    match decodeSegment segment with
    | none => (.respond ⟨400, .plain "Invalid URL: Invalid UTF-8 in \x60party_id\x60", false⟩, w)
    | some raw =>
      match (Name.parse? raw : Option Party) with
      | none => (say 400 "invalid party id", w)
      | some p =>
        match w.ask (.authorize p u) with
        | (some (.authorized m), w) => (if r.upgrade then .partySession m else upgradeRequired, w)
        | (some (.failed e), w) => (refusal e, w)
        | (_, w) => (say 500 "internal server error", w)

/-- The report on the engine. -/
def healthBody (service : String) (e : Engine) : Body :=
  .health service (e.relations.count .friends) (e.relations.count .parties) e.board.registry.size
    e.metrics

/-- The outcome of a request to a route. -/
def routeOutcome (service : String) (w : World) (r : Request) : Route → Outcome × World
  | .health => (.respond ⟨200, .alive, false⟩, w)
  | .metrics => (.respond ⟨200, healthBody service w.engine, false⟩, w)
  | .status => (statusOutcome r, w)
  | .party segment => partyOutcome w r segment

def withoutBody : Outcome → Outcome
  | .respond r => .respond { r with bodiless := true }
  | o => o

/-- The outcome of a request. Only `GET` is served, and `HEAD` like it without the body. -/
def outcome (service : String) (w : World) (r : Request) : Outcome × World :=
  match Route.ofPath? r.path with
  | none => (.respond ⟨404, .nothing, false⟩, w)
  | some route =>
    if r.method = "GET" then routeOutcome service w r route
    else if r.method = "HEAD" then
      let (o, w) := routeOutcome service w r route
      (withoutBody o, w)
    else (.respond ⟨405, .nothing, false⟩, w)

def Body.contentType? : Body → Option String
  | .nothing => none
  | .plain _ => some "text/plain; charset=utf-8"
  | _ => some "application/json"

def Body.text : Body → String
  | .nothing => ""
  | .message text => "\x7b\"message\":" ++ Json.literal text ++ "\x7d"
  | .plain text => text
  | .alive => "\x7b\"status\":\"ok\"\x7d"
  | .health service friendLists parties sessions m =>
    let counters := m.entries.map fun e => Json.literal e.1 ++ ":" ++ toString e.2
    "\x7b\"service\":" ++ Json.literal service ++ ",\"engine\":\x7b\"friend_lists\":" ++
      toString friendLists ++ ",\"parties\":" ++ toString parties ++ ",\"status_sessions\":" ++
      toString sessions ++ ",\"metrics\":\x7b" ++ ",".intercalate counters ++ "\x7d\x7d\x7d"

/-- A response on one line: its status and its body. -/
def Response.text (r : Response) : String :=
  if r.bodiless || r.body.text.isEmpty then toString r.status
  else toString r.status ++ " " ++ r.body.text

end Presence.Http
