import Presence.Json.Literal
import Presence.Name

/-!
Messages to clients: the answer to a ping, the notice that a friend came online, and the online
members of a party. Each is one JSON object without blanks.
-/

namespace Presence

/-- The online members of a party, strictly ascending. -/
structure Snapshot where
  members : List User
deriving DecidableEq

namespace Snapshot

/-- The snapshot of the users of a list. -/
def online (users : List User) : Snapshot := ⟨Name.sortedSet users⟩

def contains (s : Snapshot) (u : User) : Bool := s.members.contains u

def size (s : Snapshot) : Nat := s.members.length

def isEmpty (s : Snapshot) : Bool := s.members.isEmpty

/-- An object with one member `true` for each user. -/
def json (s : Snapshot) : String :=
  let fields := s.members.map fun u => Json.literal u.text ++ ":true"
  "\x7b" ++ String.intercalate "," fields ++ "\x7d"

end Snapshot

/-- The frames of an outbound channel. -/
inductive Message
  | pong
  | friendOnline (friend : User)
  | snapshot (s : Snapshot)
  | plain (text : String)
deriving DecidableEq

/-- The text of a frame. -/
def Message.text : Message → String
  | .pong => "\x7b\"msg_type\":\"pong\"\x7d"
  | .friendOnline u =>
    "\x7b\"msg_type\":\"friends_online\",\"user_name\":" ++ Json.literal u.text ++ "\x7d"
  | .snapshot s => s.json
  | .plain text => text

end Presence
