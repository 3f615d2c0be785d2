import Presence.Json.Literal
import Presence.Json.Reader
import Presence.Store

/-!
Stores as texts: a JSON object with the rows of both tables in order. A cell is a string or an array
of bytes.
-/

namespace Presence.Store

/-! ### Writing -/

def commaJoined (items : List String) : String := "[" ++ ",".intercalate items ++ "]"

def cellJson : Cell → String
  | .text s => Json.literal s
  | .blob bytes => commaJoined (bytes.map toString)

def rowsJson (rows : Rows) : String :=
  commaJoined (rows.map fun r => commaJoined [cellJson r.first, cellJson r.second, cellJson r.status])

def toText (s : Store) : String :=
  "\x7b\"friendships\":" ++ rowsJson s.friendships ++ ",\"members\":" ++ rowsJson s.members ++ "\x7d"

/-! ### Reading -/

def byte? : Json.Value → Option Nat
  | .number n => if n.whole && !n.decimal.negative then some n.decimal.digits else none
  | _ => none

def cell? : Json.Value → Option Cell
  | .string s => some (.text s)
  | .array bytes => (bytes.mapM byte?).map Cell.blob
  | _ => none

def row? : Json.Value → Option Row
  | .array [a, b, c] => do return ⟨← cell? a, ← cell? b, ← cell? c⟩
  | _ => none

/-- The store that a text denotes. -/
def ofText? (text : String) : Option Store :=
  match Json.read text with
  | .ok (.object [("friendships", .array fs), ("members", .array ms)]) => do
    return ⟨← fs.mapM row?, ← ms.mapM row?⟩
  | _ => none

end Presence.Store
