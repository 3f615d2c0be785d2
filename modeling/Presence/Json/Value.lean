import Presence.Json.Number

/-!
JSON values as they are read: members in written order, numbers exact.
-/

namespace Presence.Json

/-- A JSON value. -/
inductive Value
  | null
  | bool (b : Bool)
  | number (n : Number)
  | string (s : String)
  | array (items : List Value)
  | object (members : List (String × Value))
deriving Inhabited

end Presence.Json
