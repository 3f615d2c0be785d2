import Presence.Double

/-!
TOML documents, built line by line. A table can be extended only in the form in which it was begun:
dotted keys do not extend a table made by a header, a header does not reopen a table made by dotted
keys, and no key is defined twice.
-/

namespace Presence.Toml

/-- A TOML value. Dates and times are kept as their texts. -/
inductive Value
  | text (s : String)
  | whole (n : Int)
  | real (x : Double)
  | flag (b : Bool)
  | list (items : List Value)
  | table (entries : List (String × Value))
deriving Inhabited

/-- The nodes of a document. -/
inductive Node
  | leaf (v : Value)
  /-- A table: whether it was only implied by a longer path, and whether dotted keys made it. -/
  | table (implicit dotted : Bool) (entries : List (String × Node))
  /-- The tables of an array of tables, latest first. -/
  | tables (elements : List (List (String × Node)))
deriving Inhabited

/-- Reasons for rejecting a definition. -/
inductive Conflict
  /-- The key is defined already; optionally with the table. -/
  | duplicate (key : String) (path : Option (List String))
  /-- A node on the path is not a table. -/
  | wrongType (path : List String) (type : String)
deriving DecidableEq, Repr

/-- The name of a value's type. -/
def Value.typeName : Value → String
  | .text _ => "string"
  | .whole _ => "integer"
  | .real _ => "float"
  | .flag _ => "boolean"
  | .list _ => "array"
  | .table _ => "inline table"

abbrev Entries := List (String × Node)

def Entries.get? (es : Entries) (k : String) : Option Node :=
  (es.find? fun e => e.1 = k).map Prod.snd

def Entries.set (es : Entries) (k : String) (n : Node) : Entries :=
  if es.any (·.1 = k) then es.map fun e => if e.1 = k then (k, n) else e else es ++ [(k, n)]

/-- Changes the table at the end of a path, creating missing ones. `above` is the path up to
here. -/
def descend (dotted : Bool) (f : Bool → Entries → Except Conflict Entries) :
    (above path : List String) → (atDotted : Bool) → Entries → Except Conflict Entries
  | _, [], atDotted, es => f atDotted es
  | above, k :: path, _, es =>
    let here := above ++ [k]
    match es.get? k with
    | none => do
      let inner ← descend dotted f here path dotted []
      return es.set k (.table true dotted inner)
    | some (.leaf v) => .error (.wrongType here v.typeName)
    | some (.tables []) => .error (.wrongType here "array of tables")
    | some (.tables (last :: earlier)) => do
      let inner ← descend dotted f here path false last
      return es.set k (.tables (inner :: earlier))
    | some (.table implicit wasDotted inner) =>
      if dotted && !implicit then .error (.duplicate k none)
      else do
        let inner ← descend dotted f here path wasDotted inner
        return es.set k (.table implicit wasDotted inner)

/-- Opens a table by its header. -/
def openTable (root : Entries) (path : List String) : Except Conflict Entries :=
  match path.reverse with
  | [] => .ok root
  | key :: up =>
    descend false (fun _ es =>
      match es.get? key with
      | none => .ok (es.set key (.table false false []))
      | some (.table true false inner) => .ok (es.set key (.table false false inner))
      | some _ => .error (.duplicate key (some up.reverse))) [] up.reverse false root

/-- Adds a table to an array of tables by its header. -/
def addTable (root : Entries) (path : List String) : Except Conflict Entries :=
  match path.reverse with
  | [] => .ok root
  | key :: up =>
    descend false (fun _ es =>
      match es.get? key with
      | none => .ok (es.set key (.tables [[]]))
      | some (.tables elements) => .ok (es.set key (.tables ([] :: elements)))
      | some _ => .error (.duplicate key (some up.reverse))) [] up.reverse false root

/-- Defines a key in a table; `taken` is the conflict if it is defined already. -/
def defineIn (es : Entries) (key : List String) (v : Value) (taken : String → Conflict) :
    Except Conflict Entries :=
  match key.reverse with
  | [] => .ok es
  | last :: up =>
    descend true (fun atDotted es =>
      if atDotted = up.isEmpty then .error (.duplicate last none)
      else if es.any (·.1 = last) then .error (taken last)
      else .ok (es ++ [(last, .leaf v)])) [] up.reverse false es

/-- Defines a key below the table that was opened last. -/
def define (root : Entries) (opened key : List String) (v : Value) : Except Conflict Entries :=
  -- The table itself exists already, so nothing is made on the way to it.
  descend false (fun _ es => defineIn es key v fun k => .duplicate k (some opened)) [] opened false root

/-- Defines a key of an inline table. -/
def defineInline (es : Entries) (key : List String) (v : Value) : Except Conflict Entries :=
  defineIn es key v fun k => .duplicate k none

end Presence.Toml
