import Presence.Script.Reply

/-!
Scripts on the store of relationships.
-/

namespace Presence.Script.Storing

/-- The values that a script puts into a cell. -/
inductive Input
  | null
  | number (n : Int)
  | text (s : String)
  | blob (bytes : List Nat)

/-- The cell of a value: numbers are stored as text, null is not stored. -/
def Input.cell? : Input → Option Cell
  | .null => none
  | .number n => some (.text (toString n))
  | .text s => some (.text s)
  | .blob bytes => some (.blob bytes)

inductive Step
  | putFriend (a b : User) (pending : Bool)
  | deleteFriend (a b : User)
  | putMember (p : Party) (u : User) (invited : Bool)
  | deleteMember (p : Party) (u : User)
  | friendships
  | memberships
  | friendLists
  | activeParties
  | membership (p : Party) (u : User)
  | rawFriendship (cells : List Input)
  | rawMember (cells : List Input)
  | reopen

/-- Inserts a row as another program would. It must be complete, and no row with its names may
exist. -/
def insertRaw? (rows : Rows) (cells : List Input) : Option Rows :=
  match cells.map Input.cell? with
  | [some a, some b, some c] =>
    let row : Row := ⟨a, b, c⟩
    if rows.any row.sameKey then none else some (Rows.put row rows)
  | _ => none

/-- The lists of a graph by the names of their owners. -/
def graphLists {kind : RefreshKind} (g : Graph kind) : Reply :=
  .lists (g.entries.map fun e => (e.1.text, e.2.map Name.text))

def fromAnswer {α : Type} (a : Answer α) (f : α → Reply) : Reply :=
  match a with
  | .ok a => f a
  | .error e => .failed e.asPresence

/-- One step on a store that is kept in a file or in memory. -/
def step (inFile : Bool) (s : Store) : Step → Reply × Store
  | .putFriend a b pending =>
    match s.putFriendship a b (if pending then .sent else .confirmed) with
    | .ok s => (.done, s)
    | .error e => (.storeFailed e, s)
  | .deleteFriend a b =>
    let (had, s) := s.deleteFriendship a b
    (.flag had, s)
  | .putMember p u invited => (.done, s.putMembership p u (if invited then .invited else .active))
  | .deleteMember p u =>
    let (had, s) := s.deleteMembership p u
    (.flag had, s)
  | .friendships =>
    (match s.listFriendships with
      | .ok fs => .friendships fs
      | .error e => .storeFailed e, s)
  | .memberships =>
    (match s.listMemberships with
      | .ok ms => .memberships ms
      | .error e => .storeFailed e, s)
  | .friendLists => (fromAnswer s.fetchFriendLists graphLists, s)
  | .activeParties => (fromAnswer s.fetchActiveMembers graphLists, s)
  | .membership p u =>
    (fromAnswer (s.fetchMembership p u) fun m => m.elim .nothing .membership, s)
  | .rawFriendship cells =>
    match insertRaw? s.friendships cells with
    | some rows => (.count 1, { s with friendships := rows })
    | none => (.trouble .rowRejected, s)
  | .rawMember cells =>
    match insertRaw? s.members cells with
    | some rows => (.count 1, { s with members := rows })
    | none => (.trouble .rowRejected, s)
  | .reopen => (.done, if inFile then s else .empty)

end Presence.Script.Storing
