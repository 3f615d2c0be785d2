import Presence.Refresh

/-!
The durable store: two tables of rows, each in binary order of its first two columns. Other programs
may have written rows with any texts or blobs. A friendship is one row, smaller name first; putting
an existing row replaces its status. Reading a table converts its rows in order into entries with
normalized names: a row without a name is skipped, and the first row that cannot be converted fails
the whole reading.
-/

namespace Presence

/-- The content of a cell. Texts are ordered before blobs. -/
inductive Cell
  | text (s : String)
  | blob (bytes : List Nat)
deriving DecidableEq, Repr

namespace Cell

/-- The binary order of cells. -/
def before : Cell → Cell → Bool
  | .text a, .text b => a < b
  | .text _, .blob _ => true
  | .blob _, .text _ => false
  | .blob a, .blob b => a < b

end Cell

/-- A row of either table: two names and a status. -/
structure Row where
  first : Cell
  second : Cell
  status : Cell
deriving DecidableEq, Repr

namespace Row

/-- Whether two rows have the same names. -/
def sameKey (a b : Row) : Bool := a.first = b.first && a.second = b.second

/-- The order of rows by their names. -/
def before (a b : Row) : Bool :=
  a.first.before b.first || (a.first = b.first && a.second.before b.second)

/-- Whether a row has these names. -/
def isFor (r : Row) (first second : String) : Bool :=
  r.first = .text first && r.second = .text second

end Row

/-- Rows in the order of their names, no two with the same names. -/
abbrev Rows := List Row

namespace Rows

/-- Inserts a row in order, replacing one with the same names. -/
def put (row : Row) : Rows → Rows
  | [] => [row]
  | r :: rest =>
    if row.sameKey r then row :: rest
    else if row.before r then row :: r :: rest
    else r :: put row rest

/-- Removes the row with these names. -/
def delete (rows : Rows) (first second : String) : Rows :=
  rows.filter fun r => !r.isFor first second

def contains (rows : Rows) (first second : String) : Bool :=
  rows.any fun r => r.isFor first second

end Rows

inductive FriendshipStatus
  | sent
  | confirmed
deriving DecidableEq, Repr

def FriendshipStatus.text : FriendshipStatus → String
  | .sent => "sent"
  | .confirmed => "confirmed"

def FriendshipStatus.parse (s : String) : Except StoreError FriendshipStatus :=
  if s = "sent" then .ok .sent
  else if s = "confirmed" then .ok .confirmed
  else .error (.unknownStatus s)

inductive MembershipStatus
  | invited
  | active
deriving DecidableEq, Repr

def MembershipStatus.text : MembershipStatus → String
  | .invited => "invited"
  | .active => "active"

def MembershipStatus.parse (s : String) : Except StoreError MembershipStatus :=
  if s = "invited" then .ok .invited
  else if s = "active" then .ok .active
  else .error (.unknownStatus s)

structure Friendship where
  user1 : User
  user2 : User
  status : FriendshipStatus
deriving DecidableEq

structure Membership where
  party : Party
  user : User
  status : MembershipStatus
deriving DecidableEq

/-- The two tables. -/
structure Store where
  friendships : Rows
  members : Rows
deriving DecidableEq

namespace Store

def empty : Store := ⟨[], []⟩

/-! ### Changes -/

/-- Two users in the order in which their friendship is stored. -/
def ordered (a b : User) : User × User := if a < b then (a, b) else (b, a)

def putFriendship (s : Store) (a b : User) (status : FriendshipStatus) :
    Except StoreError Store :=
  if a = b then .error (.selfFriendship a)
  else
    let (a, b) := ordered a b
    .ok { s with friendships := Rows.put ⟨.text a.text, .text b.text, .text status.text⟩ s.friendships }

/-- Deletes a friendship; returns whether it was stored. -/
def deleteFriendship (s : Store) (a b : User) : Bool × Store :=
  let (a, b) := ordered a b
  (Rows.contains s.friendships a.text b.text,
    { s with friendships := Rows.delete s.friendships a.text b.text })

def putMembership (s : Store) (p : Party) (u : User) (status : MembershipStatus) : Store :=
  { s with members := Rows.put ⟨.text p.text, .text u.text, .text status.text⟩ s.members }

/-- Deletes a membership; returns whether it was stored. -/
def deleteMembership (s : Store) (p : Party) (u : User) : Bool × Store :=
  (Rows.contains s.members p.text u.text,
    { s with members := Rows.delete s.members p.text u.text })

/-! ### Reading -/

/-- The text of a cell. -/
def cellText (context column : String) (index : Nat) : Cell → Except StoreError String
  | .text s => .ok s
  | .blob _ => .error (.blobCell context index column)

/-- The texts of a row, read from left to right. -/
def rowTexts (context first second : String) (r : Row) :
    Except StoreError (String × String × String) := do
  let a ← cellText context first 0 r.first
  let b ← cellText context second 1 r.second
  let c ← cellText context "status" 2 r.status
  .ok (a, b, c)

/-- The friendship in a row; `none` if a name is empty. -/
def friendshipOf (r : Row) : Except StoreError (Option Friendship) := do
  let (a, b, status) ← rowTexts "list friendships row" "user1" "user2" r
  match (Name.parse? a : Option User), (Name.parse? b : Option User) with
  | some a, some b => do
    let status ← FriendshipStatus.parse status
    .ok (some ⟨a, b, status⟩)
  | _, _ => .ok none

/-- The membership in a row; `none` if a name is empty. -/
def membershipOf (r : Row) : Except StoreError (Option Membership) := do
  let (p, u, status) ← rowTexts "list party members row" "party_name" "user_name" r
  match (Name.parse? p : Option Party), (Name.parse? u : Option User) with
  | some p, some u => do
    let status ← MembershipStatus.parse status
    .ok (some ⟨p, u, status⟩)
  | _, _ => .ok none

/-- The entries of all rows in order, or the first error. -/
def collect {α : Type} (read : Row → Except StoreError (Option α)) :
    Rows → Except StoreError (List α)
  | [] => .ok []
  | r :: rest => do
    let a ← read r
    let as ← collect read rest
    .ok (a.toList ++ as)

def listFriendships (s : Store) : Except StoreError (List Friendship) :=
  collect friendshipOf s.friendships

def listMemberships (s : Store) : Except StoreError (List Membership) :=
  collect membershipOf s.members

/-- Appends a user to the list of an owner. -/
def addTo {kind : NameKind} (t : Table (Name kind) (List User)) (owner : Name kind) (u : User) :
    Table (Name kind) (List User) :=
  t.insert owner ((t.get? owner).getD [] ++ [u])

/-- The friends of every user with a confirmed friendship, which counts for both users. -/
def friendLists (s : Store) : Except StoreError (Graph .friends) := do
  let all ← s.listFriendships
  .ok (all.foldl (fun t f =>
    if f.status = .confirmed then addTo (addTo t f.user1 f.user2) f.user2 f.user1 else t) .empty)

/-- The active members of every party that has one. -/
def activeMembers (s : Store) : Except StoreError (Graph .parties) := do
  let all ← s.listMemberships
  .ok (all.foldl (fun t m => if m.status = .active then addTo t m.party m.user else t) .empty)

/-- The membership of a user in a party, by the names as stored. -/
def membership? (s : Store) (p : Party) (u : User) : Except StoreError (Option Membership) :=
  match s.members.find? fun r => r.isFor p.text u.text with
  | none => .ok none
  | some r => do
    let status ← cellText "get party membership" "status" 0 r.status
    let status ← MembershipStatus.parse status
    .ok (some ⟨p, u, status⟩)

/-! ### As a source of relationships -/

/-- A reading as an answer of the source. -/
def asAnswer {α : Type} (r : Except StoreError α) : Answer α :=
  r.mapError fun e => .failed e.asSource

def fetchFriendLists (s : Store) : Answer (Graph .friends) := asAnswer s.friendLists

def fetchActiveMembers (s : Store) : Answer (Graph .parties) := asAnswer s.activeMembers

def fetchMembership (s : Store) (p : Party) (u : User) : Answer (Option Membership) :=
  asAnswer (s.membership? p u)

end Store

end Presence
