import Presence.Name
import Presence.Table

/-!
The relationship cache: friend lists and active party members as of the last refresh. Every list is
strictly ascending. A list is replaced as a whole, and a refresh replaces all lists of its kind.
-/

namespace Presence

/-- The two kinds of lists. -/
inductive RefreshKind
  | friends
  | parties
deriving DecidableEq, Repr

namespace RefreshKind

/-- The owners of lists of a kind. -/
abbrev owner : RefreshKind → NameKind
  | .friends => .user
  | .parties => .party

/-- The name of a kind in logs and errors. -/
def text : RefreshKind → String
  | .friends => "friends"
  | .parties => "parties"

end RefreshKind

/-- Lists of users by owner, as fetched. -/
abbrev Graph (kind : RefreshKind) := Table (Name kind.owner) (List User)

/-- The cached lists. -/
structure Relationships where
  friends : Graph .friends
  parties : Graph .parties

namespace Relationships

def empty : Relationships := ⟨.empty, .empty⟩

def replaceFriends (r : Relationships) (u : User) (list : List User) : Relationships :=
  { r with friends := r.friends.insert u (Name.sortedSet list) }

def replaceMembers (r : Relationships) (p : Party) (list : List User) : Relationships :=
  { r with parties := r.parties.insert p (Name.sortedSet list) }

def friendsOf (r : Relationships) (u : User) : List User :=
  (r.friends.get? u).getD []

def membersOf (r : Relationships) (p : Party) : List User :=
  (r.parties.get? p).getD []

/-- Replaces all lists of a kind. -/
def refresh (r : Relationships) : (kind : RefreshKind) → Graph kind → Relationships
  | .friends, g => { r with friends := g.mapValues Name.sortedSet }
  | .parties, g => { r with parties := g.mapValues Name.sortedSet }

/-- The number of owners with a list of a kind. -/
def count (r : Relationships) : RefreshKind → Nat
  | .friends => r.friends.size
  | .parties => r.parties.size

end Relationships

end Presence
