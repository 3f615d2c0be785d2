import Presence.CommandLine.Arguments
import Presence.Disk
import Presence.Log

/-!
The `db` commands. A command opens the store first, creating it if it does not exist, then parses its
names from left to right, then reads or changes rows.
-/

namespace Presence.CommandLine

variable {m : Type → Type} [Monad m]

/-- The database that `entry` holds, if it is one; the directory of the file must exist. -/
def storeIn (path : String) (hasDirectory : Bool) (entry : Option Entry) : Except StoreError Store :=
  if hasDirectory then
    match entry with
    | none => .ok .empty
    | some (.database store) => .ok store
    | some (.text content) => if content.isEmpty then .ok .empty else .error .notADatabase
    | some .directory => .error (.cannotOpen path)
  else .error (.cannotOpen path)

/-- Commits a store to the database of a path. -/
def keepStore (files : Files m) (path : String) (store : Store) : m Unit :=
  match files.locator.locate path with
  | .file name => files.keep name store
  | _ => pure ()

/-- Opens the database in the file `name`, which `path` names. -/
def openFile (files : Files m) (path name : String) : m (Except StoreError Store) := do
  let above ← files.look ((Path.parent? name).getD "")
  let entry ← files.look name
  match storeIn path (above.any Entry.isDirectory && !Path.leadsToDirectory name) entry with
  | .error e => return .error e
  | .ok store => do
    files.keep name store
    return .ok store

/-- Opens the database of a path, after creating the parent directories of the path. Locations that
are not modelled count as ones that cannot be opened. -/
def openStore (files : Files m) (path : String) : m (Except StoreError Store) := do
  let parent := (Path.parent? path).getD ""
  match ← files.makeDirectories parent with
  | .error e => return .error (.cannotCreate parent e.message)
  | .ok () =>
    match files.locator.locate path with
    | .file name => openFile files path name
    | .temporary => return .ok .empty
    | .other => return .error (.cannotOpen path)

/-- Errors of a command. -/
inductive DatabaseError
  | invalidUser (name : String)
  | invalidParty (name : String)
  | store (cause : StoreError)
deriving DecidableEq

def DatabaseError.message : DatabaseError → String
  | .invalidUser name => "invalid user name " ++ Text.quoted name
  | .invalidParty name => "invalid party name " ++ Text.quoted name
  | .store cause => cause.message

inductive DatabaseResult
  /-- The store after the command. -/
  | done (store : Store)
  /-- A removal found no row. -/
  | missing
  | failed (e : DatabaseError)

def userNamed (name : String) : Except DatabaseError User :=
  match Name.parse? name with
  | some u => .ok u
  | none => .error (.invalidUser name)

def partyNamed (name : String) : Except DatabaseError Party :=
  match Name.parse? name with
  | some p => .ok p
  | none => .error (.invalidParty name)

def friendshipLine (f : Friendship) : String :=
  "friendship " ++ f.user1.text ++ " " ++ f.user2.text ++ " " ++ f.status.text

def membershipLine (x : Membership) : String :=
  "member " ++ x.party.text ++ " " ++ x.user.text ++ " " ++
    match x.status with
    | .invited => "Invited"
    | .active => "Active"

namespace DatabaseResult

def ofRemoval : Bool × Store → DatabaseResult
  | (true, store) => .done store
  | (false, _) => .missing

def ofExcept : Except DatabaseError DatabaseResult → DatabaseResult
  | .ok r => r
  | .error e => .failed e

end DatabaseResult

/-- Runs a command on a store; the lines are what it prints. -/
def DatabaseAction.perform (store : Store) : DatabaseAction → List String × DatabaseResult
  | .init => ([], .done store)
  | .addFriend user friend pending =>
    ([], .ofExcept do
      let u ← userNamed user
      let f ← userNamed friend
      match store.putFriendship u f (if pending then .sent else .confirmed) with
      | .ok store => return .done store
      | .error e => .error (.store e))
  | .removeFriend user friend =>
    ([], .ofExcept do
      let u ← userNamed user
      let f ← userNamed friend
      return .ofRemoval (store.deleteFriendship u f))
  | .addMember party user invited =>
    ([], .ofExcept do
      let p ← partyNamed party
      let u ← userNamed user
      return .done (store.putMembership p u (if invited then .invited else .active)))
  | .removeMember party user =>
    ([], .ofExcept do
      let p ← partyNamed party
      let u ← userNamed user
      return .ofRemoval (store.deleteMembership p u))
  | .dump =>
    match store.listFriendships with
    | .error e => ([], .failed (.store e))
    | .ok fs =>
      let friends := fs.map friendshipLine
      match store.listMemberships with
      | .error e => (friends, .failed (.store e))
      | .ok ms => (friends ++ ms.map membershipLine, .done store)

end Presence.CommandLine
