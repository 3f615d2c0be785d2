import Presence.Config
import Presence.Name
import Presence.Text.Quoted

/-!
Errors of the service, by cause, and their messages. A store error reaches the engine as a failed
query; a source error is passed on unchanged.
-/

namespace Presence

/-- Errors of delivery to the outbound channel of a session. -/
inductive DeliveryError
  | full
  | closed
deriving DecidableEq, Repr

def DeliveryError.message : DeliveryError → String
  | .full => "session outbound queue is full"
  | .closed => "session is closed"

/-- Errors of the relationship source. -/
inductive SourceError
  | unavailable (reason : String)
  | query (reason : String)
deriving DecidableEq, Repr

def SourceError.message : SourceError → String
  | .unavailable reason => "relationship store unavailable: " ++ reason
  | .query reason => "relationship query failed: " ++ reason

/-- Errors of the engine's calls. -/
inductive PresenceError
  | invalidConfig (cause : ConfigError)
  | source (cause : SourceError)
  | notPartyMember (party : Party) (user : User)
  | shutDown
  /-- The task of the source panicked. -/
  | sourceCrashed
deriving DecidableEq

def PresenceError.message : PresenceError → String
  | .invalidConfig cause => "invalid presence config: " ++ cause.message
  | .source cause => cause.message
  | .notPartyMember p u => "user " ++ u.text ++ " is not a member of party " ++ p.text
  | .shutDown => "presence engine is shut down"
  | .sourceCrashed => "background task failed"

/-- Errors of the relationship store. -/
inductive StoreError
  /-- A cell holds a blob where text is expected. -/
  | blobCell (context : String) (index : Nat) (column : String)
  /-- The file is not a database. -/
  | notADatabase
  /-- The path names something that is not a file. -/
  | cannotOpen (path : String)
  /-- The directory of the database cannot be created. -/
  | cannotCreate (path cause : String)
  | selfFriendship (user : User)
  | unknownStatus (status : String)
deriving DecidableEq

def StoreError.message : StoreError → String
  | .blobCell context index column =>
    context ++ ": Invalid column type Blob at index: " ++ toString index ++ ", name: " ++ column
  | .notADatabase => "init relationship db: file is not a database"
  | .cannotOpen path => "open relationship db: unable to open database file: " ++ path
  | .cannotCreate path cause => "create " ++ path ++ ": " ++ cause
  | .selfFriendship u => "a user cannot befriend themselves: " ++ u.text
  | .unknownStatus s => "unknown status " ++ Text.quoted s

/-- The store error as a source error. -/
def StoreError.asSource (e : StoreError) : SourceError :=
  .query e.message

end Presence
