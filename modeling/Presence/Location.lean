import Presence.Http.Target

/-!
Locations of databases. A path names a file, a temporary database or, as a URI, what the URI
specifies. A `Locator` is a reading of paths that agrees with the database library's documentation
on all paths that are not URIs; `Locator.standard` is the reading that the program runs with.
-/

namespace Presence

/-- Where the database of a path is kept. -/
inductive Location
  /-- The file of this name, created if it does not exist. -/
  | file (name : String)
  /-- No file: each connection has an empty database of its own, dropped when it is closed. -/
  | temporary
  /-- Anything else that a URI can specify: an existing file only, read-only access, another file
  system layer, or an error. -/
  | other
deriving DecidableEq, Repr

namespace Location

/-- The path of a private database in memory. -/
def memoryPath : String := ":memory:"

/-- The prefix of a URI. -/
def scheme : String := "file:"

def isUri (path : String) : Bool := scheme.toList.isPrefixOf path.toList

/-- The path of a URI without its authority, which must be empty or the local host. -/
def withoutAuthority? : List Char → Option (List Char)
  | '/' :: '/' :: cs =>
    let host := String.ofList (cs.takeWhile (· ≠ '/'))
    if host = "" || host = "localhost" then some (cs.dropWhile (· ≠ '/')) else none
  | cs => some cs

/-- The location of a URI without its scheme: the path up to `?` or `#`, percent-decoded. The only
query that is interpreted is `mode=memory`. -/
def ofUri (cs : List Char) : Location :=
  let cs := cs.takeWhile (· ≠ '#')
  let query := String.ofList ((cs.dropWhile (· ≠ '?')).drop 1)
  match withoutAuthority? (cs.takeWhile (· ≠ '?')) with
  | none => .other
  | some path =>
    match Http.decodeSegment (String.ofList path) with
    | none => .other
    | some name =>
      if query = "mode=memory" then .temporary
      else if query ≠ "" || name.toList.contains '\x00' then .other
      else if name = "" || name = memoryPath then .temporary
      else .file name

end Location

/-- A reading of paths by the database library. Only URIs are left to it: the empty path and
`:memory:` name temporary databases, and any other path without NUL is the name of a file. -/
structure Locator where
  locate : String → Location
  memory : locate Location.memoryPath = .temporary
  unnamed : locate "" = .temporary
  plain {path : String} : path ≠ "" → path ≠ Location.memoryPath → Location.isUri path = false →
    '\x00' ∉ path.toList → locate path = .file path

namespace Locator

def standard : Locator where
  locate path :=
    if path = "" || path = Location.memoryPath then .temporary
    else if Location.isUri path then .ofUri (path.toList.drop Location.scheme.length)
    else if path.toList.contains '\x00' then .other
    else .file path
  memory := rfl
  unnamed := rfl
  plain hn hm hu h0 := by simp [hn, hm, hu, h0]

end Locator

end Presence
