import Presence.Location
import Presence.Store

/-!
Files, directories and databases under paths. `Files` is the interface through which the program
reaches them, in any monad; `Disk` implements it over a table of entries.
-/

namespace Presence

/-- The kind and content of a file. `directory` also stands for files that cannot be read. -/
inductive Entry
  | directory
  | text (content : String)
  | database (store : Store)

def Entry.isDirectory : Entry → Bool
  | .directory => true
  | _ => false

/-- Errors of `makeDirectories`. -/
inductive DirectoryError
  /-- The last component exists and is not a directory. -/
  | occupied
  /-- An inner component is not a directory. -/
  | notADirectory
  | other (reason : String)
deriving DecidableEq, Repr

def DirectoryError.message : DirectoryError → String
  | .occupied => "File exists (os error 17)"
  | .notADirectory => "Not a directory (os error 20)"
  | .other reason => reason

/-- Operations on files. -/
structure Files (m : Type → Type) where
  look : String → m (Option Entry)
  /-- Creates the missing directories of a path, outermost first. -/
  makeDirectories : String → m (Except DirectoryError Unit)
  /-- Writes a database to the file of a name. -/
  keep : String → Store → m Unit
  locator : Locator

namespace Path

/-- The components of a path, of which `.` is dropped and `..` drops the one before; the root of an
absolute path is the component `/`. -/
def names (path : String) : List String :=
  let step (way : List String) (name : String) : List String :=
    if name = "" || name = "." then way
    else if name = ".." then way.dropLast
    else way ++ [name]
  (path.splitOn "/").foldl step (if path.startsWith "/" then ["/"] else [])

/-- The initial segments of a list of components, shortest first. -/
def stations : List String → List (List String)
  | [] => [[]]
  | name :: rest => [] :: (stations rest).map (name :: ·)

/-- Whether the last component is empty, `.` or `..`, so that the path can only name a directory. -/
def leadsToDirectory (path : String) : Bool :=
  ["", ".", ".."].contains ((path.splitOn "/").getLast?.getD "")

/-- The path without its last component; `none` if it has none. -/
def parent? (path : String) : Option String :=
  let isSlash (c : Char) : Bool := c = '/'
  let cs := path.toList.reverse.dropWhile isSlash
  if cs.isEmpty then none
  else
    let above := (cs.dropWhile (!isSlash ·)).dropWhile isSlash
    if above.isEmpty && path.startsWith "/" then some "/" else some (String.ofList above.reverse)

end Path

/-- A file system: entries by the components of their paths. -/
structure Disk where
  entries : Table (List String) Entry

namespace Disk

/-- A disk with text files at some paths of the working directory, and their parent directories. -/
def ofTexts (texts : List (String × String)) : Disk :=
  let put (t : Table (List String) Entry) (e : String × String) : Table (List String) Entry :=
    let way := Path.names e.1
    ((Path.stations way.dropLast).foldl (fun t d => t.insert d .directory) t).insert way (.text e.2)
  ⟨texts.foldl put .empty⟩

/-- The entry at some components. The working directory and the root always exist. -/
def find? (d : Disk) (way : List String) : Option Entry :=
  if way = [] || way = ["/"] then some .directory else d.entries.get? way

def insert (d : Disk) (way : List String) (e : Entry) : Disk := ⟨d.entries.insert way e⟩

/-- Creates the missing directories of a list of initial segments, in order. -/
def makeAll (d : Disk) : List (List String) → Except DirectoryError Disk
  | [] => .ok d
  | way :: rest =>
    match d.find? way with
    | some .directory => d.makeAll rest
    | some _ => .error (if rest.isEmpty then .occupied else .notADirectory)
    | none => (d.insert way .directory).makeAll rest

/-- The entry at a path. A path that can only name a directory names no other file. -/
def entry? (d : Disk) (path : String) : Option Entry :=
  (d.find? (Path.names path)).filter fun e => e.isDirectory || !Path.leadsToDirectory path

/-- The operations on the files of a disk. -/
def files (locator : Locator) : Files (StateM Disk) where
  look path := do
    let d ← get
    return d.entry? path
  makeDirectories path := do
    match (← get).makeAll (Path.stations (Path.names path)) with
    | .ok d => do
      set d
      return .ok ()
    | .error e => return .error e
  keep path store := modify fun d => d.insert (Path.names path) (.database store)
  locator := locator

end Disk

end Presence
