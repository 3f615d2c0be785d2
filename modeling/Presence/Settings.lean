import Presence.Config
import Presence.Failure
import Presence.Settings.Dotenv
import Presence.Settings.Setting
import Presence.Table
import Presence.Toml.Reader

/-!
The thirteen settings of the server. Each has a default, which a file overrides, which the
environment overrides. Names are case-insensitive and unknown names are ignored. The value of a
setting depends only on the entries under its own name.
-/

namespace Presence

structure Settings where
  serviceName : String
  bind : String
  port : Nat
  databasePath : String
  presence : Config
deriving DecidableEq, Repr

/-- Errors of loading, with the lines of their report after the first. -/
structure LoadError where
  more : List String
deriving DecidableEq, Repr

/-- Errors of `verify`. -/
inductive SettingsError
  | emptyServiceName
  | zeroPort
  | emptyDatabasePath
  | presence (cause : ConfigError)
deriving DecidableEq, Repr

def SettingsError.message : SettingsError → String
  | .emptyServiceName => "service_name must not be empty"
  | .zeroPort => "port must be non-zero"
  | .emptyDatabasePath => "database_path must not be empty"
  | .presence cause => (PresenceError.invalidConfig cause).message

namespace Settings

/-- Settings by name, from one source. -/
abbrev Layer := Table String Setting

/-- The defaults. -/
def standard : Layer := .ofList
  [("service_name", .text "socialite"),
   ("bind", .text "0.0.0.0"),
   ("port", .whole 8080),
   ("database_path", .text "data/socialite.db"),
   ("status_ttl", .text "10s"),
   ("status_capacity", .whole 100000),
   ("queue_capacity", .whole 1000),
   ("queue_overflow_wait", .text "50ms"),
   ("session_outbound_capacity", .whole 64),
   ("friends_refresh_interval", .text "60s"),
   ("party_refresh_interval", .text "60s"),
   ("refresh_retry_delay", .text "5s"),
   ("party_poll_interval", .text "5s")]

/-! ### Names -/

def isNameChar (c : Char) : Bool := c.isAlphanum || c = '_' || c = '-' || c = ' '

/-- The rest of a subscript after its opening bracket: a whole number of 64 bits, optionally with a
minus sign, between optional blanks. Returns the text after the closing bracket. -/
def subscript? (cs : List Char) : Option (List Char) :=
  let isBlank (c : Char) : Bool := c = ' ' || c = '\t'
  let cs := cs.dropWhile isBlank
  let (limit, cs) := match cs with
    | '-' :: cs => (0x8000000000000000, cs)
    | cs => (0x7fffffffffffffff, cs)
  let digits := cs.takeWhile Json.isDigit
  match (cs.dropWhile Json.isDigit).dropWhile isBlank with
  | ']' :: after => if !digits.isEmpty && Json.digitsValue digits ≤ limit then some after else none
  | _ => none

/-- Whether a text extends a name to a path: names after points, and subscripts. -/
def isPathRest : (fuel : Nat) → List Char → Bool
  | 0, _ => false
  | _ + 1, [] => true
  | fuel + 1, '.' :: rest =>
    !(rest.takeWhile isNameChar).isEmpty && isPathRest fuel (rest.dropWhile isNameChar)
  | fuel + 1, '[' :: rest => (subscript? rest).any (isPathRest fuel)
  | _ + 1, _ => false

/-- The setting that a name refers to, and its value there: an entry for a part of a setting makes
the whole a table. -/
def resolve (name : String) (s : Setting) : String × Setting :=
  let cs := (Setting.lowered name).toList
  let rest := cs.dropWhile isNameChar
  if !rest.isEmpty && isPathRest (rest.length + 1) rest then
    (String.ofList (cs.takeWhile isNameChar), .table)
  else (String.ofList cs, s)

/-- Overrides the entries of a layer by those of another. -/
def Layer.overlay (below : Layer) (said : List (String × Setting)) : Layer :=
  said.foldl (fun l (name, s) =>
    let (name, s) := resolve name s
    l.insert name s) below

/-! ### Sources -/

/-- The prefix of the environment variables that are settings, in any case. -/
def environmentMark : String := "socialite_"

/-- The names of these environment variables in upper case. -/
def environmentNames : List String :=
  standard.keys.map fun name => (environmentMark ++ name).map Char.toUpper

/-- The layer of an environment. -/
def ofEnvironment (env : Dotenv.Environment) : List (String × Setting) :=
  env.filterMap fun (name, value) =>
    let mark := environmentMark.toList
    if (Setting.lowered name).toList.take mark.length = mark then
      some (String.ofList (name.toList.drop mark.length), Setting.ofEnvironment value)
    else none

/-- The setting of a JSON value; none for an object without members. -/
def ofJson : Json.Value → Option Setting
  | .null => some .absent
  | .bool b => some (.flag b)
  | .number n => some (.ofNumber n)
  | .string s => some (.text s)
  | .array _ => some .list
  | .object [] => none
  | .object _ => some .table

/-- The setting of a TOML node; none for a table without entries. -/
def ofToml : Toml.Node → Option Setting
  | .leaf (.text s) => some (.text s)
  | .leaf (.whole n) => some (.whole n)
  | .leaf (.real x) => some (.real x)
  | .leaf (.flag b) => some (.flag b)
  | .leaf (.list _) => some .list
  | .leaf (.table []) => none
  | .leaf (.table _) => some .table
  | .table _ _ [] => none
  | .table .. => some .table
  | .tables _ => some .list

/-- The components of a path without empty ones and `.`. -/
def components (path : String) : List String :=
  (path.splitOn "/").filter fun name => name ≠ "" && name ≠ "."

/-- The last component of a path, unless it is `..`. -/
def fileName? (path : String) : Option String :=
  (components path).getLast?.filter (· ≠ "..")

/-- The part of a path's file name after its last point, if the name does not begin with that. -/
def extension? (path : String) : Option String :=
  (fileName? path).bind fun name =>
    match name.toList.reverse.span (· ≠ '.') with
    | (ext, _ :: _ :: _) => some (String.ofList ext.reverse)
    | _ => none

/-- The layer of a JSON text. -/
def readJson (text : String) : Except LoadError (List (String × Setting)) :=
  match Json.read text with
  | .ok (.object members) => .ok (members.filterMap fun (k, v) => (ofJson v).map (k, ·))
  | _ => .error ⟨[]⟩

/-- A path without empty components and `.`. -/
def plainPath (path : String) : String :=
  (if path.startsWith "/" then "/" else "") ++ "/".intercalate (components path)

/-- The layer of a TOML text; `path` is for the report of a fault. -/
def readToml (path text : String) : Except LoadError (List (String × Setting)) :=
  match Toml.read text with
  | .ok entries => .ok (entries.filterMap fun (k, v) => (ofToml v).map (k, ·))
  | .error f => .error ⟨(f.report text).tail ++ [" in " ++ plainPath path]⟩

/-- A path up to the end of its file name, with one more extension. -/
def withExtension (path ext : String) : String :=
  let rec trimmed : List Char → List Char
    | '/' :: cs => trimmed cs
    | '.' :: '/' :: cs => trimmed cs
    | cs => cs
  String.ofList (trimmed path.toList.reverse).reverse ++ "." ++ ext

/-- The paths at which a settings file is looked up. Formats other than TOML and JSON are left out:
further extensions are not tried, and a file of another format is an error. -/
def candidates (path : String) : List String :=
  match fileName? path with
  | none => [path]
  | some _ => [path, withExtension path "toml", withExtension path "json"]

/-- The layer of the first file among the candidates of a path. -/
def readFile (files : String → Option String) (path : String) :
    Except LoadError (List (String × Setting)) :=
  match files path, fileName? path with
  | some text, _ =>
    match extension? path with
    | some "toml" => readToml path text
    | some "json" => readJson text
    | _ => .error ⟨[]⟩
  | none, none => .error ⟨[]⟩
  | none, some _ =>
    match files (withExtension path "toml"), files (withExtension path "json") with
    | some text, _ => readToml (withExtension path "toml") text
    | none, some text => readJson text
    | none, none => .error ⟨[]⟩

/-! ### Loading -/

/-- The settings of a layer; `none` if one of them cannot be converted. -/
def ofLayer (l : Layer) : Option Settings := do
  let text (k : String) : Option String := (l.get? k).bind Setting.asText?
  let word (k : String) : Option Nat := (l.get? k).bind Setting.asWord?
  let time (k : String) : Option Duration := (l.get? k).bind Setting.asDuration?
  some {
    serviceName := ← text "service_name"
    bind := ← text "bind"
    port := ← (l.get? "port").bind Setting.asPort?
    databasePath := ← text "database_path"
    presence := {
      statusTtl := ← time "status_ttl"
      statusCapacity := ← word "status_capacity"
      queueCapacity := ← word "queue_capacity"
      queueOverflowWait := ← time "queue_overflow_wait"
      sessionOutboundCapacity := ← word "session_outbound_capacity"
      friendsRefreshInterval := ← time "friends_refresh_interval"
      partyRefreshInterval := ← time "party_refresh_interval"
      refreshRetryDelay := ← time "refresh_retry_delay"
      partyPollInterval := ← time "party_poll_interval" } }

/-- The result of loading. -/
structure Loading where
  result : Except LoadError Settings
  /-- The reason why a file of environment variables was not read to its end. -/
  warning : Option String

/-- Loads the settings from an environment and, if a path is given, a file. A file of environment
variables adds to the environment; any other file is a layer below it. -/
def load (env : Dotenv.Environment) (path : Option String) (files : String → Option String) :
    Loading :=
  let finish (env : Dotenv.Environment) (file : List (String × Setting)) :
      Except LoadError Settings :=
    match ofLayer ((Layer.overlay standard file).overlay (ofEnvironment env)) with
    | some s => .ok s
    | none => .error ⟨[]⟩
  match path with
  | none => ⟨finish env [], none⟩
  | some path =>
    if extension? path = some "env" then
      match files path with
      | some text =>
        let (fault, env) := Dotenv.extend env text
        ⟨finish env [], fault.map Dotenv.Fault.message⟩
      | none => ⟨finish env [], some "No such file or directory (os error 2)"⟩
    else
      match readFile files path with
      | .ok said => ⟨finish env said, none⟩
      | .error e => ⟨.error e, none⟩

/-- Rejects settings that the server cannot run with. -/
def verify (s : Settings) : Except SettingsError Unit :=
  if (Text.trim s.serviceName.toList).isEmpty then .error .emptyServiceName
  else if s.port = 0 then .error .zeroPort
  else if s.databasePath.isEmpty then .error .emptyDatabasePath
  else
    match s.presence.validate with
    | .ok () => .ok ()
    | .error e => .error (.presence e)

/-- The address to listen on. -/
def listenAddress (s : Settings) : String := s.bind ++ ":" ++ toString s.port

end Settings

end Presence
