import Presence.CommandLine.Database
import Presence.Http.Server
import Presence.Settings

/-!
The program from its arguments and environment to its exit. A `db` command runs at once. Otherwise
the server starts in fixed steps: load the settings, verify them, open the store, start the engine;
an error at one step ends the program.
-/

namespace Presence.CommandLine

open Log (Printed)

/-- A started server. -/
structure Server where
  settings : Settings
  world : World

/-- The result of the start: an exit code, or a server. -/
inductive Ending
  | exit (code : Nat)
  | serve (server : Server)

/-- The output of the start and its result. -/
structure Run where
  printed : List Printed
  ending : Ending

/-- The result of an error: its record, and exit code 1. -/
def Run.failure (before : List Printed) (message : String) : Run :=
  ⟨before ++ [.record .error message], .exit 1⟩

variable {m : Type → Type} [Monad m]

/-- Runs a `db` command on the database of a path. -/
def runDatabase (files : Files m) (path : String) (action : DatabaseAction) : m Run := do
  match ← openStore files path with
  | .error e => return .failure [] e.message
  | .ok store =>
    let (lines, result) := action.perform store
    let printed := lines.map Printed.line
    match result with
    | .done store => do
      keepStore files path store
      return ⟨printed ++ [.line "ok"], .exit 0⟩
    | .missing => return ⟨printed, .exit 3⟩
    | .failed e => return .failure printed e.message

def textAt (files : Files m) (path : String) : m (Option String) := do
  match ← files.look path with
  | some (.text content) => return some content
  | _ => return none

def textsAt (files : Files m) : List String → m (List (String × String))
  | [] => return []
  | path :: rest => do
    let text ← textAt files path
    let texts ← textsAt files rest
    return (text.map (path, ·)).toList ++ texts

/-- The settings of the environment and the file at a path. -/
def loadSettings (files : Files m) (env : Dotenv.Environment) (path : Option String) :
    m Settings.Loading := do
  let texts ← textsAt files (path.elim [] Settings.candidates)
  return Settings.load env path fun p => (texts.find? fun e => e.1 = p).map Prod.snd

/-- The warning for a file of environment variables that was not read to its end. -/
def loadingRecords (path : String) (loading : Settings.Loading) : List Printed :=
  match loading.warning with
  | some reason => [.record .warn ("failed to load .env from " ++ path ++ ": " ++ reason)]
  | none => []

/-- The steps up to a started server. -/
def prepare (files : Files m) (env : Dotenv.Environment) (path : Option String) : m Run := do
  let loading ← loadSettings files env path
  let before := loadingRecords (path.getD "") loading
  match loading.result with
  | .error e => return .failure before ("\n".intercalate ("failed to load config" :: e.more))
  | .ok settings =>
    match settings.verify with
    | .error e => return .failure before ("invalid config: " ++ e.message)
    | .ok () => do
      match ← openStore files settings.databasePath with
      | .error e =>
        return .failure before
          ("relationship db unavailable at " ++ settings.databasePath ++ ": " ++ e.message)
      | .ok store =>
        match Engine.start settings.presence with
        | .error (.invalid e) =>
          return .failure before
            ("failed to start presence engine: " ++ (PresenceError.invalidConfig e).message)
        | .error .panicked => return ⟨before, .exit 101⟩
        | .ok engine => return ⟨before, .serve ⟨settings, .ofEngine engine store⟩⟩

/-- The environment variable with the log filter. -/
def filterName : String := "SOCIALITE_LOG"

/-- The program up to its exit or a started server. -/
def run (files : Files m) (env : Dotenv.Environment) (args : List String) : m Run := do
  let r ← match Command.parse args with
    | .error .help => pure ⟨[], .exit 0⟩
    | .error .misuse => pure ⟨[], .exit 2⟩
    | .ok (.database path action) => runDatabase files path action
    | .ok (.run path) => prepare files env path
  return { r with printed := r.printed.filter (Printed.passes (Log.threshold (env.get? filterName))) }

/-! ### Serving -/

/-- The log records of a running server. -/
inductive Milestone
  | listening
  | bindFailed
  | shutdownRequested
  | stopped
deriving DecidableEq, Repr

def Milestone.record (settings : Settings) : Milestone → Printed
  | .listening => .record .info ("socialite listening on " ++ settings.listenAddress)
  | .bindFailed =>
    .record .error ("failed to bind " ++ settings.listenAddress ++
      ": Address already in use (os error 98)")
  | .shutdownRequested => .record .info "shutdown requested"
  | .stopped => .record .info "socialite stopped"

/-- The records of a server up to its shutdown, and its exit code. If the address is in use it exits
at once. -/
def life (taken : Bool) : List Milestone × Nat :=
  if taken then ([.bindFailed], 1) else ([.listening, .shutdownRequested, .stopped], 0)

/-- A request on one line: method, target and optionally the authorization header. -/
def answerLine (server : Server) (w : World) (line : String) : String × World :=
  let words := (line.splitOn " ").filter fun word => !word.isEmpty
  match words with
  | method :: target :: caller =>
    match Http.path? target with
    | none => ("400", w)
    | some path =>
      let authorization := if caller.isEmpty then none else some (" ".intercalate caller)
      match Http.outcome server.settings.serviceName w ⟨method, path, authorization, false⟩ with
      | (.respond r, w) => (r.text, w)
      | (_, w) => ("101", w)
  | _ => ("400", w)

end Presence.CommandLine
