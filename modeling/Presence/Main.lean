import Presence.CommandLine
import Presence.Store.Archive

/-!
The program. Databases are kept as texts. A server reads one request per input line and shuts down
at the end of the input.
-/

namespace Presence.Main

open CommandLine (Milestone Server)
open Log (Printed)

/-- The entry for a file with the given text. -/
def entryOf (text : String) : Entry :=
  match Store.ofText? text with
  | some store => .database store
  | none => .text text

/-- The entry at a path. -/
def look (path : String) : IO (Option Entry) := do
  if path.isEmpty then return some .directory
  try
    let bytes ← IO.FS.readBinFile path
    return some (entryOf ((String.fromUTF8? bytes).getD "\x00"))
  catch e =>
    match e with
    | .noFileOrDirectory .. => return none
    | _ => return some .directory

def makeDirectories (path : String) : IO (Except DirectoryError Unit) := do
  if path.isEmpty then return .ok ()
  try
    IO.FS.createDirAll path
    return .ok ()
  catch e =>
    match e with
    | .alreadyExists .. => return .error .occupied
    | .inappropriateType .. => return .error .notADirectory
    | e => return .error (.other (toString e))

def files : Files IO where
  look := look
  makeDirectories := makeDirectories
  keep path store := IO.FS.writeFile path store.toText
  locator := .standard

def printed : Printed → String
  | .line text => text
  | .record .error text => "ERROR " ++ text
  | .record .warn text => "WARN " ++ text
  | .record .info text => "INFO " ++ text

def printOne (p : Printed) : IO Unit := IO.println (printed p)

/-- The environment variables that the program reads. -/
def environment : IO Dotenv.Environment :=
  (CommandLine.filterName :: Settings.environmentNames).filterMapM fun name => do
    return (← IO.getEnv name).map (name, ·)

/-- Answers the requests of the input, advancing the engine's clock between them. -/
partial def converse (server : Server) (w : World) (since : Nat) : IO World := do
  let line ← (← IO.getStdin).getLine
  if line.isEmpty then return w
  let now ← IO.monoMsNow
  let w := (w.advance (.ofMillis (now - since)))
  let (answer, w) := CommandLine.answerLine server w line.trimAscii.toString
  IO.println answer
  converse server w now

/-- Serves until the end of the input. -/
def serve (server : Server) (env : Dotenv.Environment) : IO Unit := do
  let tell (x : Milestone) : IO Unit :=
    let p := x.record server.settings
    if p.passes (Log.threshold (env.get? CommandLine.filterName)) then printOne p else pure ()
  tell .listening
  let w ← converse server server.world.settle (← IO.monoMsNow)
  tell .shutdownRequested
  let _ := w.ask .shutdown
  tell .stopped

end Presence.Main

def main (args : List String) : IO UInt32 := do
  let env ← Presence.Main.environment
  let r ← Presence.CommandLine.run Presence.Main.files env args
  r.printed.forM Presence.Main.printOne
  match r.ending with
  | .exit code => return code.toUInt32
  | .serve server => do
    Presence.Main.serve server env
    return 0
