import Presence.CommandLine

/-!
Scripts of program runs, one after the other in one working directory. Output is reported line by
line, records separately; a record of several lines continues among the plain lines. A server that
starts is shut down as soon as it listens.
-/

namespace Presence.Script.Invocations

open CommandLine (Milestone)
open Log (Level Printed)

/-- The requests to a server before its shutdown. -/
structure Serving where
  paths : List String
  /-- Its address is in use. -/
  taken : Bool

structure Step where
  args : List String
  env : Dotenv.Environment
  serving : Option Serving

inductive Reply
  | finished (code : Nat) (lines : List String) (records : List (Level × String))
  /-- No path is answered before the server stops. -/
  | served (code : Nat) (unanswered : List String) (seen : List Milestone)

/-- The lines of the output that belong to no record. -/
def plainLines : Printed → List String
  | .line text => text.splitOn "\n"
  | .record _ text => (text.splitOn "\n").tail

/-- The first lines of the records that are reported. -/
def record? : Printed → Option (Level × String)
  | .line _ => none
  | .record .info _ => none
  | .record level text => some (level, (text.splitOn "\n").head?.getD "")

def finished (code : Nat) (printed : List Printed) : Reply :=
  .finished code (printed.flatMap plainLines) (printed.filterMap record?)

/-- The environment of a server with an address of its own. -/
def withAddress (env : Dotenv.Environment) : Dotenv.Environment :=
  let isOwn (name : String) : Bool := name = "SOCIALITE_BIND" || name = "SOCIALITE_PORT"
  env.filter (fun e => !isOwn e.1) ++ [("SOCIALITE_BIND", "127.0.0.1"), ("SOCIALITE_PORT", "8080")]

/-- One run. -/
def step (d : Disk) (a : Step) : Reply × Disk :=
  let env := if a.serving.isSome then withAddress a.env else a.env
  let (r, d) := (CommandLine.run (Disk.files .standard) env a.args).run d
  let reply := match a.serving, r.ending with
    | none, .exit code => finished code r.printed
    | none, .serve _ => finished 0 r.printed
    | some s, .exit code => .served code s.paths []
    | some s, .serve server =>
      let (moments, code) := CommandLine.life s.taken
      let passes (x : Milestone) : Bool :=
        (x.record server.settings).passes (Log.threshold (env.get? CommandLine.filterName))
      .served code s.paths (moments.filter passes)
  (reply, d)

end Presence.Script.Invocations
