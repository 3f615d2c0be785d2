/-!
Output of the program: plain lines, and log records with a level. A filter gives the least level at
which a record is printed; plain lines are always printed.
-/

namespace Presence.Log

/-- Levels of log records. -/
inductive Level
  | error
  | warn
  | info
deriving DecidableEq, Repr

/-- The rank of a level, smaller for a more severe one. -/
def Level.rank : Level → Nat
  | .error => 1
  | .warn => 2
  | .info => 3

/-- One piece of output. -/
inductive Printed
  | line (text : String)
  | record (level : Level) (text : String)
deriving DecidableEq, Repr

/-! ### The filter -/

/-- The target of all records. -/
def topic : String := "socialite_server"

/-- The largest rank that a level name admits. -/
def rank? (word : String) : Option Nat :=
  match String.ofList (word.toList.map Char.toLower) with
  | "off" | "0" => some 0
  | "error" | "1" => some 1
  | "warn" | "2" => some 2
  | "info" | "3" => some 3
  | "debug" | "4" => some 4
  | "trace" | "5" => some 5
  | _ => none

/-- One directive of a filter: a prefix of targets, and a rank. -/
def directive? (part : String) : Option (String × Nat) :=
  match rank? part, part.splitOn "=" with
  | some n, _ => some ("", n)
  | none, [start] => some (start, 5)
  | none, [start, word] => (rank? word).map (start, ·)
  | none, _ => none

/-- The directive with the longer prefix of our target; of two equally long ones, the later. -/
def closer (a b : String × Nat) : String × Nat := if a.1.length ≤ b.1.length then b else a

/-- The largest rank that is printed: `info` without a filter, `error` for a filter without a
directive for our target, otherwise the rank of the most specific directive. -/
def threshold : Option String → Nat
  | none => 3
  | some filter =>
    let parts := ((filter.splitOn ",").filter fun p => !p.isEmpty).filterMap directive?
    if parts.isEmpty then 1
    else
      match parts.filter fun d => topic.startsWith d.1 with
      | [] => 0
      | d :: rest => (rest.foldl closer d).2

/-- Whether a piece of output passes the threshold. -/
def Printed.passes (threshold : Nat) : Printed → Bool
  | .line _ => true
  | .record level _ => level.rank ≤ threshold

end Presence.Log
