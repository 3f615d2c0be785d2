import Presence.Duration
import Presence.Text.Blank

/-!
Duration texts: one or more numbers, each with its unit, such as `2m 30s` or `1.5h`. Blanks are
allowed anywhere but inside a unit, a zero needs no unit, and a month is a twelfth of a year of
365.25 days.
-/

namespace Presence.Duration

/-- A unit: whole seconds, or a part of a second in nanoseconds. -/
inductive TimeUnit
  | seconds (each : Nat)
  | nanos (each : Nat)
deriving DecidableEq, Repr

/-- The units by name. -/
def TimeUnit.ofName? (name : String) : Option TimeUnit :=
  if ["nanos", "nsec", "ns"].contains name then some (.nanos 1)
  else if ["usec", "us", "µs"].contains name then some (.nanos 1000)
  else if ["millis", "msec", "ms"].contains name then some (.nanos 1000000)
  else if ["seconds", "second", "secs", "sec", "s"].contains name then some (.seconds 1)
  else if ["minutes", "minute", "min", "mins", "m"].contains name then some (.seconds 60)
  else if ["hours", "hour", "hr", "hrs", "h"].contains name then some (.seconds 3600)
  else if ["days", "day", "d"].contains name then some (.seconds 86400)
  else if ["weeks", "week", "wk", "wks", "w"].contains name then some (.seconds 604800)
  else if ["months", "month", "M"].contains name then some (.seconds 2630016)
  else if ["years", "year", "yr", "yrs", "y"].contains name then some (.seconds 31557600)
  else none

/-- A decimal number: `whole + numerator / denominator`. -/
structure Amount where
  whole : Nat
  numerator : Nat
  denominator : Nat
deriving DecidableEq, Repr

/-- Every number that is read or computed must fit into 64 bits. -/
def fits (n : Nat) : Option Nat := if n < Nat.pow 2 64 then some n else none

/-- The fractional part of an amount in a unit, in nanoseconds. Of units of an hour and more only
whole seconds count; a nanosecond has no parts. -/
def fraction? (a : Amount) : TimeUnit → Option Nat
  | .nanos each =>
    if a.numerator = 0 then some 0
    else if each = 1 then none
    else (fits (a.numerator * each)).map (· / a.denominator)
  | .seconds each =>
    if a.numerator = 0 then some 0
    else if each ≤ 60 then
      (fits (a.numerator * (each * 1000000000))).map (· / a.denominator)
    else (fits (a.numerator * each)).map (· / a.denominator * 1000000000)

/-- An amount of a unit, in nanoseconds. -/
def amount? (a : Amount) (u : TimeUnit) : Option Nat := do
  let part ← fraction? a u
  match u with
  | .nanos each => return (← fits (a.whole * each)) + part
  | .seconds each => return (← fits (a.whole * each)) * 1000000000 + part

def isAsciiDigit (c : Char) : Bool := '0' ≤ c && c ≤ '9'

def digitOf (c : Char) : Nat := c.toNat - '0'.toNat

/-- A letter of a unit's name. -/
def isUnitLetter (c : Char) : Bool :=
  ('a' ≤ c && c ≤ 'z') || ('A' ≤ c && c ≤ 'Z') || c = 'µ'

/-- The state of the reader. -/
inductive Reading
  /-- Between a unit and the next number; blanks, or the end, may follow. -/
  | between
  | whole (n : Nat)
  | places (n numerator denominator : Nat)
  | name (a : Amount) (letters : List Char)

/-- The sum so far and the state of the reader. -/
structure Progress where
  total : Nat
  reading : Reading
  /-- Whether a number has been read. -/
  begun : Bool

/-- Step at the end of a unit. -/
def Progress.close (p : Progress) (a : Amount) (letters : List Char) : Option Nat := do
  let u ← TimeUnit.ofName? (String.ofList letters)
  let n ← amount? a u
  let total := p.total + n
  if total < Nat.pow 2 64 * 1000000000 then some total else none

/-- Step on one character. -/
def Progress.step (p : Progress) (c : Char) : Option Progress :=
  match p.reading with
  | .between =>
    if isAsciiDigit c then some { p with reading := .whole (digitOf c), begun := true }
    else if Text.isBlank c then some p
    else none
  | .whole n =>
    if isAsciiDigit c then
      (fits (n * 10 + digitOf c)).map fun n => { p with reading := .whole n }
    else if Text.isBlank c then some p
    else if isUnitLetter c then some { p with reading := .name ⟨n, 0, 1⟩ [c] }
    else if c = '.' then some { p with reading := .places n 0 1 }
    else none
  | .places n numerator denominator =>
    if isAsciiDigit c then do
      let numerator ← fits (numerator * 10 + digitOf c)
      let denominator ← fits (denominator * 10)
      some { p with reading := .places n numerator denominator }
    else if Text.isBlank c then some p
    else if isUnitLetter c then some { p with reading := .name ⟨n, numerator, denominator⟩ [c] }
    else none
  | .name a letters =>
    if isAsciiDigit c then
      (p.close a letters).map fun total => { p with total, reading := .whole (digitOf c) }
    else if Text.isBlank c then
      (p.close a letters).map fun total => { p with total, reading := .between }
    else if isUnitLetter c then some { p with reading := .name a (letters ++ [c]) }
    else none

/-- Step at the end of the text. -/
def Progress.finish (p : Progress) : Option Duration :=
  match p.reading with
  | .between => if p.begun then some ⟨p.total⟩ else none
  | .name a letters => (p.close a letters).map Duration.mk
  | _ => none

/-- The duration that a text denotes. -/
def parse? (text : String) : Option Duration :=
  if text = "0" then some ⟨0⟩
  else (text.toList.foldlM Progress.step ⟨0, .between, false⟩).bind Progress.finish

end Presence.Duration
