import Presence.Double.Shortest
import Presence.Duration.Text
import Presence.Json.Reader
import Presence.Text.Lowercase

/-!
The value of a setting in a file or in the environment, and its conversion to the type of each
field: numbers to texts, truth values to one and zero, texts to the numbers that they denote.
-/

namespace Presence

/-- The value of a setting before conversion. -/
inductive Setting
  | absent
  | flag (b : Bool)
  | whole (n : Int)
  | real (x : Double)
  | text (s : String)
  | list
  | table
deriving DecidableEq, Repr

namespace Setting

/-- The digits of a whole number, with an optional sign. -/
def signedDigits? (s : String) : Option (Bool × List Char) :=
  let (negative, ds) := match s.toList with
    | '-' :: ds => (true, ds)
    | '+' :: ds => (false, ds)
    | ds => (false, ds)
  if !ds.isEmpty && ds.all Json.isDigit then some (negative, ds) else none

/-- The number denoted by a text, within signed 64 bits. -/
def parseWhole? (s : String) : Option Int := do
  let (negative, ds) ← signedDigits? s
  let n : Int := Json.digitsValue ds
  let n := if negative then -n else n
  if -0x8000000000000000 ≤ n ∧ n < 0x8000000000000000 then some n else none

/-- The number denoted by a text, within unsigned 64 bits. -/
def parseWord? (s : String) : Option Nat :=
  match s.toList with
  | '-' :: _ => none
  | _ => do
    let (_, ds) ← signedDigits? s
    let n := Json.digitsValue ds
    if n < Nat.pow 2 64 then some n else none

/-- The lowercase of a text. -/
def lowered (s : String) : String := String.ofList (Text.lower s.toList)

/-- The double denoted by a text: a decimal with a digit on at least one side of its point, or a
word for infinity or NaN. -/
def parseReal? (s : String) : Option Double :=
  let (negative, cs) := match s.toList with
    | '-' :: cs => (true, cs)
    | '+' :: cs => (false, cs)
    | cs => (false, cs)
  let word := String.ofList (cs.map Char.toLower)
  if word = "inf" || word = "infinity" then some (.infinite negative)
  else if word = "nan" then some .undefined
  else
    let whole := cs.takeWhile Json.isDigit
    let rest := cs.dropWhile Json.isDigit
    let (places, rest) := match rest with
      | '.' :: rest => (rest.takeWhile Json.isDigit, rest.dropWhile Json.isDigit)
      | rest => ([], rest)
    if whole.isEmpty && places.isEmpty then none
    else
      let power : Option Int := match rest with
        | [] => some 0
        | e :: rest =>
          if e = 'e' || e = 'E' then
            (signedDigits? (String.ofList rest)).map fun (negative, ds) =>
              if negative then -(Json.digitsValue ds : Int) else Json.digitsValue ds
          else none
      power.map fun p =>
        Double.ofDecimal ⟨negative, Json.digitsValue (whole ++ places), p - (places.length : Int)⟩

/-- The setting of an environment variable: a truth value, a whole number or a decimal if the text
denotes one, otherwise the text. -/
def ofEnvironment (s : String) : Setting :=
  let word := lowered s
  if word = "true" then .flag true
  else if word = "false" then .flag false
  else
    match parseWhole? s with
    | some n => .whole n
    | none =>
      match parseReal? s with
      | some x => .real x
      | none => .text s

/-- The setting of a JSON number: exact if it is whole and fits into signed 64 bits, otherwise a
double. -/
def ofNumber (n : Json.Number) : Setting :=
  let d := n.decimal
  let value : Int := if d.negative then -(d.digits : Int) else d.digits
  if n.whole && -0x8000000000000000 ≤ value && value < 0x8000000000000000 &&
      !(d.negative && d.digits = 0) then
    .whole value
  else .real n.double

/-! ### Conversions -/

def asText? : Setting → Option String
  | .text s => some s
  | .flag b => some (if b then "true" else "false")
  | .whole n => some (toString n)
  | .real x => some x.text
  | _ => none

/-- Conversion to an unsigned number of 64 bits. -/
def asWord? : Setting → Option Nat
  | .whole n => if 0 ≤ n then some n.toNat else none
  | .real x => some x.roundToWord
  | .flag b => some (if b then 1 else 0)
  | .text s =>
    let word := lowered s
    if ["true", "on", "yes"].contains word then some 1
    else if ["false", "off", "no"].contains word then some 0
    else parseWord? s
  | _ => none

/-- Conversion to a port. -/
def asPort? (s : Setting) : Option Nat :=
  s.asWord?.bind fun n => if n < Nat.pow 2 16 then some n else none

/-- Conversion to a duration. -/
def asDuration? (s : Setting) : Option Duration :=
  s.asText?.bind Duration.parse?

end Setting

end Presence
