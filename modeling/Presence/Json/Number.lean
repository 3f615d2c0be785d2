import Presence.Double.Scaled

/-!
JSON numbers. A number is kept exactly and as the double that it is read as: the leading digits that
fit into 64 bits, scaled by a power of ten. Where digits are dropped or an operation rounds, that
double may be a neighbour of the nearest one, and near the largest double it decides whether the
number is accepted.
-/

namespace Presence.Json

def isDigit (c : Char) : Bool := '0' ≤ c && c ≤ '9'

/-- Appends a digit to a number. -/
def shift (n : Nat) (d : Char) : Nat := n * 10 + (d.toNat - '0'.toNat)

/-- The number denoted by a list of digits. -/
def digitsValue (ds : List Char) : Nat := ds.foldl shift 0

/-- Takes digits into a significand as long as it fits into 64 bits; returns it with the number of
digits dropped. -/
def keepDigits (n : Nat) : List Char → Nat × Nat
  | [] => (n, 0)
  | d :: ds => if shift n d < Nat.pow 2 64 then keepDigits (shift n d) ds else (n, ds.length + 1)

/-- The double that a number is read as. Every dropped digit of the whole part counts as a factor
ten; the digits after the point are tried again. -/
def readDouble (negative : Bool) (whole places : List Char) (exponent : Int) : Double :=
  let (n, missing) := keepDigits 0 whole
  let (n, ignored) := keepDigits n places
  Double.scale negative n ((missing : Int) - ((places.length - ignored : Nat) : Int) + exponent)

/-- A number: exactly, whether it is written without point and exponent, and the double that it is
read as. -/
structure Number where
  decimal : Decimal
  whole : Bool
  double : Double
deriving DecidableEq, Repr

/-- The number with the given digits before and after the point and the given power of ten. -/
def Number.ofParts (negative : Bool) (whole : List Char) (fraction : Option (List Char))
    (exponent : Option Int) : Number :=
  let places := fraction.getD []
  { decimal :=
      ⟨negative, digitsValue (whole ++ places), exponent.getD 0 - (places.length : Int)⟩
    whole := fraction.isNone && exponent.isNone
    double := readDouble negative whole places (exponent.getD 0) }

/-- Whether the double that the number is read as is finite. -/
def Number.isFinite (n : Number) : Bool := n.double.isFinite

end Presence.Json
