/-!
Decimal numbers and the doubles nearest to them. All arithmetic is exact: a decimal is `digits * 10
^ exponent`, a double `mantissa * 2 ^ exponent`.
-/

namespace Presence

/-- The decimal number `digits * 10 ^ exponent`, negated if `negative`. -/
structure Decimal where
  negative : Bool
  digits : Nat
  exponent : Int
deriving DecidableEq, Repr, Inhabited

/-- A double: 53 bits of mantissa, exponents from -1074 to 971. -/
inductive Double
  | finite (negative : Bool) (mantissa : Nat) (exponent : Int)
  | infinite (negative : Bool)
  | undefined
deriving DecidableEq, Repr

namespace Double

/-- The quotient rounded to the nearest whole number, ties to even. -/
def divRound (num den : Nat) : Nat :=
  let q := num / den
  let twice := 2 * (num % den)
  if twice < den then q
  else if den < twice then q + 1
  else if q % 2 = 0 then q else q + 1

/-- The whole number nearest to `num / den / 2 ^ e`, ties to even. -/
def scaled (num den : Nat) (e : Int) : Nat :=
  if e < 0 then divRound (num * Nat.pow 2 e.natAbs) den else divRound num (den * Nat.pow 2 e.natAbs)

/-- The double nearest to `num / den`, ties to even. -/
def ofRatio (negative : Bool) (num den : Nat) : Double :=
  if num = 0 then
    .finite negative 0 (-1074)
  else
    -- The quotient lies between `2 ^ (guess - 1)` and `2 ^ (guess + 1)`.
    let guess : Int := (Nat.log2 num : Int) - (Nat.log2 den : Int)
    let e := if scaled num den (guess - 53) < Nat.pow 2 53 then guess - 53 else guess - 52
    let e := max e (-1074)
    let m := scaled num den e
    let (m, e) := if m = Nat.pow 2 53 then (Nat.pow 2 52, e + 1) else (m, e)
    if 971 < e then .infinite negative else .finite negative m e

/-- The double nearest to a decimal. Numbers far outside the range of doubles are decided by their
size, before any power is computed. -/
def ofDecimal (d : Decimal) : Double :=
  let bits : Int := Nat.log2 d.digits
  if d.digits = 0 then .finite d.negative 0 (-1074)
  else if 400 < d.exponent + bits * 3 / 10 then .infinite d.negative
  else if d.exponent + bits * 31 / 100 < -400 then .finite d.negative 0 (-1074)
  else if d.exponent < 0 then ofRatio d.negative d.digits (Nat.pow 10 d.exponent.natAbs)
  else ofRatio d.negative (d.digits * Nat.pow 10 d.exponent.natAbs) 1

/-- Neither infinite nor NaN. -/
def isFinite : Double → Bool
  | .finite .. => true
  | _ => false

/-- The saturating conversion to 64 bits after rounding to the nearest whole number, halves away
from zero; NaN is zero. -/
def roundToWord : Double → Nat
  | .finite false m e =>
    let unit := Nat.pow 2 e.natAbs
    let n := if e < 0 then (2 * m + unit) / (2 * unit) else m * unit
    min n (Nat.pow 2 64 - 1)
  | .infinite false => Nat.pow 2 64 - 1
  | _ => 0

end Double

end Presence
