import Presence.Double

/-!
Significands scaled by powers of ten in double arithmetic: the significand, the power of ten and the
result are each rounded. For a significand of more than fifteen digits or a large power of ten, the
result need not be the double nearest to the decimal.
-/

namespace Presence.Double

/-- The size of a finite double as a fraction. -/
def size (mantissa : Nat) (exponent : Int) : Nat × Nat :=
  if exponent < 0 then (mantissa, Nat.pow 2 exponent.natAbs)
  else (mantissa * Nat.pow 2 exponent.natAbs, 1)

/-- The double nearest to `10 ^ k`. -/
def tenToThe (k : Nat) : Double := ofRatio false (Nat.pow 10 k) 1

/-- A double times the double nearest to `10 ^ k`. -/
def timesTenTo (x : Double) (k : Nat) : Double :=
  match x, tenToThe k with
  | .finite negative m e, .finite _ m' e' =>
    let (num, den) := size m e
    let (num', den') := size m' e'
    ofRatio negative (num * num') (den * den')
  | x, _ => x

/-- A double divided by the double nearest to `10 ^ k`. -/
def overTenTo (x : Double) (k : Nat) : Double :=
  match x, tenToThe k with
  | .finite negative m e, .finite _ m' e' =>
    let (num, den) := size m e
    let (num', den') := size m' e'
    ofRatio negative (num * den') (den * num')
  | x, _ => x

/-- The largest power of ten that is a finite double. -/
def maxTen : Nat := 308

/-- A significand of at most 64 bits times `10 ^ power`. A power too small for one division by `10 ^
maxTen` takes two, whose result is zero for every such significand. -/
def scale (negative : Bool) (significand : Nat) (power : Int) : Double :=
  let x := ofRatio negative significand 1
  let k := power.natAbs
  if significand = 0 then x
  else if 0 ≤ power then
    if k ≤ maxTen then x.timesTenTo k else .infinite negative
  else if k ≤ maxTen then x.overTenTo k
  else if k ≤ 2 * maxTen then (x.overTenTo maxTen).overTenTo (k - maxTen)
  else .finite negative 0 (-1074)

end Presence.Double
