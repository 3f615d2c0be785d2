import Presence.Double

/-!
The shortest text of a double: the fewest decimal digits that read back as the double, and of
several such numbers the one nearest to it. The notation is positional at every size.
-/

namespace Presence.Double

/-- `10 ^ p` as a fraction. -/
def tenPow (p : Int) : Nat × Nat :=
  if p < 0 then (1, Nat.pow 10 p.natAbs) else (Nat.pow 10 p.natAbs, 1)

/-- The `p` with `10 ^ p ≤ num / den < 10 ^ (p + 1)`. -/
def decade (num den : Nat) : Int :=
  if den ≤ num then
    (Nat.toDigits 10 (num / den)).length - 1
  else
    match (List.range 400).find? fun j => den ≤ num * Nat.pow 10 j with
    | some j => -j
    | none => 0

/-- The whole numbers `d` for which `d * 10 ^ p` rounds to the double, nearest first. The double is
`4 * m / 4 * 2 ^ e`; what rounds to it lies between `low / 4 * 2 ^ e` and `(4 * m + 2) / 4 * 2 ^ e`,
the ends included when `m` is even. -/
def onGrid (m : Nat) (e p : Int) : List Nat :=
  let low := if m = Nat.pow 2 52 ∧ e ≠ -1074 then 4 * m - 1 else 4 * m - 2
  -- All in units of `10 ^ p`: a quarter of `2 ^ e` is `unit / den`.
  let (tn, td) := tenPow p
  let unit := if e < 0 then td else td * Nat.pow 2 e.natAbs
  let den := if e < 0 then tn * 4 * Nat.pow 2 e.natAbs else tn * 4
  let inside (d : Nat) : Bool :=
    if m % 2 = 0 then low * unit ≤ d * den && d * den ≤ (4 * m + 2) * unit
    else low * unit < d * den && d * den < (4 * m + 2) * unit
  let below := 4 * m * unit / den
  let rest := 4 * m * unit % den
  let candidates := if 2 * rest ≤ den then [below, below + 1] else [below + 1, below]
  candidates.filter inside

/-- Digits and decimal exponent of the shortest decimal that reads back as `m * 2 ^ e`. -/
def shortest (m : Nat) (e : Int) : Nat × Int :=
  let (num, den) := if e < 0 then (m, Nat.pow 2 e.natAbs) else (m * Nat.pow 2 e.natAbs, 1)
  let top := decade num den
  let tries := (List.range 17).findSome? fun (n : Nat) =>
    let p := top - (n : Int)
    (onGrid m e p).head?.map fun d => (d, p)
  tries.getD (0, 0)

/-- The text of a decimal number, without an exponent. -/
def positional (digits : Nat) (p : Int) : String :=
  let ds := Nat.toDigits 10 digits
  if 0 ≤ p then
    String.ofList (ds ++ List.replicate p.natAbs '0')
  else
    let places := p.natAbs
    let ds := List.replicate (places + 1 - ds.length) '0' ++ ds
    let whole := ds.take (ds.length - places)
    let part := (ds.drop (ds.length - places)).reverse.dropWhile (· = '0') |>.reverse
    String.ofList (if part.isEmpty then whole else whole ++ '.' :: part)

/-- The shortest text of a double. -/
def text : Double → String
  | .undefined => "NaN"
  | .infinite negative => if negative then "-inf" else "inf"
  | .finite negative m e =>
    let body := if m = 0 then "0" else
      let (d, p) := shortest m e
      positional d p
    if negative then "-" ++ body else body

end Presence.Double
