import Stencil.Number.Decimal

/-!
# Floor division, remainders and rounding of doubles

## Main definitions

- `Real.remainder` — the exact remainder of a truncated division
- `Real.divideFloor`, `Real.modulo` — quotient and remainder with the sign of the divisor
- `Real.roundPlaces` — rounding to a number of decimal places
-/

namespace Stencil

namespace Real64

open Binary64

/-- A double with the magnitude of `x` and the sign of `y`. -/
def copySign (x y : Float) : Float :=
  if isNegative x == isNegative y then x else -x

/-- The remainder of `x / y` truncated, with the sign of `x`. It is always exact. -/
def remainder (x y : Float) : Float :=
  if isNaN x || isNaN y || isInfinite x || y == 0.0 then nan
  else if isInfinite y then x
  else
    let (a, b) := toRatio x
    let (c, d) := toRatio y
    -- x / y = (a * d) / (b * c)
    let r := (a * d).tmod ((b : Int) * c)
    if r = 0 then copySign 0.0 x
    else (ofRatio? (r < 0) r.natAbs (b * d)).getD nan

/-- The remainder with the sign of the divisor, which is not zero. -/
def modulo (x y : Float) : Float :=
  let r := remainder x y
  if r == 0.0 then copySign 0.0 y
  else if (y < 0.0) != (r < 0.0) then r + y
  else r

/-- The floor of the quotient; the divisor is not zero. -/
def divideFloor (x y : Float) : Float :=
  let r := remainder x y
  let q := (x - r) / y
  let q := if r != 0.0 && (y < 0.0) != (r < 0.0) then q - 1.0 else q
  if q == 0.0 || isNaN q then (if isNaN q then q else copySign 0.0 (x / y))
  else
    let f := q.floor
    if q - f > 0.5 then f + 1.0 else f

/-- A double rounded to a number of decimal places, a tie to the even digit of the exact value. None
if the result would be infinite. -/
def roundPlaces (x : Float) (places : Int) : Option Float :=
  if !isFinite x || x == 0.0 then some x
  else
    let negative := isNegative x
    let (n, d) := toRatio x
    if 330 < places then some x
    else if places < -310 then some (ofBits negative 0)
    else match places with
      | .ofNat p => ofRatio? negative (roundQuotient (n.natAbs * Nat.pow 10 p) d) (Nat.pow 10 p)
      | .negSucc p =>
        let unit := Nat.pow 10 (p + 1)
        ofRatio? negative (roundQuotient n.natAbs (d * unit) * unit) 1

/-- The integer nearest to a finite double, a tie to the even one. -/
def roundInt (x : Float) : Int :=
  let (n, d) := toRatio x
  let r : Int := roundQuotient n.natAbs d
  if n < 0 then -r else r

end Real64

end Stencil
