import Stencil.Number.Real

/-!
# Complex numbers

Numbers with an imaginary part, as powers of negative numbers have them.

## Main definitions

- `Complex64` — a real and an imaginary part
- `Complex64.divide?`, `Complex64.power` — quotients and powers
- `Complex64.magnitude` — the distance from zero, correctly rounded
-/

namespace Stencil

/-- A complex number. -/
structure Complex64 where
  re : Float
  im : Float
  deriving Inhabited

namespace Complex64

open Binary64

def ofReal (x : Float) : Complex64 :=
  ⟨x, 0.0⟩

def isZero (z : Complex64) : Bool :=
  z.re == 0.0 && z.im == 0.0

def add (z w : Complex64) : Complex64 :=
  ⟨z.re + w.re, z.im + w.im⟩

def sub (z w : Complex64) : Complex64 :=
  ⟨z.re - w.re, z.im - w.im⟩

def mul (z w : Complex64) : Complex64 :=
  ⟨z.re * w.re - z.im * w.im, z.re * w.im + z.im * w.re⟩

/-- The quotient, scaled by the larger part of the divisor; none if the divisor is zero. -/
def divide? (z w : Complex64) : Option Complex64 :=
  if w.re.abs ≥ w.im.abs then
    if w.re.abs == 0.0 then none
    else
      let ratio := w.im / w.re
      let scale := w.re + w.im * ratio
      some ⟨(z.re + z.im * ratio) / scale, (z.im - z.re * ratio) / scale⟩
  else if w.im.abs ≥ w.re.abs then
    let ratio := w.re / w.im
    let scale := w.re * ratio + w.im
    some ⟨(z.re * ratio + z.im) / scale, (z.im * ratio - z.re) / scale⟩
  else some ⟨nan, nan⟩

/-- The square root of a quotient of naturals, correctly rounded. -/
def rootOfRatio (n d : Nat) : Float :=
  if n = 0 then 0.0
  else
    -- sqrt (n / d) = sqrt (n * d) / d, with enough binary places behind the point
    let places := 2 * (128 + d.log2)
    let root := Nat.sqrt (n * d * Nat.pow 2 places)
    let exact := root * root = n * d * Nat.pow 2 places
    -- a digit behind the last one tells a root that is cut off from an exact one
    let numerator := if exact then 2 * root else 2 * root + 1
    (ofRatio? false numerator (d * Nat.pow 2 (places / 2 + 1))).getD (infinity false)

/-- The distance from zero. -/
def magnitude (z : Complex64) : Float :=
  if isInfinite z.re || isInfinite z.im then infinity false
  else if isNaN z.re || isNaN z.im then nan
  else
    let (a, b) := toRatio z.re
    let (c, d) := toRatio z.im
    -- (a / b)² + (c / d)²
    let n := Nat.pow (a.natAbs * d) 2 + Nat.pow (c.natAbs * b) 2
    rootOfRatio n (Nat.pow (b * d) 2)

/-- A power with a natural exponent, by repeated squaring. -/
def powerNat (z : Complex64) (n : Nat) : Complex64 :=
  go 8 n ⟨1.0, 0.0⟩ z
where
  go : Nat → Nat → Complex64 → Complex64 → Complex64
  | 0, _, r, _ => r
  | fuel + 1, n, r, p =>
    if n = 0 then r else go fuel (n / 2) (if n % 2 = 1 then r.mul p else r) (p.mul p)

/-- Why a power cannot be taken. -/
inductive PowerFault where
  | ofZero
  | overflow
  deriving DecidableEq

/-- A power by the polar form. -/
def polarPower (z w : Complex64) : Complex64 :=
  let r := z.magnitude
  let angle := Float.atan2 z.im z.re
  let length := Float.pow r w.re
  let phase := angle * w.re
  let (length, phase) := if w.im == 0.0 then (length, phase)
    else (length * Float.exp (-angle * w.im), phase + w.im * Float.log r)
  ⟨length * Float.cos phase, length * Float.sin phase⟩

/-- A power. Small whole exponents are multiplied out. -/
def power (z w : Complex64) : Except PowerFault Complex64 :=
  let small := w.im == 0.0 && w.re == w.re.floor && w.re.abs ≤ 100.0
  let result : Except PowerFault Complex64 :=
    if small then
      let n := w.re.abs.toUInt64.toNat
      if w.re > 0.0 then .ok (z.powerNat n)
      else match divide? ⟨1.0, 0.0⟩ (z.powerNat n) with
        | some q => .ok q
        | none => .error .ofZero
    else if w.isZero then .ok ⟨1.0, 0.0⟩
    else if z.isZero then
      if w.im != 0.0 || w.re < 0.0 then .error .ofZero else .ok ⟨0.0, 0.0⟩
    else .ok (polarPower z w)
  match result with
  | .ok r => if isInfinite r.re || isInfinite r.im then .error .overflow else .ok r
  | .error f => .error f

end Complex64

end Stencil
