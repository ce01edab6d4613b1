/-!
# Binary floating point numbers, exactly

A finite double is `± m · 2^e` with natural `m`. This module takes doubles apart into that form,
rounds exact quotients to the nearest double, and relates doubles to integers without error.

## Main definitions

- `Binary64.Parts` and `Binary64.parts` — sign, significand and exponent of a finite double
- `Binary64.ofRatio?` — the double nearest to a quotient of naturals, ties to even
- `Binary64.ofInt?`, `Binary64.divide?` — integers and their quotients, correctly rounded
- `Binary64.truncate?`, `Binary64.floor?`, `Binary64.ceiling?` — integers from doubles
- `Binary64.compareInt?` — the exact order of a double and an integer
-/

namespace Stencil

namespace Binary64

/-- The value `± significand · 2 ^ exponent`. -/
structure Parts where
  negative : Bool
  significand : Nat
  exponent : Int

def isNaN (x : Float) : Bool := !(x == x)

def isInfinite (x : Float) : Bool :=
  x.toBits.toNat % Nat.pow 2 63 = 2047 * Nat.pow 2 52

def isFinite (x : Float) : Bool :=
  x.toBits.toNat / Nat.pow 2 52 % 2048 ≠ 2047

def isNegative (x : Float) : Bool :=
  Nat.pow 2 63 ≤ x.toBits.toNat

/-- The parts of a finite double. -/
def parts (x : Float) : Parts :=
  let bits := x.toBits.toNat
  let fraction : Nat := bits % Nat.pow 2 52
  let biased : Nat := bits / Nat.pow 2 52 % 2048
  { negative := isNegative x
    significand := if biased = 0 then fraction else fraction + Nat.pow 2 52
    exponent := if biased = 0 then -1074 else (biased : Int) - 1075 }

def ofBits (negative : Bool) (bits : Nat) : Float :=
  Float.ofBits (UInt64.ofNat (bits + if negative then Nat.pow 2 63 else 0))

def infinity (negative : Bool) : Float :=
  ofBits negative (2047 * Nat.pow 2 52)

def nan : Float :=
  ofBits false (2047 * Nat.pow 2 52 + Nat.pow 2 51)

/-- `n / d` rounded to the nearest integer, a tie to the even neighbour. -/
def roundQuotient (n d : Nat) : Nat :=
  let q := n / d
  let r := n % d
  if d < 2 * r ∨ (2 * r = d ∧ q % 2 = 1) then q + 1 else q

/-- Multiply a quotient by a power of two, keeping numerator and denominator whole. -/
def scale (n d : Nat) (e : Int) : Nat × Nat :=
  match e with
  | .ofNat k => (n * Nat.pow 2 k, d)
  | .negSucc k => (n, d * Nat.pow 2 (k + 1))

/-- The double nearest to `± n / d`; none if it would be infinite. -/
def ofRatio? (negative : Bool) (n d : Nat) : Option Float :=
  if n = 0 then some (ofBits negative 0) else
  let guess : Int := (n.log2 : Int) - d.log2 - 52
  let below (e : Int) : Bool :=
    let (a, b) := scale n d (-e)
    a < b * Nat.pow 2 52
  let e := max (if below guess then guess - 1 else guess) (-1074)
  let (a, b) := scale n d (-e)
  let q := roundQuotient a b
  let (q, e) := if q = Nat.pow 2 53 then (Nat.pow 2 52, e + 1) else (q, e)
  if q < Nat.pow 2 52 then some (ofBits negative q)
  else if 971 < e then none
  else some (ofBits negative ((e + 1075).toNat * Nat.pow 2 52 + (q - Nat.pow 2 52)))

def ofInt? (i : Int) : Option Float :=
  ofRatio? (i < 0) i.natAbs 1

/-- The quotient of two integers, correctly rounded; the divisor is not zero. -/
def divide? (a b : Int) : Option Float :=
  ofRatio? ((a < 0) != (b < 0)) a.natAbs b.natAbs

/-- A finite double as a quotient of an integer and a natural. -/
def toRatio (x : Float) : Int × Nat :=
  let p := parts x
  let (n, d) := scale p.significand 1 p.exponent
  (if p.negative then -(n : Int) else n, d)

/-- The integer part of a finite double. -/
def truncate? (x : Float) : Option Int :=
  if isFinite x then
    let (n, d) := toRatio x
    some (n.tdiv (d : Int))
  else none

def floor? (x : Float) : Option Int :=
  if isFinite x then
    let (n, d) := toRatio x
    some (n.fdiv (d : Int))
  else none

def ceiling? (x : Float) : Option Int :=
  if isFinite x then
    let (n, d) := toRatio x
    some (-((-n).fdiv (d : Int)))
  else none

/-- Whether the double is a whole number. -/
def isWhole (x : Float) : Bool :=
  isFinite x && (let (n, d) := toRatio x; n % (d : Int) = 0)

/-- The exact order of a double and an integer; none for a NaN. -/
def compareInt? (x : Float) (i : Int) : Option Ordering :=
  if isNaN x then none
  else if isInfinite x then some (if isNegative x then .lt else .gt)
  else
    let (n, d) := toRatio x
    some (compare n (i * (d : Int)))

end Binary64

end Stencil
