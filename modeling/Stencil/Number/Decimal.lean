import Stencil.Number.Binary64
import Stencil.Text.Basic

/-!
# Decimal forms of numbers

The shortest decimal that reads back as a given double, and decimals with a fixed number of digits.
All arithmetic is exact, on naturals.

## Main definitions

- `Decimal.shortest` — fewest digits that read back, the nearest such decimal of that length
- `Decimal.significant`, `Decimal.fixed` — a given number of digits or of places, ties to even
- `Decimal.showFloat` — the form of a number in output
- `Decimal.layoutFixed`, `Decimal.layoutExponent`, `Decimal.layoutGeneral` — the layouts that a
  format specification can ask for
-/

namespace Stencil

namespace Decimal

open Binary64

/-- The exponent `k` with `10 ^ (k - 1) ≤ n / d < 10 ^ k`, for a positive quotient. -/
def magnitude (n d : Nat) : Int :=
  let guess : Int := (((n.log2 : Int) - d.log2) * 30103).fdiv 100000
  let reaches (k : Int) : Bool := match k with
    | .ofNat k => d * Nat.pow 10 k ≤ n
    | .negSucc k => d ≤ n * Nat.pow 10 (k + 1)
  if reaches (guess + 1) then guess + 2
  else if reaches guess then guess + 1
  else if reaches (guess - 1) then guess
  else guess - 1

/-- `n / d` in units of `10 ^ k`, as a quotient of naturals. -/
def inUnits (n d : Nat) (k : Int) : Nat × Nat :=
  match k with
  | .ofNat k => (n, d * Nat.pow 10 k)
  | .negSucc k => (n * Nat.pow 10 (k + 1), d)

/-- Digits of a positive decimal `0.d₁d₂… · 10 ^ point`. -/
structure Digits where
  digits : List Nat
  point : Int

def digitsOf (n : Nat) : List Nat :=
  (Nat.toDigits 10 n).map fun c => c.toNat - 48

/-- Drop the zeros at the end, keeping at least one digit. -/
def withoutTrailingZeros (ds : List Nat) : List Nat :=
  match (ds.reverse.dropWhile (· == 0)).reverse with
  | [] => [0]
  | kept => kept

/-- The decimal with the fewest digits that rounds to the double `significand · 2 ^ exponent`; of two
with that many digits, the nearer. -/
def shortest (significand : Nat) (exponent : Int) : Digits :=
  let m := significand
  let even := m % 2 == 0
  -- all values in units of a quarter of the last binary place
  let (n, d) := scale (4 * m) 4 exponent
  let (high, _) := scale (4 * m + 2) 4 exponent
  let closeBelow := m = Nat.pow 2 52 ∧ -1074 < exponent
  let (low, _) := scale (if closeBelow then 4 * m - 1 else 4 * m - 2) 4 exponent
  let top := magnitude n d
  let accepted (count : Nat) (candidate : Nat) : Bool :=
    let (value, unit) := inUnits 1 d (top - count)
    -- candidate / value-in-units against the two ends
    let c := candidate * unit
    let l := low * value
    let h := high * value
    if even then l ≤ c && c ≤ h else l < c && c < h
  let rec search : Nat → Nat → Digits
    | 0, count => ⟨digitsOf (let (a, b) := inUnits n d (top - count); roundQuotient a b), top⟩
    | fuel + 1, count =>
      let (a, b) := inUnits n d (top - count)
      let below := a / b
      let above := below + 1
      let r := a % b
      let found (c : Nat) : Digits :=
        ⟨withoutTrailingZeros (digitsOf c), if c = Nat.pow 10 count then top + 1 else top⟩
      match accepted count below, accepted count above with
      | true, true =>
        if 2 * r < b ∨ (2 * r = b ∧ below % 2 = 0) then found below else found above
      | true, false => found below
      | false, true => found above
      | false, false => search fuel (count + 1)
  search 17 1

/-- A number of significant digits of a positive quotient, correctly rounded. -/
def significant (count : Nat) (n d : Nat) : Digits :=
  let top := magnitude n d
  let (a, b) := inUnits n d (top - count)
  let q := roundQuotient a b
  if q = Nat.pow 10 count then ⟨digitsOf (Nat.pow 10 (count - 1)), top + 1⟩ else ⟨digitsOf q, top⟩

/-- A quotient in units of `10 ^ -places`, correctly rounded. -/
def fixed (places : Nat) (n d : Nat) : Nat :=
  roundQuotient (n * Nat.pow 10 places) d

def digitText (ds : List Nat) : Text :=
  ds.map (· + 48)

/-- A natural in units of `10 ^ -places`, with a point if there are places. -/
def layoutFixed (places n : Nat) : Text :=
  let whole := Text.ofNat (n / Nat.pow 10 places)
  if places = 0 then whole
  else whole ++ 46 :: Text.padLeft places 48 (Text.ofNat (n % Nat.pow 10 places))

/-- An exponent with its sign and at least two digits. -/
def exponentText (mark : CodePoint) (e : Int) : Text :=
  mark :: (if e < 0 then 45 else 43) :: Text.padLeft 2 48 (Text.ofNat e.natAbs)

/-- One digit, a point if more follow or it is asked for, the others, and the exponent. -/
def layoutExponent (mark : CodePoint) (pointed : Bool) (d : Digits) : Text :=
  let mantissa := match d.digits with
    | [] => [48]
    | [x] => if pointed then digitText [x] ++ [46] else digitText [x]
    | x :: xs => digitText [x] ++ 46 :: digitText xs
  mantissa ++ exponentText mark (d.point - 1)

/-- Digits with the decimal point in its place; `whole` is appended if there is no fraction. -/
def layoutPositional (whole : Text) (d : Digits) : Text :=
  if d.point ≤ 0 then
    ("0." : Text) ++ Text.repeated (-d.point).toNat "0" ++ digitText d.digits
  else
    let before := d.point.toNat
    if d.digits.length ≤ before then
      digitText d.digits ++ Text.repeated (before - d.digits.length) "0" ++ whole
    else
      digitText (d.digits.take before) ++ 46 :: digitText (d.digits.drop before)

/-- The form of a double in output: the shortest digits that read back, positional from `1e-4` to
below `1e16`, always with a fraction or an exponent. -/
def showFloat (x : Float) : Text :=
  if isNaN x then "nan"
  else
    let sign : Text := if isNegative x then "-" else ""
    if isInfinite x then sign ++ "inf"
    else
      let p := parts x
      if p.significand = 0 then sign ++ "0.0"
      else
        let d := shortest p.significand p.exponent
        sign ++ if -3 ≤ d.point ∧ d.point ≤ 16 then layoutPositional ".0" d
          else layoutExponent 101 false d

/-- Significant digits without trailing zeros: positional unless the exponent is below `-4` or at
least the number of digits asked for. -/
def layoutGeneral (mark : CodePoint) (count : Nat) (alternate : Bool) (n d : Nat) : Text :=
  let count := max count 1
  if n = 0 then if alternate then ("0." : Text) ++ Text.repeated (count - 1) "0" else "0"
  else
    let s := significant count n d
    let s := if alternate then s else { s with digits := withoutTrailingZeros s.digits }
    if -3 ≤ s.point ∧ s.point ≤ count then layoutPositional (if alternate then "." else "") s
    else layoutExponent mark alternate s

end Decimal

end Stencil
