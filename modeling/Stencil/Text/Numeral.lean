import Stencil.Failure
import Stencil.Number.Binary64

/-!
# Numerals

Reading integers and floating point numbers from text. Blanks around a numeral are ignored, digits of
every script count, and single underscores may stand between digits. An integer is written in decimal
digits, unless there would be too many of them.

## Main definitions

- `Numeral.readInt?` — integers in bases 2 to 36, with an optional base marker
- `Numeral.readFloat?` — decimals, `inf` and `nan`
- `Numeral.ofDecimal` — the double nearest to a decimal
- `intText` — the text of an integer
-/

namespace Stencil

namespace Numeral

/-- The value of a digit: a decimal digit of any script, or an ASCII letter from ten on. -/
def digitValue? (c : CodePoint) : Option Nat :=
  match decimalValue? c with
  | some v => some v
  | none =>
    if 97 ≤ c && c ≤ 122 then some (c - 87)
    else if 65 ≤ c && c ≤ 90 then some (c - 55)
    else none

/-- The digits of a numeral without its underscores; each must stand between two digits. -/
def withoutUnderscores? (t : Text) : Option Text :=
  go false t
where
  go (afterDigit : Bool) : Text → Option Text
  | [] => if afterDigit then some [] else none
  | 95 :: rest => if afterDigit then go false rest else none
  | c :: rest => (go true rest).map (c :: ·)

/-- The value of digits, most significant first. -/
def value? (base : Nat) (t : Text) : Option Nat :=
  t.foldlM (fun n c => do
    let d ← digitValue? c
    if d < base then some (n * base + d) else none) 0

/-- Split off a sign. -/
def sign (t : Text) : Bool × Text :=
  match t with
  | 45 :: rest => (true, rest)
  | 43 :: rest => (false, rest)
  | _ => (false, t)

/-- The base that a marker such as `0x` names. -/
def markedBase? (c : CodePoint) : Option Nat :=
  if c = 120 ∨ c = 88 then some 16
  else if c = 111 ∨ c = 79 then some 8
  else if c = 98 ∨ c = 66 then some 2
  else none

/-- Split a base marker off the digits. Base zero takes the base from the marker, or ten; a numeral
without a marker may then not start with a zero unless it is zero. -/
def resolveBase? (base : Nat) (t : Text) : Option (Nat × Text) :=
  let unmarked : Option (Nat × Text) :=
    if base ≠ 0 then some (base, t)
    else match t with
      | 48 :: rest => if rest.all fun c => c = 48 ∨ c = 95 then some (10, t) else none
      | _ => some (10, t)
  match t with
  | 48 :: marker :: rest =>
    match markedBase? marker with
    | some marked =>
      if base = 0 ∨ base = marked then
        some (marked, match rest with | 95 :: digits => digits | _ => rest)
      else unmarked
    | none => unmarked
  | _ => unmarked

/-- The integer that a text spells in a base. -/
def readInt? (base : Nat) (t : Text) : Option Int := do
  let (negative, body) := sign (t.trim isSpace)
  let (base, digits) ← resolveBase? base body
  let n ← value? base (← withoutUnderscores? digits)
  pure (if negative then -(n : Int) else n)

/-- The number of digits of a decimal integer numeral. -/
def digitCount (t : Text) : Nat :=
  (t.filter fun c => (decimalValue? c).isSome).length

/-- The double nearest to `digits · 10 ^ exponent`; too large a number is infinite. -/
def ofDecimal (negative : Bool) (digits : Nat) (exponent : Int) : Float :=
  let result :=
    match exponent with
    | .ofNat k =>
      if digits = 0 then Binary64.ofRatio? negative 0 1
      else if 400 < k then none
      else Binary64.ofRatio? negative (digits * Nat.pow 10 k) 1
    | .negSucc k =>
      if 400 + digits.log2 < k then Binary64.ofRatio? negative 0 1
      else Binary64.ofRatio? negative digits (Nat.pow 10 (k + 1))
  result.getD (Binary64.infinity negative)

/-- Digits of any script as ASCII digits. -/
def asciiDigits (t : Text) : Text :=
  t.map fun c => match decimalValue? c with
    | some v => v + 48
    | none => c

def lowerAscii (t : Text) : Text :=
  t.map fun c => if 65 ≤ c && c ≤ 90 then c + 32 else c

/-- Underscores are allowed between two digits only. -/
def underscoresBetweenDigits (t : Text) : Bool :=
  go false t
where
  go (afterDigit : Bool) : Text → Bool
  | [] => true
  | 95 :: c :: rest => afterDigit && isAsciiDigit c && go true rest
  | [95] => false
  | c :: rest => go (isAsciiDigit c) rest

/-- An unsigned decimal: digits, an optional fraction, an optional exponent. -/
def decimal? (negative : Bool) (t : Text) : Option Float := do
  let whole := t.takeWhile isAsciiDigit
  let rest := t.drop whole.length
  let (fraction, rest) := match rest with
    | 46 :: r => (r.takeWhile isAsciiDigit, r.dropWhile isAsciiDigit)
    | _ => ([], rest)
  if whole.isEmpty && fraction.isEmpty then none
  let exponent ← match rest with
    | [] => some 0
    | c :: r =>
      if c = 101 ∨ c = 69 then
        let (negative, digits) := sign r
        if digits.isEmpty || !digits.all isAsciiDigit then none
        else (value? 10 digits).map fun n => if negative then -(n : Int) else n
      else none
  let digits ← value? 10 (whole ++ fraction)
  some (ofDecimal negative digits (exponent - fraction.length))

/-- The number that a text spells. -/
def readFloat? (t : Text) : Option Float := do
  let t := asciiDigits (t.trim isSpace)
  if !underscoresBetweenDigits t then none
  let (negative, body) := sign (t.filter (· ≠ 95))
  let word := lowerAscii body
  if word = "inf" ∨ word = "infinity" then some (Binary64.infinity negative)
  else if word = "nan" then some Binary64.nan
  else decimal? negative body

end Numeral

/-! ### Writing integers -/

/-- Integers of more digits than this have no text. -/
def intDigitLimit : Nat := 4300

/-- The text of an integer, if it is short enough. -/
def intText (i : Int) : Except Raised Text :=
  if i.natAbs.log2 < 14280 then .ok (Text.ofInt i)
  else
    let t := Text.ofNat i.natAbs
    if intDigitLimit < t.length then
      .error (.ofText .badValue (("Exceeds the limit (4300 digits) for integer string conversion; " :
        Text) ++ "use sys.set_int_max_str_digits() to increase the limit"))
    else .ok (Text.ofInt i)

end Stencil
