import Stencil.Template.Order
import Stencil.Text.Numeral

/-!
# Conversions of values

Values taken as integers, floating point numbers and texts, with the failures of what cannot be taken
so.

## Main definitions

- `asInteger`, `asSize`, `asSmall` — values that stand for an integer, and those that fit a machine word
- `toInteger`, `toReal` — values turned into numbers, texts read as numerals
- `asciiForm` — a quoted form in ASCII
-/

namespace Stencil

namespace Template

open Exec

/-- A value as an integer where one is required. -/
def asInteger (v : Value) : Exec Int := do
  match v with
  | .int i _ => pure i
  | .bool b => pure (if b then 1 else 0)
  | _ => do
    let t ← typeName v
    typeError ("'" ++ t ++ "' object cannot be interpreted as an integer")

/-- A value as an integer that fits into a machine word of the given number of bits. -/
def asWord (bits : Nat) (what : Text) (v : Value) : Exec Int := do
  let i ← asInteger v
  if (Nat.pow 2 (bits - 1) : Nat) ≤ i ∨ i < -(Nat.pow 2 (bits - 1) : Nat) then
    fail .overflow ("Python int too large to convert to " ++ what)
  else pure i

/-- A value as a length or a count. -/
def asSize (v : Value) : Exec Int :=
  asWord 64 "C ssize_t" v

/-- A value as a small number or a switch. -/
def asSmall (v : Value) : Exec Int :=
  asWord 32 "C int" v

/-- Why a text with too many digits is not read as an integer. -/
def tooManyDigits (digits : Nat) : Raised :=
  .ofText .badValue (("Exceeds the limit (4300 digits) for integer string conversion: value has " :
    Text) ++ Text.ofNat digits ++
    " digits; use sys.set_int_max_str_digits() to increase the limit")

/-- Whether a base is a power of two, where the number of digits is not limited. -/
def isBinaryBase (base : Nat) : Bool :=
  [2, 4, 8, 16, 32].contains base

/-- The integer that a text spells in a base. -/
def textInteger (base : Int) (t : Text) : Exec Int := do
  if base ≠ 0 ∧ (base < 2 ∨ 36 < base) then fail .badValue "int() base must be >= 2 and <= 36, or 0"
  else
    let invalid : Exec Int :=
      fail .badValue (("invalid literal for int() with base " : Text) ++ Text.ofInt base ++ ": " ++
        t.quoted)
    match Numeral.readInt? base.toNat t with
    | some i =>
      let (_, body) := Numeral.sign (t.trim isSpace)
      match Numeral.resolveBase? base.toNat body with
      | some (actual, digits) =>
        let count := (digits.filter (· ≠ 95)).length
        if !isBinaryBase actual && intDigitLimit < count then raise (tooManyDigits count)
        else pure i
      | none => pure i
    | none => invalid

/-- The integer part of a double. -/
def wholePart (x : Float) : Exec Int :=
  if Binary64.isNaN x then fail .badValue "cannot convert float NaN to integer"
  else match Binary64.truncate? x with
    | some i => pure i
    | none => fail .overflow "cannot convert float infinity to integer"

/-- A value turned into an integer. -/
def toInteger (v : Value) : Exec Int := do
  match v with
  | .int i _ => pure i
  | .bool b => pure (if b then 1 else 0)
  | .float x _ => wholePart x
  | .str t _ | .safe t _ => textInteger 10 t
  | .bytes b _ => do
    match ← attempt (textInteger 10 (b.map UInt8.toNat)) with
    | .ok i => pure i
    | .error f =>
      if f.kind = .badValue then
        fail .badValue ("invalid literal for int() with base 10: " ++ (← quoted v))
      else raise f
  | .undefined _ message _ => raise (undefinedUse message)
  | v => do
    typeError (("int() argument must be a string, a bytes-like object or a real number, not '" :
      Text) ++ (← typeName v) ++ "'")

/-- A value turned into a double. -/
def toReal (v : Value) : Exec Float := do
  let ofInt (i : Int) : Exec Float := match Binary64.ofInt? i with
    | some x => pure x
    | none => fail .overflow "int too large to convert to float"
  let ofText (t shown : Text) : Exec Float := match Numeral.readFloat? t with
    | some x => pure x
    | none => fail .badValue (("could not convert string to float: " : Text) ++ shown)
  match v with
  | .float x _ => pure x
  | .int i _ => ofInt i
  | .bool b => pure (if b then 1.0 else 0.0)
  | .str t _ | .safe t _ => ofText t t.quoted
  | .bytes b _ => do ofText (b.map UInt8.toNat) (← quoted v)
  | .undefined _ message _ => raise (undefinedUse message)
  | v => do
    typeError (("float() argument must be a string or a real number, not '" : Text) ++
      (← typeName v) ++ "'")

/-- A number as a double, where a number is required. -/
def asReal (v : Value) : Exec Float := do
  match v with
  | .float .. | .int .. | .bool _ | .undefined .. => toReal v
  | .ref id => match ← fetch id with
    | .escapeHelper v => toReal v
    | _ => do typeError ("must be real number, not " ++ (← typeName v))
  | v => do typeError ("must be real number, not " ++ (← typeName v))

/-- Non-ASCII characters of a quoted form as escapes. -/
def asciiForm (t : Text) : Text :=
  t.flatMap fun c =>
    if c < 0x80 then [c]
    else if c < 0x100 then "\\x" ++ Text.hex 2 c
    else if c < 0x10000 then "\\u" ++ Text.hex 4 c
    else "\\U" ++ Text.hex 8 c

end Template

end Stencil
