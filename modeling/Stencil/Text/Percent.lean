import Stencil.Number.Decimal

/-!
# Percent directives

Format texts in which `%` starts a directive: an optional key in parentheses, flags, a width, a
precision and a conversion letter. This module reads directives and lays out converted values; which
value a directive takes is left to its callers.

## Main definitions

- `Percent.Flags`, `Percent.Measure` — how a directive wants its value laid out
- `Percent.layoutText`, `Percent.layoutInt`, `Percent.layoutFloat` — values laid out as directed
-/

namespace Stencil

namespace Percent

/-- The flags of a directive. -/
structure Flags where
  left : Bool := false
  plus : Bool := false
  blank : Bool := false
  alternate : Bool := false
  zero : Bool := false
  deriving Inhabited

/-- A key up to its closing parenthesis, inner parentheses balanced. -/
def key (depth : Nat) (acc : Text) : Text → Option (Text × Text)
  | [] => none
  | 41 :: rest =>
    match depth with
    | 0 => some (acc.reverse, rest)
    | depth + 1 => key depth (41 :: acc) rest
  | 40 :: rest => key (depth + 1) (40 :: acc) rest
  | c :: rest => key depth (c :: acc) rest

def flags (f : Flags) : Text → Flags × Text
  | 45 :: rest => flags { f with left := true } rest
  | 43 :: rest => flags { f with plus := true } rest
  | 32 :: rest => flags { f with blank := true } rest
  | 35 :: rest => flags { f with alternate := true } rest
  | 48 :: rest => flags { f with zero := true } rest
  | rest => (f, rest)

def digitsValue (t : Text) : Nat :=
  t.foldl (fun n c => n * 10 + (c - 48)) 0

/-- The number at the head of a text, with the text behind it. -/
def number? (t : Text) : Option (Nat × Text) :=
  let digits := t.takeWhile isAsciiDigit
  if digits.isEmpty then none else some (digitsValue digits, t.drop digits.length)

/-- The text without one of the letters that tell the size of a number and count for nothing. -/
def withoutSize : Text → Text
  | c :: rest => if c = 104 ∨ c = 108 ∨ c = 76 then rest else c :: rest
  | [] => []

/-- Flags with the width and the precision. -/
structure Measure where
  flags : Flags := {}
  width : Nat := 0
  precision : Option Nat := none
  deriving Inhabited

/-- A sign and a body put into the width. -/
def pad (m : Measure) (sign body : Text) : Text :=
  let length := sign.length + body.length
  if m.flags.left then Text.padRight m.width 32 (sign ++ body)
  else if m.flags.zero then sign ++ List.replicate (m.width - length) 48 ++ body
  else Text.padLeft m.width 32 (sign ++ body)

/-- A text, cut to the precision. -/
def layoutText (m : Measure) (t : Text) : Text :=
  let t := match m.precision with | some n => t.take n | none => t
  if m.flags.left then Text.padRight m.width 32 t else Text.padLeft m.width 32 t

def signText (f : Flags) (negative : Bool) : Text :=
  if negative then "-" else if f.plus then "+" else if f.blank then " " else ""

/-- An integer in the base of its conversion letter. -/
def layoutInt (conversion : CodePoint) (m : Measure) (i : Int) : Text :=
  let n := i.natAbs
  let (marker, digits) : Text × Text := match conversion with
    | 111 => ("0o", Text.inBase 8 n)
    | 120 => ("0x", Text.inBase 16 n)
    | 88 => ("0X", (Text.inBase 16 n).map fun c => if 97 ≤ c then c - 32 else c)
    | _ => ("", Text.ofNat n)
  let digits := match m.precision with
    | some p => Text.padLeft p 48 digits
    | none => digits
  pad m (signText m.flags (i < 0) ++ if m.flags.alternate then marker else []) digits

/-- The digits of a finite number under a conversion letter in lower case. -/
def floatDigits (conversion : CodePoint) (alternate : Bool) (precision : Nat) (x : Float) : Text :=
  let (num, den) := Binary64.toRatio x
  let n := num.natAbs
  let pointed (t : Text) : Text := if alternate && !t.contains 46 then t ++ [46] else t
  if conversion = 102 then pointed (Decimal.layoutFixed precision (Decimal.fixed precision n den))
  else if conversion = 101 then
    let d : Decimal.Digits :=
      if n = 0 then ⟨List.replicate (precision + 1) 0, 1⟩
      else Decimal.significant (precision + 1) n den
    Decimal.layoutExponent 101 (alternate && precision = 0) d
  else Decimal.layoutGeneral 101 precision alternate n den

/-- A number under the conversion letters `e`, `f` and `g` of either case; six digits by default. -/
def layoutFloat (conversion : CodePoint) (m : Measure) (x : Float) : Text :=
  let upper := 65 ≤ conversion && conversion ≤ 90
  let lower := if upper then conversion + 32 else conversion
  let body : Text :=
    if Binary64.isNaN x then "nan"
    else if Binary64.isInfinite x then "inf"
    else floatDigits lower m.flags.alternate (m.precision.getD 6) x
  let body := if upper then body.map fun c => if 97 ≤ c && c ≤ 122 then c - 32 else c else body
  pad m (signText m.flags (Binary64.isNegative x && !Binary64.isNaN x)) body

end Percent

end Stencil
