import Stencil.Failure
import Stencil.Number.Decimal

/-!
# Layout specifications

The specifications that may stand behind the colon of a replacement field: fill and alignment, sign,
width, grouping, precision and a conversion letter.

## Main definitions

- `Spec` and `Spec.read` — a specification and its grammar
- `Spec.number` — a number in its parts, put into the width
- `Spec.layoutText`, `Spec.layoutInt`, `Spec.layoutFloat`, `Spec.layoutComplex` — values laid out as a
  specification says
-/

namespace Stencil

structure Spec where
  fill : Option CodePoint := none
  align : CodePoint := 62
  sign : Option CodePoint := none
  /-- Whether a negative zero loses its sign. -/
  plainZero : Bool := false
  alternate : Bool := false
  width : Option Nat := none
  grouping : Option CodePoint := none
  precision : Option Nat := none
  /-- The conversion letter, or zero. -/
  conversion : CodePoint := 0
  deriving Inhabited

namespace Spec

def refused {α : Type} (message : Text) : Except Raised α :=
  .error (.ofText .badValue message)

def isAlign (c : CodePoint) : Bool :=
  c = 60 || c = 62 || c = 61 || c = 94

/-- Fill and alignment. -/
def aligned (t : Text) : Option CodePoint × Option CodePoint × Text :=
  match t with
  | f :: a :: rest =>
    if isAlign a then (some f, some a, rest)
    else if isAlign f then (none, some f, a :: rest)
    else (none, none, t)
  | [a] => if isAlign a then (none, some a, []) else (none, none, t)
  | [] => (none, none, [])

/-- A number in the digits of any script. -/
def amount (t : Text) : Except Raised (Option Nat × Text) :=
  let digits := t.takeWhile isDecimal
  let n := digits.foldl (fun n c => n * 10 + (decimalValue? c).getD 0) 0
  if digits.isEmpty then .ok (none, t)
  else if Nat.pow 2 63 ≤ n then refused "Too many decimal digits in format string"
  else .ok (some n, t.drop digits.length)

def skip (c : CodePoint) (t : Text) : Bool × Text :=
  match t with
  | d :: rest => if d = c then (true, rest) else (false, t)
  | [] => (false, [])

/-- A letter as messages show it. -/
def letter (c : CodePoint) : Text :=
  if 32 < c ∧ c < 128 then [c] else "\\x" ++ Text.inBase 16 c

def unknownConversion {α : Type} (kind : Text) (c : CodePoint) : Except Raised α :=
  refused ("Unknown format code '" ++ letter c ++ "' for object of type '" ++ kind ++ "'")

/-- The mark between groups of digits. -/
def separator (t : Text) : Except Raised (Option CodePoint × Text) :=
  let both : Except Raised (Option CodePoint × Text) :=
    refused "Cannot specify both ',' and '_'."
  let (comma, t) := skip 44 t
  match t with
  | 95 :: rest =>
    if comma then both
    else match rest with
      | 44 :: _ => both
      | _ => .ok (some 95, rest)
  | _ => .ok (if comma then some 44 else none, t)

/-- Conversion letters with which digits are grouped. -/
def allowsGroups (mark conversion : CodePoint) : Bool :=
  [100, 101, 102, 103, 69, 71, 37, 70, 0].contains conversion ||
    (mark = 95 && [98, 111, 120, 88].contains conversion)

/-- Read a specification for a value of a kind, with its alignment and conversion by default. A zero
before the width fills with zeros, in numbers behind the sign. -/
def read (kind : Text) (align conversion : CodePoint) (whole : Text) : Except Raised Spec := do
  let (fill, given, t) := aligned whole
  let (sign, t) := match t with
    | c :: rest => if c = 43 ∨ c = 45 ∨ c = 32 then (some c, rest) else (none, t)
    | [] => (none, t)
  let (plainZero, t) := skip 122 t
  let (alternate, t) := skip 35 t
  let (zero, t) := if fill.isNone then skip 48 t else (false, t)
  let (width, t) ← amount t
  let (grouping, t) ← separator t
  let (precision, t) ← match t with
    | 46 :: rest => match ← amount rest with
      | (none, _) => refused "Format specifier missing precision"
      | found => pure found
    | _ => pure (none, t)
  let conversion ← match t with
    | [] => pure conversion
    | [c] => pure c
    | _ =>
      refused ("Invalid format specifier '" ++ whole ++ "' for object of type '" ++ kind ++ "'")
  match grouping with
  | some mark =>
    if !allowsGroups mark conversion then
      refused ("Cannot specify '" ++ [mark] ++ "' with '" ++ letter conversion ++ "'.")
  | none => pure ()
  let default := if zero && align = 62 then 61 else align
  pure {
    fill := fill.or (if zero then some 48 else none)
    align := given.getD default
    sign, plainZero, alternate, width, grouping, precision, conversion }

/-- Put a body with a sign in front into the width. -/
def place (s : Spec) (sign body : Text) : Text :=
  let blanks := s.width.getD 0 - (sign.length + body.length)
  let fill (n : Nat) : Text := List.replicate n (s.fill.getD 32)
  match s.align with
  | 60 => sign ++ body ++ fill blanks
  | 94 => fill (blanks / 2) ++ sign ++ body ++ fill (blanks - blanks / 2)
  | 61 => sign ++ fill blanks ++ body
  | _ => fill blanks ++ sign ++ body

/-- Digits in groups, with zeros in front up to a width; the groups are counted from the end. -/
def grouped (size : Nat) (mark : CodePoint) (width : Int) (digits : Text) : Text :=
  go (digits.length + width.toNat + 1) digits.reverse width []
where
  go : Nat → Text → Int → Text → Text
  | 0, _, _, acc => acc
  | fuel + 1, left, width, acc =>
    let count := min size (max (max left.length width.toNat) 1)
    let digits := (left.take count).reverse
    let zeros := List.replicate (count - digits.length) 48
    let acc := zeros ++ digits ++ (if acc.isEmpty then [] else mark :: acc)
    let width := width - count
    if (left.drop count).isEmpty ∧ width ≤ 0 then acc
    else go fuel (left.drop count) (width - 1) acc

def signText (s : Spec) (negative : Bool) : Text :=
  if negative then "-"
  else match s.sign with
    | some 43 => "+"
    | some 32 => " "
    | _ => []

/-- A number in its parts: the marker of its base, the digits in front of the point, and everything
behind them. Zeros that fill the width are grouped like digits. -/
def number (s : Spec) (size : Nat) (negative : Bool) (marker digits rest : Text) : Text :=
  let sign := signText s negative ++ marker
  let least : Int :=
    if s.fill = some 48 ∧ s.align = 61 then
      (s.width.getD 0 : Int) - (sign.length + rest.length : Nat)
    else 0
  let digits : Text :=
    if digits.isEmpty then []
    else match s.grouping with
      | some mark => grouped size mark least digits
      | none => Text.padLeft least.toNat 48 digits
  place s sign (digits ++ rest)

/-- How wide a value may be laid out. -/
def widthLimit : Nat := 100000000

/-- Refuse layouts that no memory holds. -/
def checked (s : Spec) : Except Raised Unit :=
  if widthLimit < s.width.getD 0 ∨ widthLimit < s.precision.getD 0 then
    .error (.ofText .memory [])
  else .ok ()

/-- A text, cut to the precision. -/
def layoutText (kind spec t : Text) : Except Raised Text := do
  let s ← read kind 60 115 spec
  let no (what : Text) : Except Raised Text :=
    refused (what ++ " not allowed in string format specifier")
  if s.conversion ≠ 115 then unknownConversion kind s.conversion
  else if s.sign = some 32 then no "Space"
  else if s.sign.isSome then no "Sign"
  else if s.plainZero then no "Negative zero coercion (z)"
  else if s.alternate then no "Alternate form (#)"
  else if s.align = 61 then no "'=' alignment"
  else if widthLimit < s.width.getD 0 then .error (.ofText .memory [])
  else pure (place s [] (match s.precision with | some p => t.take p | none => t))

def upper (t : Text) : Text :=
  t.map fun c => if 97 ≤ c && c ≤ 122 then c - 32 else c

/-- A given number of significant digits, positional unless the exponent is below `-4` or reaches the
limit. -/
def general (count : Nat) (limit : Int) (alternate : Bool) (whole : Text) (n d : Nat) : Text :=
  let r : Decimal.Digits := if n = 0 then ⟨[0], 1⟩ else
    let r := Decimal.significant count n d
    { r with digits := Decimal.withoutTrailingZeros r.digits }
  let r := if alternate then
      { r with digits := r.digits ++ List.replicate (count - r.digits.length) 0 }
    else r
  if -3 ≤ r.point ∧ r.point ≤ limit then Decimal.layoutPositional whole r
  else Decimal.layoutExponent 101 alternate r

/-- The digits of a number without its sign. Without a conversion letter they are the shortest that
read back; `whole` stands behind a number that has no fraction then. -/
def floatBody (s : Spec) (whole : Text) (x : Float) : Text :=
  let (n, d) := Binary64.toRatio x
  let n := n.natAbs
  let pointed (t : Text) : Text := if s.alternate && !t.contains 46 then t ++ [46] else t
  let precision := s.precision.getD 6
  if Binary64.isNaN x then "nan"
  else if Binary64.isInfinite x then "inf"
  else match s.conversion, s.precision with
    | 0, none =>
      let p := Binary64.parts x
      let r : Decimal.Digits := if n = 0 then ⟨[0], 1⟩
        else Decimal.shortest p.significand p.exponent
      if -3 ≤ r.point ∧ r.point ≤ 16 then pointed (Decimal.layoutPositional whole r)
      else Decimal.layoutExponent 101 s.alternate r
    | 0, some p =>
      let count := max p 1
      pointed (general count (if whole.isEmpty then (count : Int) else (count : Int) - 1) s.alternate
        whole n d)
    | c, _ =>
      if c = 102 ∨ c = 70 ∨ c = 37 then
        pointed (Decimal.layoutFixed precision (Decimal.fixed precision n d))
      else if c = 101 ∨ c = 69 then
        let r : Decimal.Digits :=
          if n = 0 then ⟨List.replicate (precision + 1) 0, 1⟩
          else Decimal.significant (precision + 1) n d
        Decimal.layoutExponent 101 s.alternate r
      else
        let count := max precision 1
        general count count s.alternate (if s.alternate then "." else []) n d

/-- Whether no digit tells a number from zero. -/
def showsZero (t : Text) : Bool :=
  (t.takeWhile (· ≠ 101)).all fun c => c = 48 || c = 46

/-- The digits of a number, and whether a minus sign stands in front of them. -/
def floatParts (s : Spec) (whole : Text) (x : Float) : Bool × Text :=
  let body := floatBody s whole x
  let negative := Binary64.isNegative x && !Binary64.isNaN x && !(s.plainZero && showsZero body)
  (negative, if [69, 70, 71].contains s.conversion then upper body else body)

/-- The digits in front of the point or the exponent, and the rest. -/
def cutDigits (t : Text) : Text × Text :=
  let digits := t.takeWhile isAsciiDigit
  (digits, t.drop digits.length)

def floatConversions : List CodePoint := [0, 101, 69, 102, 70, 103, 71, 110, 37]

def tooPrecise (s : Spec) : Bool :=
  Nat.pow 2 31 ≤ s.precision.getD 0

/-- A double whose conversion letter has been checked. -/
def finishFloat (s : Spec) (x : Float) : Except Raised Text := do
  if tooPrecise s then refused "precision too big"
  else
    checked s
    let x := if s.conversion = 37 then x * 100.0 else x
    let (negative, body) := floatParts s ".0" x
    let (digits, rest) := cutDigits body
    pure (number s 3 negative [] digits (if s.conversion = 37 then rest ++ [37] else rest))

def layoutFloat (kind spec : Text) (x : Float) : Except Raised Text := do
  let s ← read kind 62 0 spec
  if floatConversions.contains s.conversion then finishFloat s x
  else unknownConversion kind s.conversion

/-- The character with a number. -/
def finishCharacter (s : Spec) (i : Int) : Except Raised Text :=
  if s.sign.isSome then refused "Sign not allowed with integer format specifier 'c'"
  else if s.alternate then
    refused "Alternate form (#) not allowed with integer format specifier 'c'"
  else if (Nat.pow 2 63 : Nat) ≤ i ∨ i < -(Nat.pow 2 63 : Nat) then
    .error (.ofText .overflow "Python int too large to convert to C long")
  else if i < 0 ∨ 0x110000 ≤ i then .error (.ofText .overflow "%c arg not in range(0x110000)")
  else .ok (number s 3 false [] [] [i.toNat])

/-- An integer; `digits` are its decimal digits, if it may be written out. -/
def layoutInt (kind spec : Text) (digits : Except Raised Text) (i : Int) : Except Raised Text := do
  let s ← read kind 62 100 spec
  let c := s.conversion
  if [98, 99, 100, 111, 120, 88, 110].contains c then
    if s.precision.isSome then refused "Precision not allowed in integer format specifier"
    else if s.plainZero then
      refused "Negative zero coercion (z) not allowed in integer format specifier"
    else
      checked s
      if c = 99 then finishCharacter s i
      else
        let n := i.natAbs
        let (size, marker, digits) ← match c with
          | 98 => pure (4, ("0b" : Text), Text.inBase 2 n)
          | 111 => pure (4, ("0o" : Text), Text.inBase 8 n)
          | 120 => pure (4, ("0x" : Text), Text.inBase 16 n)
          | 88 => pure (4, ("0X" : Text), upper (Text.inBase 16 n))
          | _ => do pure (3, [], ← digits)
        pure (number s size (i < 0) (if s.alternate then marker else []) digits [])
  else if floatConversions.contains c && c ≠ 0 then
    match Binary64.ofInt? i with
    | some x => finishFloat s x
    | none => .error (.ofText .overflow "int too large to convert to float")
  else unknownConversion kind c

/-- A complex number. Without a conversion letter it stands between parentheses, unless its real part
is a plain zero, which is left out. -/
def layoutComplex (kind spec : Text) (re im : Float) : Except Raised Text := do
  let s ← read kind 62 0 spec
  if !floatConversions.contains s.conversion ∨ s.conversion = 37 then
    unknownConversion kind s.conversion
  else if tooPrecise s then refused "precision too big"
  else if s.fill = some 48 then
    refused "Zero padding is not allowed in complex format specifier"
  else if s.align = 61 then
    refused "'=' alignment flag is not allowed in complex format specifier"
  else
    checked s
    let bare := s.conversion = 0 ∧ re == 0.0 ∧ !Binary64.isNegative re
    let part (signed : Bool) (x : Float) : Text :=
      let (negative, body) := floatParts s [] x
      let (digits, rest) := cutDigits body
      number { s with
        fill := none, align := 60, width := none, sign := if signed then some 43 else s.sign }
        3 negative [] digits rest
    let body := (if bare then [] else part false re) ++ part (!bare) im ++ [106]
    pure (place s [] (if s.conversion = 0 && !bare then (40 :: body) ++ [41] else body))

end Spec

end Stencil
