import Stencil.Number.Hexadecimal
import Stencil.Template.Method.Strings

/-!
# Methods of numbers

## Main definitions

- `NumberMethod.ofInt`, `NumberMethod.ofReal`, `NumberMethod.ofComplex` — the methods by name
- `NumberMethod.rounded` — a number rounded to decimal places
- `NumberMethod.fromBytes` — the integer that bytes spell
-/

namespace Stencil

namespace Template

open Exec

namespace NumberMethod

/-- The number of one bits. -/
def bitCount (n : Nat) : Nat :=
  ((Nat.toDigits 2 n).filter (· == '1')).length

/-- An integer rounded to a power of ten, a tie to the even multiple. -/
def roundToUnit (i : Int) (zeros : Nat) : Int :=
  if i.natAbs.log2 + 2 < zeros then 0
  else
    let unit := Nat.pow 10 zeros
    let r : Int := Binary64.roundQuotient i.natAbs unit * unit
    if i < 0 then -r else r

/-- The integer nearest to a double in a direction that `toward` gives for finite doubles. -/
def wholeBy (toward : Float → Option Int) (x : Float) : Exec Int :=
  match toward x with
  | some i => pure i
  | none => wholePart x

/-- The integer nearest to a double. -/
def nearest (x : Float) : Exec Int :=
  wholeBy (fun x => if Binary64.isFinite x then some (Real64.roundInt x) else none) x

/-- A number rounded to a number of decimal places; doubles without one become integers. -/
def rounded (v : Value) (places : Option Value) : Exec Value := do
  match v.number?, places with
  | some (.inl i), none => pure (.int i)
  | some (.inl i), some p => do
    let p ← asInteger p
    pure (.int (if 0 ≤ p then i else roundToUnit i p.natAbs))
  | some (.inr x), none | some (.inr x), some .none => do pure (.int (← nearest x))
  | some (.inr x), some p => do
    match Real64.roundPlaces x (← asInteger p) with
    | some y => pure (.float y)
    | none => fail .overflow "rounded value too large to represent"
  | none, _ => do
    typeError (("type " : Text) ++ (← typeName v) ++ " doesn't define __round__ method")

/-- The order of bytes that an argument names; the most significant byte comes first by default. -/
def littleEndian (function : Text) (order : Option Value) : Exec Bool := do
  match order with
  | none => pure false
  | some v => match v.asText? with
    | none => do
      typeError (function ++ "() argument 'byteorder' must be str, not " ++
        (← Strings.shownType v))
    | some t =>
      if t == ("little" : Text) then pure true
      else if t == ("big" : Text) then pure false
      else fail .badValue "byteorder must be either 'little' or 'big'"

/-- Whether an argument that is given counts as true. -/
def switchedOn (v : Option Value) : Exec Bool := do
  match v with
  | some v => truth v
  | none => pure false

/-- The bytes of a natural, the most significant one first. -/
def bytesOf (length n : Nat) : Bytes :=
  (List.range length).reverse.map fun k => UInt8.ofNat (n / Nat.pow 256 k % 256)

/-- How long the bytes of an integer may get. -/
def byteLimit : Nat := 1000000

/-- The bytes that spell an integer. -/
def toBytes (i : Int) (given : Strings.Given) : Exec Value := do
  let length ← match given.at? 0 with
    | some v => asSize v
    | none => pure 1
  let little ← littleEndian "to_bytes" (given.at? 1)
  let signed ← switchedOn (given.at? 2)
  if length < 0 then fail .badValue "length argument must be non-negative"
  else if i < 0 && !signed then fail .overflow "can't convert negative int to unsigned"
  else if (byteLimit : Int) < length then fail .memory []
  else
    let length := length.toNat
    let room : Int := Nat.pow 256 length
    let fits := if signed then -room ≤ 2 * i && 2 * i < room || (i = 0 && length = 0) else i < room
    if !fits then fail .overflow "int too big to convert"
    else
      let bytes := bytesOf length (if i < 0 then i + room else i).toNat
      pure (.bytes (if little then bytes.reverse else bytes))

/-- The bytes of a value that can be turned into some. -/
def byteValues (E : Engine) (v : Value) : Exec Bytes := do
  let refuse : Exec Bytes := do
    typeError ("cannot convert '" ++ (← typeName v) ++ "' object to bytes")
  match v with
  | .bytes b _ => pure b
  | .str .. | .safe .. => refuse
  | v => do
    if !(← isIterable v) then refuse
    else
      forEach (← collect E v) fun x => do
        let i ← asInteger x
        if 0 ≤ i ∧ i < 256 then pure (UInt8.ofNat i.toNat)
        else fail .badValue "bytes must be in range(0, 256)"

/-- The integer that bytes spell. -/
def fromBytes (E : Engine) (given : Strings.Given) : Exec Int := do
  let little ← littleEndian "from_bytes" (given.at? 1)
  let signed ← switchedOn (given.at? 2)
  let bytes ← byteValues E (given.get 0)
  let bytes := if little then bytes.reverse else bytes
  let n : Int := (bytes.foldl (fun n b => n * 256 + b.toNat) 0 : Nat)
  let room : Int := Nat.pow 256 bytes.length
  pure (if signed && room ≤ 2 * n then n - room else n)

/-- The double that a text spells in hexadecimal form. -/
def fromHex (v : Value) : Exec Value := do
  match v.asText? with
  | none => typeError "bad argument type for built-in operation"
  | some t => match Hexadecimal.read? t with
    | .ok x => pure (.float x)
    | .error .malformed => fail .badValue "invalid hexadecimal floating-point string"
    | .error .tooLarge => fail .overflow "hexadecimal value too large to represent as a float"

def ofInt (i : Int) (name : String) (given : Strings.Given) : Exec Value := do
  match name with
  | "bit_length" => pure (.int (if i = 0 then 0 else i.natAbs.log2 + 1))
  | "bit_count" => pure (.int (bitCount i.natAbs))
  | "as_integer_ratio" => newTuple [.int i, .int 1]
  | "conjugate" | "__ceil__" | "__floor__" | "__trunc__" => pure (.int i)
  | "__round__" => rounded (.int i) (given.at? 0)
  | "__getnewargs__" => newTuple [.int i]
  | "to_bytes" => toBytes i given
  | _ => typeError ("'" ++ (name : Text) ++ "' is not available")

def ofReal (x : Float) (name : String) (given : Strings.Given) : Exec Value := do
  match name with
  | "hex" => pure (.str (Hexadecimal.show x))
  | "is_integer" => pure (.bool (Binary64.isWhole x))
  | "conjugate" => pure (.float x)
  | "as_integer_ratio" =>
    if Binary64.isNaN x then fail .badValue "cannot convert NaN to integer ratio"
    else if Binary64.isInfinite x then fail .overflow "cannot convert Infinity to integer ratio"
    else
      let (n, d) := Binary64.toRatio x
      let g := Nat.gcd n.natAbs d
      newTuple [.int (n / (g : Int)), .int ((d / g : Nat) : Int)]
  | "__ceil__" => do pure (.int (← wholeBy Binary64.ceiling? x))
  | "__floor__" => do pure (.int (← wholeBy Binary64.floor? x))
  | "__trunc__" => do pure (.int (← wholePart x))
  | "__round__" => rounded (.float x) (given.at? 0)
  | "__getnewargs__" => newTuple [.float x]
  | "__getformat__" => do
    let kind : Strings.Given := given
    match (kind.get 0).asText? with
    | some t =>
      if t == ("double" : Text) || t == ("float" : Text) then pure (.str "IEEE, little-endian")
      else fail .badValue "__getformat__() argument 1 must be 'double' or 'float'"
    | none => do
      typeError ("__getformat__() argument must be str, not " ++ (← Strings.shownType (kind.get 0)))
  | _ => typeError ("'" ++ (name : Text) ++ "' is not available")

def ofComplex (re im : Float) (name : String) : Exec Value := do
  match name with
  | "conjugate" => pure (.complex re (-im))
  | "__complex__" => pure (.complex re im)
  | "__getnewargs__" => newTuple [.float re, .float im]
  | _ => typeError ("'" ++ (name : Text) ++ "' is not available")

end NumberMethod

end Template

end Stencil
