import Stencil.Number.Decimal
import Stencil.Text.Numeral

/-!
# Reading JSON

JSON documents as values, and the reader. Objects keep their order, integers their size, and strings
may hold lone surrogates. `NaN` and the infinities are numbers too.

## Main definitions

- `Json` — the values
- `Json.Limits` — how long integers and how deep values may be
- `Json.read` — the value of a document, or the fault with its position
- `Json.Fault.message` — the report of a fault, with line and column
-/

namespace Stencil

/-- A JSON value. Of two members of one name the later value stands in the earlier place. -/
inductive Json where
  | null
  | bool (b : Bool)
  | int (i : Int)
  | float (x : Float)
  | str (t : Text)
  | arr (items : List Json)
  | obj (members : List (Text × Json))
  deriving Inhabited

namespace Json

/-- What a reader accepts. -/
structure Limits where
  /-- The digits of an integer. -/
  digits : Nat
  /-- How many objects and arrays may stand in one another. -/
  nesting : Nat

/-- Why a document cannot be read. -/
inductive Fault where
  /-- The document is not JSON from the text `rest` on. -/
  | malformed (what : String) (rest : Text)
  /-- An integer has more digits than the reader accepts. -/
  | tooLong (limit digits : Nat)
  /-- Objects and arrays stand in one another more deeply than the reader accepts. -/
  | tooDeep (container : String)

abbrev Result (α : Type) := Except Fault (α × Text)

def isBlank (c : CodePoint) : Bool :=
  c == 32 || c == 9 || c == 10 || c == 13

def skip (t : Text) : Text :=
  t.dropWhile isBlank

/-! ### Strings -/

def hexDigit? (c : CodePoint) : Option Nat :=
  if 48 ≤ c && c ≤ 57 then some (c - 48)
  else if 97 ≤ c && c ≤ 102 then some (c - 87)
  else if 65 ≤ c && c ≤ 70 then some (c - 55)
  else none

/-- The code point that an escape letter stands for. -/
def escaped? (c : CodePoint) : Option CodePoint :=
  match c with
  | 34 => some 34
  | 92 => some 92
  | 47 => some 47
  | 98 => some 8
  | 102 => some 12
  | 110 => some 10
  | 114 => some 13
  | 116 => some 9
  | _ => none

def hexValue? (a b c d : CodePoint) : Option Nat := do
  pure ((((← hexDigit? a) * 16 + (← hexDigit? b)) * 16 + (← hexDigit? c)) * 16 + (← hexDigit? d))

/-- Add a code unit of an escape to a reversed text; the second half of a pair completes the first
one if that was an escape too. -/
def pushUnit (unit : Nat) (pending : Bool) (acc : Text) : Text :=
  match acc with
  | high :: before =>
    if pending && 0xD800 ≤ high && high ≤ 0xDBFF && 0xDC00 ≤ unit && unit ≤ 0xDFFF then
      (0x10000 + (high - 0xD800) * 1024 + (unit - 0xDC00)) :: before
    else unit :: acc
  | [] => [unit]

/-- The rest of a string whose opening quote is the head of `start`; `pending` says that the last
code point read came from a code unit escape. -/
def stringBody (start : Text) (pending : Bool) (acc : Text) : Text → Result Text
  | [] => .error (.malformed "Unterminated string starting at" start)
  | 34 :: rest => .ok (acc.reverse, rest)
  | [92] => .error (.malformed "Unterminated string starting at" start)
  | 92 :: 117 :: a :: b :: c :: d :: next :: rest =>
    match hexValue? a b c d with
    | some unit =>
      stringBody start (0xD800 ≤ unit && unit ≤ 0xDBFF) (pushUnit unit pending acc) (next :: rest)
    | none => .error (.malformed "Invalid \\uXXXX escape" (117 :: a :: b :: c :: d :: next :: rest))
  | 92 :: 117 :: rest => .error (.malformed "Invalid \\uXXXX escape" (117 :: rest))
  | 92 :: c :: rest =>
    match escaped? c with
    | some point => stringBody start false (point :: acc) rest
    | none => .error (.malformed "Invalid \\escape" (92 :: c :: rest))
  | c :: rest =>
    if c ≤ 0x1F then .error (.malformed "Invalid control character at" (c :: rest))
    else stringBody start false (c :: acc) rest

/-! ### Numbers and words -/

/-- Split off a minus sign. -/
def minus (t : Text) : Bool × Text :=
  match t with
  | 45 :: rest => (true, rest)
  | _ => (false, t)

/-- The digits in front of a point: a zero stands alone. -/
def whole (t : Text) : Text × Text :=
  match t with
  | 48 :: rest => ([48], rest)
  | _ => (t.takeWhile isAsciiDigit, t.dropWhile isAsciiDigit)

/-- The digits behind a point. A point without digits is not part of a number. -/
def fraction (t : Text) : Text × Text :=
  match t with
  | 46 :: rest =>
    let digits := rest.takeWhile isAsciiDigit
    if digits.isEmpty then ([], t) else (digits, rest.dropWhile isAsciiDigit)
  | _ => ([], t)

/-- The digits of an exponent, and whether it is negative. -/
def exponent (t : Text) : Option (Bool × Text) × Text :=
  match t with
  | mark :: rest =>
    if mark = 101 ∨ mark = 69 then
      let (down, rest) := Numeral.sign rest
      let digits := rest.takeWhile isAsciiDigit
      if digits.isEmpty then (none, t) else (some (down, digits), rest.dropWhile isAsciiDigit)
    else (none, t)
  | [] => (none, t)

/-- The number of the given parts. Without decimals and exponent it is an integer. -/
def ofParts (limit : Option Nat) (negative : Bool) (digits decimals : Text)
    (exponent : Option (Bool × Text)) : Except Fault Json :=
  let value (digits : Text) : Nat := (Numeral.value? 10 digits).getD 0
  match decimals, exponent with
  | [], none =>
    match limit with
    | some limit =>
      if limit < digits.length then .error (.tooLong limit digits.length)
      else .ok (.int (if negative then -(value digits : Int) else value digits))
    | none => .ok (.int (if negative then -(value digits : Int) else value digits))
  | _, _ =>
    let e : Int := match exponent with
      | some (down, digits) => if down then -(value digits : Int) else value digits
      | none => 0
    .ok (.float (Numeral.ofDecimal negative (value (digits ++ decimals)) (e - decimals.length)))

/-- A number at the head of a text. -/
def number (limit : Option Nat) (t : Text) : Result Json :=
  let (negative, body) := minus t
  let (digits, rest) := whole body
  if digits.isEmpty then .error (.malformed "Expecting value" t)
  else
    let (decimals, rest) := fraction rest
    let (exponent, rest) := exponent rest
    (ofParts limit negative digits decimals exponent).map (·, rest)

/-- The values that have names. -/
def words : List (String × Json) := [
  ("null", .null), ("true", .bool true), ("false", .bool false),
  ("NaN", .float Binary64.nan),
  ("Infinity", .float (Binary64.infinity false)), ("-Infinity", .float (Binary64.infinity true))]

/-- The value of a name at the head of a text. -/
def word? (t : Text) : Option (Json × Text) :=
  words.findSome? fun (word, j) =>
    let word : Text := word
    if word.isPrefixOf t then some (j, t.drop word.length) else none

/-- A value without parts at the head of a text. -/
def scalar (limit : Option Nat) (t : Text) : Result Json :=
  match word? t with
  | some found => .ok found
  | none => number limit t

/-! ### Objects and arrays -/

/-- Put a member into an object: a known name keeps its place. -/
def insertMember (name : Text) (value : Json) : List (Text × Json) → List (Text × Json)
  | [] => [(name, value)]
  | (n, v) :: rest =>
    if n = name then (n, value) :: rest else (n, v) :: insertMember name value rest

/-- The names and values of an object, in the order in which the names first occurred. -/
def ofMembers (members : List (Text × Json)) : Json :=
  obj (members.foldl (fun known (n, v) => insertMember n v known) [])

/-- The name of a member, up to its value. -/
def memberName (t : Text) : Except Fault (Text × Text) :=
  match t with
  | 34 :: rest => do
    let (name, rest) ← stringBody t false [] rest
    match skip rest with
    | 58 :: rest => .ok (name, skip rest)
    | rest => .error (.malformed "Expecting ':' delimiter" rest)
  | _ => .error (.malformed "Expecting property name enclosed in double quotes" t)

mutual

/-- A value at the head of a text, with `room` for so many objects and arrays in one another; `fuel`
bounds the number of values and separators. -/
def value (limit : Option Nat) (room : Nat) : Nat → Text → Except Fault (Json × Text)
  | 0, t => .error (.malformed "Expecting value" t)
  | fuel + 1, t =>
    match t with
    | [] => .error (.malformed "Expecting value" t)
    | 34 :: rest => (stringBody t false [] rest).map fun (s, rest) => (.str s, rest)
    | 123 :: rest =>
      match room with
      | 0 => .error (.tooDeep "object")
      | room + 1 => match skip rest with
        | 125 :: rest => .ok (.obj [], rest)
        | rest => members limit room fuel [] rest
    | 91 :: rest =>
      match room with
      | 0 => .error (.tooDeep "array")
      | room + 1 => match skip rest with
        | 93 :: rest => .ok (.arr [], rest)
        | rest => items limit room fuel [] rest
    | _ => scalar limit t

/-- The members of an object from a name on. -/
def members (limit : Option Nat) (room : Nat) :
    Nat → List (Text × Json) → Text → Except Fault (Json × Text)
  | 0, _, t => .error (.malformed "Expecting value" t)
  | fuel + 1, acc, t => do
    let (name, rest) ← memberName t
    let (v, rest) ← value limit room fuel rest
    let acc := (name, v) :: acc
    match skip rest with
    | 125 :: rest => .ok (ofMembers acc.reverse, rest)
    | 44 :: rest => members limit room fuel acc (skip rest)
    | rest => .error (.malformed "Expecting ',' delimiter" rest)

/-- The items of an array from a value on. -/
def items (limit : Option Nat) (room : Nat) : Nat → List Json → Text → Except Fault (Json × Text)
  | 0, _, t => .error (.malformed "Expecting value" t)
  | fuel + 1, acc, t => do
    let (v, rest) ← value limit room fuel t
    let acc := v :: acc
    match skip rest with
    | 93 :: rest => .ok (.arr acc.reverse, rest)
    | 44 :: rest => items limit room fuel acc (skip rest)
    | rest => .error (.malformed "Expecting ',' delimiter" rest)

end

/-- The value of a whole document. A byte order mark in front is not part of JSON. -/
def read (limits : Option Limits) (t : Text) : Except Fault Json :=
  if t.head? = some 0xFEFF then
    .error (.malformed "Unexpected UTF-8 BOM (decode using utf-8-sig)" t)
  else do
    let room := (limits.map (·.nesting)).getD t.length
    let (v, rest) ← value (limits.map (·.digits)) room (2 * t.length + 2) (skip t)
    match skip rest with
    | [] => .ok v
    | rest => .error (.malformed "Extra data" rest)

/-- The report of a fault in a document. -/
def Fault.message (document : Text) : Fault → Text
  | .malformed what rest =>
    let position := document.length - rest.length
    let before := document.take position
    let line := before.count Text.newline + 1
    let column := (before.reverse.takeWhile (· ≠ Text.newline)).length + 1
    (what : Text) ++ ": line " ++ Text.ofNat line ++ " column " ++ Text.ofNat column ++
      " (char " ++ Text.ofNat position ++ ")"
  | .tooLong limit digits =>
    "Exceeds the limit (" ++ Text.ofNat limit ++
      " digits) for integer string conversion: value has " ++ Text.ofNat digits ++
      " digits; use sys.set_int_max_str_digits() to increase the limit"
  | .tooDeep container =>
    "maximum recursion depth exceeded while decoding a JSON " ++ (container : Text) ++
      " from a unicode string"

end Json

end Stencil
