import Stencil.Failure

/-!
# Replacement fields

The grammar of format texts: literal text, with fields between braces. A field has a name, which may go
on with attributes and indexes, and may be followed by a conversion and a specification.

## Main definitions

- `Field` and `Field.next?` — the next literal text and field of a format
- `Field.Step` and `Field.path` — the parts of a field's name
-/

namespace Stencil

structure Field where
  name : Text
  conversion : Option CodePoint := none
  spec : Text := []
  deriving Inhabited

namespace Field

def refused {α : Type} (message : Text) : Except Raised α :=
  .error (.ofText .badValue message)

/-- The name at the head of a text, up to what ends it; an index may hold any characters. The last
character read tells what ended the name. -/
def nameOf (acc : Text) (inIndex : Bool) (last : CodePoint) :
    Text → Except Raised (Text × CodePoint × Text)
  | [] => .ok (acc.reverse, last, [])
  | c :: rest =>
    if inIndex then nameOf (c :: acc) (c ≠ 93) last rest
    else if c = 123 then refused "unexpected '\x7b' in field name"
    else if c = 125 ∨ c = 58 ∨ c = 33 then .ok (acc.reverse, c, rest)
    else nameOf (c :: acc) (c = 91) c rest

/-- The specification at the head of a text, up to the brace that closes the field. -/
def specOf (depth : Nat) (acc : Text) : Text → Except Raised (Text × Text)
  | [] => refused "unmatched '\x7b' in format spec"
  | 123 :: rest => specOf (depth + 1) (123 :: acc) rest
  | 125 :: rest => match depth with
    | 0 => .ok (acc.reverse, rest)
    | depth + 1 => specOf depth (125 :: acc) rest
  | c :: rest => specOf depth (c :: acc) rest

/-- The field at the head of a text, behind its opening brace. -/
def read (t : Text) : Except Raised (Field × Text) := do
  let (name, mark, rest) ← nameOf [] false 0 t
  if mark = 125 then pure ({ name }, rest)
  else if mark = 58 then
    let (spec, rest) ← specOf 0 [] rest
    pure ({ name, spec }, rest)
  else if mark = 33 then
    match rest with
    | [] => refused "end of string while looking for conversion specifier"
    | [_] => refused "unmatched '\x7b' in format spec"
    | c :: 125 :: rest => pure ({ name, conversion := some c }, rest)
    | c :: 58 :: rest => do
      let (spec, rest) ← specOf 0 [] rest
      pure ({ name, conversion := some c, spec }, rest)
    | _ => refused "expected ':' after conversion specifier"
  else refused "expected '\x7d' before end of string"

/-- The literal text at the head of a format, the field behind it, if there is one, and the rest. -/
def next? (acc : Text) : Text → Except Raised (Option (Text × Option Field × Text))
  | [] => .ok (if acc.isEmpty then none else some (acc.reverse, none, []))
  | [123] => refused "Single '\x7b' encountered in format string"
  | 123 :: 123 :: rest => .ok (some ((123 :: acc).reverse, none, rest))
  | 123 :: rest => do
    let (field, rest) ← read rest
    pure (some (acc.reverse, some field, rest))
  | 125 :: 125 :: rest => .ok (some ((125 :: acc).reverse, none, rest))
  | 125 :: _ => refused "Single '\x7d' encountered in format string"
  | c :: rest => next? (c :: acc) rest

/-- A step from a value to a part of it. -/
inductive Step where
  | attr (name : Text)
  | item (key : Text)
  | index (n : Nat)

/-- The number that a name is, in the digits of any script. -/
def number? (t : Text) : Except Raised (Option Nat) :=
  if t.isEmpty ∨ !t.all isDecimal then .ok none
  else
    let n := t.foldl (fun n c => n * 10 + (decimalValue? c).getD 0) 0
    if Nat.pow 2 63 ≤ n then refused "Too many decimal digits in format string" else .ok (some n)

/-- The first name of a field and what stands behind it. -/
def head (t : Text) : Text × Text :=
  let first := t.takeWhile fun c => c ≠ 46 && c ≠ 91
  (first, t.drop first.length)

/-- The step at the head of a text. -/
def step? (t : Text) : Except Raised (Option (Step × Text)) :=
  let empty : Except Raised (Option (Step × Text)) := refused "Empty attribute in format string"
  match t with
  | [] => .ok none
  | 46 :: rest =>
    let (name, rest) := head rest
    if name.isEmpty then empty else .ok (some (.attr name, rest))
  | 91 :: rest =>
    let key := rest.takeWhile (· ≠ 93)
    match rest.drop key.length with
    | [] => refused "Missing ']' in format string"
    | _ :: after =>
      if key.isEmpty then empty
      else match number? key with
        | .error f => .error f
        | .ok (some n) => .ok (some (.index n, after))
        | .ok none => .ok (some (.item key, after))
  | _ => refused "Only '.' or '[' may follow ']' in format field specifier"

end Field

end Stencil
