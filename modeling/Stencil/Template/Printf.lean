import Stencil.Template.Conversion
import Stencil.Template.Subscript
import Stencil.Text.Percent

/-!
# Formatting with percent directives

Format texts and byte strings in which `%` starts a directive. Arguments are taken one by one, or by
keys from a mapping.

## Main definitions

- `printf` — a format text with its arguments filled in; a safe format escapes them
- `printfBytes` — the same for byte strings
-/

namespace Stencil

namespace Template

open Exec

namespace Printf

/-- The arguments that are left. -/
structure Supply where
  rest : List Value
  /-- Where keys are looked up. -/
  mapping : Option Value
  /-- Whether a byte string is made. -/
  binary : Bool := false

def next (s : Supply) : Exec (Value × Supply) :=
  match s.rest with
  | v :: rest => pure (v, { s with rest })
  | [] => typeError "not enough arguments for format string"

/-- A width or precision that stands among the arguments. -/
def star (s : Supply) (bits : Nat) (what : Text) : Exec (Int × Supply) := do
  let (v, s) ← next s
  match v with
  | .int .. | .bool _ => do pure (← asWord bits what v, s)
  | _ => typeError "* wants int"

/-- The value behind an argument, and whether its text is escaped. -/
def argument (v : Value) : Exec (Value × Bool) := do
  match v with
  | .ref id => match ← fetch id with
    | .escapeHelper x => pure (x, true)
    | _ => pure (v, false)
  | v => pure (v, false)

/-- The failure of a value that is no number. -/
def notANumber {α : Type} (letter : CodePoint) (v : Value) : Exec α := do
  let t ← typeName v
  let what : Text := if [111, 120, 88].contains letter then "an integer" else "a real number"
  typeError (37 :: letter :: (" format: " ++ what ++ " is required, not " ++ t))

/-- Whether a value is a number that is no integer, or stands for one. -/
def standsForNumber : Value → Bool
  | .float .. | .undefined .. | .complex .. => true
  | _ => false

/-- The integer that a value is converted to under a conversion letter. -/
def integer (letter : CodePoint) (v : Value) : Exec Int := do
  let decimal := !([111, 120, 88].contains letter)
  let (x, escaped) ← argument v
  match v with
  | .int i _ => pure i
  | .bool b => pure (if b then 1 else 0)
  | _ =>
    if decimal && (escaped || standsForNumber x) then
      match ← attempt (toInteger x) with
      | .ok i => pure i
      | .error f => if f.kind = .wrongType then notANumber letter v else raise f
    else notANumber letter v

/-- The only byte of a value that is a byte string of one byte. -/
def byte? : Value → Option UInt8
  | .bytes [b] _ => some b
  | _ => none

def character (s : Supply) (v : Value) : Exec Text := do
  if s.binary then
    match byte? v, index? v with
    | some b, _ => pure [b.toNat]
    | none, some i =>
      if 0 ≤ i ∧ i < 256 then pure [i.toNat] else fail .overflow "%c arg not in range(256)"
    | none, none => typeError "%c requires an integer in range(256) or a single byte"
  else
    match v.asText?, index? v with
    | some [c], _ => pure [c]
    | none, some i =>
      if 0 ≤ i ∧ i < 0x110000 then pure [i.toNat]
      else fail .overflow "%c arg not in range(0x110000)"
    | _, _ => typeError "%c requires int or char"

/-- The quoted form of an argument. -/
def shownForm (v : Value) : Exec Text := do
  let (x, escaped) ← argument v
  let t ← quoted x
  pure (if escaped then Markup.escape t else t)

/-- The bytes of an argument of a byte format. -/
def bytesOf (v : Value) : Exec Text := do
  match v with
  | .bytes b _ => pure (b.map UInt8.toNat)
  | v => do
    typeError (("%b requires a bytes-like object, or an object that implements __bytes__, not '" :
      Text) ++ (← typeName v) ++ "'")

/-- The text of a value under a directive. `position` is where the conversion letter stands. -/
def converted (s : Supply) (c : CodePoint) (m : Percent.Measure) (position : Nat) (v : Value) :
    Exec Text := do
  if c = 115 ∨ (c = 98 ∧ s.binary) then
    pure (Percent.layoutText m (← if s.binary then bytesOf v else text v))
  else if c = 114 ∧ !s.binary then pure (Percent.layoutText m (← shownForm v))
  else if c = 97 ∨ c = 114 then pure (Percent.layoutText m (asciiForm (← shownForm v)))
  else if c = 99 then pure (Percent.layoutText { m with precision := none } (← character s v))
  else if [100, 105, 117, 111, 120, 88].contains c then
    let i ← integer c v
    let digits ← if [111, 120, 88].contains c then pure [] else ofExcept (intText i)
    pure (if digits.length < 0 then [] else Percent.layoutInt c m i)
  else if [101, 69, 102, 70, 103, 71].contains c then do
    let x ← match ← attempt (asReal v) with
      | .ok x => pure x
      | .error f =>
        if s.binary && f.kind = .wrongType then
          typeError ("float argument required, not " ++ (← typeName v))
        else raise f
    pure (Percent.layoutFloat c m x)
  else
    let shown := if 31 ≤ c && c ≤ 126 then c else 63
    fail .badValue ("unsupported format character '" ++ [shown] ++ "' (0x" ++ Text.inBase 16 c ++
      ") at index " ++ Text.ofNat position)

/-- The value of a key. -/
def lookup (s : Supply) (key : Text) : Exec Value := do
  let key : Value := if s.binary then .bytes (key.map UInt8.ofNat) else .str key
  match s.mapping with
  | none => typeError "format requires a mapping"
  | some m => do
    let (x, escaped) ← argument m
    let v ← subscript x key
    if escaped then do pure (.ref (← alloc (.escapeHelper v))) else pure v

/-- The width at the head of a text, whether it turns the layout around, and the text behind it. -/
def width (s : Supply) (t : Text) : Exec (Nat × Bool × Supply × Text) := do
  match t with
  | 42 :: rest => do
    let (i, s) ← star s 64 "C ssize_t"
    pure (i.natAbs, decide (i < 0), s, rest)
  | _ => match Percent.number? t with
    | some (n, rest) =>
      if Nat.pow 2 63 ≤ n then fail .badValue "width too big" else pure (n, false, s, rest)
    | none => pure (0, false, s, t)

/-- The precision at the head of a text, if there is one. -/
def precision (s : Supply) (t : Text) : Exec (Option Nat × Supply × Text) := do
  match t with
  | 46 :: 42 :: rest => do
    let (i, s) ← star s 32 "C int"
    pure (some i.toNat, s, rest)
  | 46 :: rest => match Percent.number? rest with
    | some (n, rest) =>
      if Nat.pow 2 31 ≤ n then
        fail .badValue (if s.binary then "prec too big" else "precision too big")
      else pure (some n, s, rest)
    | none => pure (some 0, s, rest)
  | _ => pure (none, s, t)

/-- How wide a value may be laid out. -/
def widthLimit : Nat := 100000000

/-- What a directive looks up under a key in front of it, and the text behind the key. -/
def keyed (s : Supply) (t : Text) : Exec (Supply × Text) := do
  match t with
  | 40 :: inner =>
    if s.mapping.isNone then typeError "format requires a mapping"
    else match Percent.key 0 [] inner with
      | some (key, rest) => do pure ({ s with rest := [← lookup s key] }, rest)
      | none => fail .badValue "incomplete format key"
  | _ => pure (s, t)

/-- What a directive at the head of a text is replaced by, and the text behind it. `length` is that of the
whole format. -/
def directive (length : Nat) (s : Supply) (t : Text) : Exec (Text × Supply × Text) := do
  let (s, t) ← keyed s t
  let (flags, t) := Percent.flags {} t
  let (w, turned, s, t) ← width s t
  let (p, s, t) ← precision s t
  match Percent.withoutSize t with
  | [] => fail .badValue "incomplete format"
  | c :: rest => do
    let (v, s) ← next s
    let m : Percent.Measure := {
      flags := { flags with left := flags.left || turned }, width := w, precision := p }
    if widthLimit < w ∨ widthLimit < p.getD 0 then fail .memory []
    else
      let shown ← converted s c m (length - rest.length - 1) v
      pure (shown, s, rest)

def go (length : Nat) : Nat → Supply → Text → Exec (Text × Supply)
  | 0, s, _ => pure ([], s)
  | fuel + 1, s, t => match t with
    | [] => pure ([], s)
    | 37 :: 37 :: rest => do
      let (t, s) ← go length fuel s rest
      pure (37 :: t, s)
    | 37 :: rest => do
      let (shown, s, rest) ← directive length s rest
      let (t, s) ← go length fuel s rest
      pure (shown ++ t, s)
    | c :: rest => do
      let (t, s) ← go length fuel s rest
      pure (c :: t, s)

/-- Whether keys can be looked up in a value. -/
def isMapping (binary : Bool) (v : Value) : Exec Bool := do
  match v with
  | .undefined .. | .range .. | .blocks _ => pure true
  | .bytes .. => pure !binary
  | .ref id => match ← fetch id with
    | .list _ | .dict _ | .escapeHelper _ => pure true
    | _ => pure false
  | _ => pure false

/-- Fill in a format with an argument, or with the items of one. -/
def fillWith (binary : Bool) (format : Text) (arg : Value) (items : Option (List Value)) :
    Exec Text := do
  let mapping ← isMapping binary arg
  let supply : Supply := {
    rest := items.getD [arg]
    mapping := if mapping then some arg else none
    binary }
  let (t, left) ← go format.length (format.length + 1) supply format
  if !left.rest.isEmpty && !mapping then
    typeError (if binary then "not all arguments converted during bytes formatting"
      else "not all arguments converted during string formatting")
  else pure t

/-- Fill in a format. -/
def fill (binary : Bool) (format : Text) (arg : Value) : Exec Text := do
  match arg with
  | .ref id => match ← fetch id with
    | .tuple items _ => fillWith binary format arg (some items.toList)
    | _ => fillWith binary format arg none
  | _ => fillWith binary format arg none

end Printf

/-- An argument of a safe format: the items of a tuple and all other values are escaped when their
text is taken. -/
def escapingArgument (arg : Value) : Exec Value := do
  let wrap (v : Value) : Exec Value := do pure (.ref (← alloc (.escapeHelper v)))
  match arg with
  | .ref id => match ← fetch id with
    | .tuple items _ => do newTuple (← forEach items.toList wrap)
    | _ => wrap arg
  | v => match v with
    | .undefined .. | .range .. | .bytes .. | .blocks _ => wrap v
    | v => do newTuple [← wrap v]

/-- A format text with its arguments: the items of a tuple, or one value. A mapping need not be used
up. -/
def printf (safe : Bool) (format : Text) (arg : Value) : Exec Value := do
  if safe then
    let arg ← match arg with
      | .ref id => match ← fetch id with
        | .tuple .. | .list _ | .dict _ => escapingArgument arg
        | _ => do newTuple [.ref (← alloc (.escapeHelper arg))]
      | v => escapingArgument v
    pure (.safe (← Printf.fill false format arg))
  else do pure (.str (← Printf.fill false format arg))

/-- A format byte string with its arguments. -/
def printfBytes (format : Bytes) (arg : Value) : Exec Value := do
  let t ← Printf.fill true (format.map UInt8.toNat) arg
  pure (.bytes (t.map UInt8.ofNat))

end Template

end Stencil
