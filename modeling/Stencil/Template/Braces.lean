import Stencil.Template.Access
import Stencil.Template.Call
import Stencil.Text.Field
import Stencil.Text.Spec

/-!
# Formatting with replacement fields

Format texts in which fields between braces stand for arguments.

## Main definitions

- `Braces.layout` — a value laid out as a specification says
- `Braces.format` — a format text with its fields filled in
- `Braces.formatSafe` — a safe format, which escapes what it takes in
-/

namespace Stencil

namespace Template

open Exec

namespace Braces

/-- A value laid out as a specification says. -/
def layout (v : Value) (spec : Text) : Exec Text := do
  if spec.isEmpty then text v
  else
    let kind ← typeName v
    match v with
    | .str t _ | .safe t _ => ofExcept (Spec.layoutText kind spec t)
    | .int i _ => ofExcept (Spec.layoutInt kind spec (intText i.natAbs) i)
    | .bool b => ofExcept (Spec.layoutInt kind spec (.ok (if b then "1" else "0"))
        (if b then 1 else 0))
    | .float x _ => ofExcept (Spec.layoutFloat kind spec x)
    | .complex x y _ => ofExcept (Spec.layoutComplex kind spec x y)
    | _ => typeError ("unsupported format string passed to " ++ kind ++ ".__format__")

/-- The failure of an attribute that is not there. -/
def attributeFailure {α : Type} (v : Value) (name : Text) : Exec α := do
  let message : Text ← match v with
    | .kind c => pure ("type object '" ++ c.name ++ "' has no attribute " ++ name.quoted)
    | .undefined .. => pure name
    | .ref id => match ← fetch id with
      | .namespace _ => pure name
      | _ => do pure ("'" ++ (← typeName v) ++ "' object has no attribute " ++ name.quoted)
    | v => do pure ("'" ++ (← typeName v) ++ "' object has no attribute " ++ name.quoted)
  fail .missingAttribute message

/-- The attribute of a value that must have it. -/
def attributeOf (v : Value) (name : Text) : Exec Value := do
  match ← attribute? v name with
  | some x => pure x
  | none => attributeFailure v name

/-- Take a step from a value. -/
def step (v : Value) : Field.Step → Exec Value
  | .attr name => attributeOf v name
  | .item key => subscript v (.str key)
  | .index n => subscript v (.int n)

/-- Follow the steps behind the first name of a field. -/
def follow : Nat → Text → Value → Exec Value
  | 0, _, v => pure v
  | fuel + 1, t, v => do
    match ← ofExcept (Field.step? t) with
    | none => pure v
    | some (s, rest) => do follow fuel rest (← step v s)

/-- Where the arguments of a format come from. -/
structure Supply where
  positional : Option (List Value)
  /-- The value of a keyword. -/
  keyword : Text → Exec Value

/-- The arguments of a call. -/
def Supply.ofCall (args : CallArgs) : Supply where
  positional := some args.positional
  keyword name := match args.keywords.lookup name with
    | some v => pure v
    | none => keyFailure (.str name)

/-- The entries of a mapping. -/
def Supply.ofMapping (positional : Option (List Value)) (v : Value) : Supply where
  positional
  keyword name := subscript v (.str name)

/-- How fields without a name are counted: the next number, unless numbers were given. -/
structure Numbering where
  next : Nat := 0
  automatic : Bool := false
  manual : Bool := false

/-- A value converted as a letter says. -/
def converted (v : Value) (c : CodePoint) : Exec Value := do
  match c with
  | 114 => do pure (.str (← quoted v))
  | 115 => do pure (.str (← text v))
  | 97 => do pure (.str (asciiForm (← quoted v)))
  | c =>
    fail .badValue (("Unknown conversion specifier " : Text) ++
      if 32 < c ∧ c < 127 then [c] else "\\x" ++ Text.inBase 16 c)

/-! ### Plain formats -/

/-- The argument that a field names, and the numbering behind it. -/
def argument (s : Supply) (name : Text) (k : Numbering) : Exec (Value × Numbering) := do
  let at? (n : Nat) : Exec Value := match s.positional with
    | none => fail .badValue "Format string contains positional fields"
    | some vs => match vs[n]? with
      | some v => pure v
      | none => fail .badIndex ("Replacement index " ++ Text.ofNat n ++
          " out of range for positional args tuple")
  let number? ← ofExcept (Field.number? name)
  if name.isEmpty then
    if k.manual then
      fail .badValue
        "cannot switch from manual field specification to automatic field numbering"
    else do
      pure (← at? k.next, { k with next := k.next + 1, automatic := true })
  else match number? with
    | some n =>
      if k.automatic then
        fail .badValue
          "cannot switch from automatic field numbering to manual field specification"
      else do pure (← at? n, { k with manual := true })
    | none => do pure (← s.keyword name, k)

/-- Fill in the fields of a format text. Specifications may hold fields themselves, one level deep. -/
def expand (s : Supply) : Nat → Nat → Numbering → Text → Exec (Text × Numbering)
  | 0, _, k, _ => pure ([], k)
  | _ + 1, 0, _, _ => fail .badValue "Max string recursion exceeded"
  | fuel + 1, depth + 1, k, t => do
    match ← ofExcept (Field.next? [] t) with
    | none => pure ([], k)
    | some (literal, none, rest) => do
      let (more, k) ← expand s fuel (depth + 1) k rest
      pure (literal ++ more, k)
    | some (literal, some f, rest) => do
      let (first, path) := Field.head f.name
      let (v, k) ← argument s first k
      let v ← follow (path.length + 1) path v
      let v ← match f.conversion with
        | some c => converted v c
        | none => pure v
      let (spec, k) ← if f.spec.contains 123 then expand s fuel depth k f.spec
        else pure (f.spec, k)
      let shown ← layout v spec
      let (more, k) ← expand s fuel (depth + 1) k rest
      pure (literal ++ shown ++ more, k)

/-- A format text with its arguments. -/
def format (s : Supply) (t : Text) : Exec Value := do
  let (filled, _) ← expand s (t.length + 1) 2 {} t
  pure (.str filled)

/-! ### Safe formats -/

/-- The text of a laid out value inside a safe format. -/
def shownSafely (v : Value) (spec : Text) : Exec Text := do
  match v with
  | .safe t _ =>
    if spec.isEmpty then pure t
    else fail .badValue "Unsupported format specification for Markup."
  | v => do pure (Markup.escape (← layout v spec))

/-- The value that a field of a safe format names. -/
def fieldValue (s : Supply) (name : Text) : Exec Value := do
  let (first, path) := Field.head name
  let v ← match ← ofExcept (Field.number? first) with
    | some n => match (s.positional.getD [])[n]? with
      | some v => pure v
      | none => fail .badIndex "tuple index out of range"
    | none => s.keyword first
  follow (path.length + 1) path v

/-- The name of a field of a safe format, which counts if it has none, and the numbering behind it. -/
def fieldName (name : Text) (k : Option Nat) : Exec (Text × Option Nat) :=
  let switched : Exec (Text × Option Nat) := fail .badValue
    "cannot switch from manual field specification to automatic field numbering"
  if name.isEmpty then
    match k with
    | some n => pure (Text.ofNat n, some (n + 1))
    | none => switched
  else if name.all isDigit then
    match k with
    | some (_ + 1) => switched
    | _ => pure (name, none)
  else pure (name, k)

/-- The value of a field of a safe format, converted if a letter says so. -/
def convertedSafely (v : Value) : Option CodePoint → Exec Value
  | some c =>
    if [114, 115, 97].contains c then converted v c
    else fail .badValue ("Unknown conversion specifier " ++ [c])
  | none => pure v

/-- Fill in the fields of a safe format. `next` is the number of the next field without a name, or none
once numbers were given. -/
def expandSafe (s : Supply) : Nat → Nat → Option Nat → Text → Exec (Text × Option Nat)
  | 0, _, k, _ => pure ([], k)
  | _ + 1, 0, _, _ => fail .badValue "Max string recursion exceeded"
  | fuel + 1, depth + 1, k, t => do
    match ← ofExcept (Field.next? [] t) with
    | none => pure ([], k)
    | some (literal, none, rest) => do
      let (more, k) ← expandSafe s fuel (depth + 1) k rest
      pure (literal ++ more, k)
    | some (literal, some f, rest) => do
      let (name, k) ← fieldName f.name k
      let v ← convertedSafely (← fieldValue s name) f.conversion
      let (spec, k) ← expandSafe s fuel depth k f.spec
      let shown ← shownSafely v spec
      let (more, k) ← expandSafe s fuel (depth + 1) k rest
      pure (literal ++ shown ++ more, k)

/-- A safe format with its arguments. -/
def formatSafe (s : Supply) (t : Text) : Exec Value := do
  let (filled, _) ← expandSafe s (t.length + 1) 3 (some 0) t
  pure (.safe filled)

end Braces

end Template

end Stencil
