import Stencil.Template.Filter.Text

/-!
# Filters for numbers

## Main definitions

- `Filter.toInt`, `Filter.toFloat` — conversions with a default
- `Filter.rounded` — rounding in three ways
- `Filter.ofNumber?` — the filters that make a number of their subject, or a text of a number
-/

namespace Stencil

namespace Template

open Exec

namespace Filter

/-- A result, or a default if a value is of the wrong type or has the wrong content, or fails in one
of the ways that `also` tells. -/
def unlessRefused {α : Type} (also : Kind → Bool) (x default : Exec α) : Exec α := do
  match ← attempt x with
  | .ok a => pure a
  | .error f => if also f.kind || f.kind == .wrongType || f.kind == .badValue then default else raise f

/-- A value as an integer, by way of a double if it must be. -/
def toInt (v default base : Value) : Exec Value :=
  unlessRefused (fun _ => false) (do
    match v.asText? with
    | some t => do pure (.int (← textInteger (← asInteger base) t))
    | none => do pure (.int (← toInteger v))) <|
  unlessRefused (· == .overflow) (do pure (.int (← wholePart (← toReal v)))) (pure default)

def toFloat (v default : Value) : Exec Value :=
  unlessRefused (fun _ => false) (do
    match v with
    | .float .. => pure v
    | v => do pure (.float (← toReal v))) (pure default)

/-- The nearest integer below or above a number. -/
def roundTo (up : Bool) (v : Value) : Exec Value := do
  match v.number? with
  | some (.inl i) => pure (.int i)
  | some (.inr x) => do
    pure (.int (← NumberMethod.wholeBy (if up then Binary64.ceiling? else Binary64.floor?) x))
  | none => do typeError (("must be real number, not " : Text) ++ (← typeName v))

def rounded (E : Engine) (v precision method : Value) : Exec Value := do
  onHeap fun h => Value.hashable h method
  match (method.asText?.getD []).toName with
  | "common" =>
    NumberMethod.rounded v (if isNone precision then none else some precision)
  | "ceil" => inUnits true
  | "floor" => inUnits false
  | _ => fail .filterArgument "method must be common, ceil or floor"
where
  inUnits (up : Bool) : Exec Value := do
    let unit ← compute E .pow (.int 10) precision
    let scaled ← compute E .mul v unit
    compute E .div (← roundTo up scaled) unit

def sizeUnits (binaryUnits : Bool) : List Text :=
  if binaryUnits then ["KiB", "MiB", "GiB", "TiB", "PiB", "EiB", "ZiB", "YiB"]
  else ["kB", "MB", "GB", "TB", "PB", "EB", "ZB", "YB"]

/-- A number of bytes in the unit of a number. -/
def inUnit (base : Nat) (x : Float) (n : Nat) (unit : Text) : Exec Text := do
  let power ← Template.toFloat (Nat.pow base (n + 2))
  match Spec.layoutFloat "float" ".1f" (base.toFloat * x / power) with
  | .ok t => pure (t ++ " " ++ unit)
  | .error f => raise f

/-- A number of bytes in the unit that suits it. -/
def fileSize (v binaryUnits : Value) : Exec Text := do
  let x ← toReal v
  let binaryUnits ← truth binaryUnits
  let base : Nat := if binaryUnits then 1024 else 1000
  let below (n : Nat) : Bool := Binary64.compareInt? x n == some .lt
  if x == 1.0 then pure "1 Byte"
  else if below base then do pure (Text.ofInt (← wholePart x) ++ " Bytes")
  else
    let units := sizeUnits binaryUnits
    match units.zipIdx.find? fun (_, n) => below (Nat.pow base (n + 2)) with
    | some (unit, n) => inUnit base x n unit
    | none => inUnit base x (units.length - 1) (units.getLastD [])

def absolute (v : Value) : Exec Value := do
  match v, v.number? with
  | _, some (.inl i) => pure (.int i.natAbs)
  | _, some (.inr x) => pure (.float (if Binary64.isNegative x then -x else x))
  | .complex x y _, none =>
    let size := Complex64.magnitude ⟨x, y⟩
    if Binary64.isInfinite size && Binary64.isFinite x && Binary64.isFinite y then
      fail .overflow "absolute value too large"
    else pure (.float size)
  | _, none => do
    typeError (("bad operand type for abs(): '" : Text) ++ (← typeName v) ++ "'")

/-- Check the arguments of a function that takes its subject only. -/
def subjectOnly (function : Text) (v : Value) (args : CallArgs) : Exec Unit := do
  discard (({ args with positional := v :: args.positional } : CallArgs).take [] function .one)

/-- The filters about numbers. -/
def ofNumber? (E : Engine) (name : String) (v : Value) (args : CallArgs) : Option (Exec Value) :=
  match name with
  | "abs" => some do
    subjectOnly "abs" v args
    absolute v
  | "int" => some do
    match ← args.bind (parameters "do_int" ["value"] [("default", some (.int 0)),
      ("base", some (.int 10))]) with
    | [default, base] => toInt v default base
    | _ => pure v
  | "float" => some do
    let values ← args.bind (parameters "do_float" ["value"] [("default", some (.float 0.0))])
    toFloat v (values.headD .none)
  | "round" => some do
    match ← args.bind (parameters "do_round" ["value"] [("precision", some (.int 0)),
      ("method", some (.str "common"))]) with
    | [precision, method] => rounded E v precision method
    | _ => pure v
  | "filesizeformat" => some do
    let values ← args.bind (parameters "do_filesizeformat" ["value"]
      [("binary", some (.bool false))])
    pure (.str (← fileSize v (values.headD .none)))
  | _ => none

end Filter

end Template

end Stencil
