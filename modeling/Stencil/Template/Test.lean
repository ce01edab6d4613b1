import Stencil.Template.Filter.Text

/-!
# Tests

The questions that templates ask about values with `is`.

## Main definitions

- `Test.names` — the names of all tests
- `Test.ofName?` — the answer of a test
-/

namespace Stencil

namespace Template

open Exec

namespace Test

/-- A comparison under each of its names, with the name that messages use. -/
def comparison? : String → Option (CompareOp × String)
  | "eq" | "equalto" | "==" => some (.eq, "eq")
  | "ne" | "!=" => some (.ne, "ne")
  | "gt" | "greaterthan" | ">" => some (.gt, "gt")
  | "ge" | ">=" => some (.ge, "ge")
  | "lt" | "lessthan" | "<" => some (.lt, "lt")
  | "le" | "<=" => some (.le, "le")
  | _ => none

def names : List String := [
  "odd", "even", "divisibleby", "defined", "undefined", "filter", "test", "none", "boolean", "false",
  "true", "integer", "float", "lower", "upper", "string", "mapping", "number", "sequence", "iterable",
  "callable", "sameas", "escaped", "in", "==", "eq", "equalto", "!=", "ne", ">", "gt", "greaterthan",
  "ge", ">=", "<", "lt", "lessthan", "<=", "le"]

/-- Whether a value can be iterated over; a strict value that is not there refuses to tell. -/
def isIterable (v : Value) : Exec Bool := do
  match v with
  | .undefined true message _ => raise (undefinedUse message)
  | v => Template.isIterable v

/-- Whether a value has a length and items. -/
def isSequence (v : Value) : Exec Bool := do
  match v with
  | .str .. | .safe .. | .bytes .. | .range .. | .undefined false .. => pure true
  | .ref id => match ← fetch id with
    | .list _ | .tuple .. | .dict _ => pure true
    | _ => pure false
  | _ => pure false

def isMapping (v : Value) : Exec Bool := do
  match v with
  | .ref id => match ← fetch id with
    | .dict _ => pure true
    | _ => pure false
  | _ => pure false

def isCallable (v : Value) : Exec Bool := do
  match v with
  | .undefined .. | .lipsum | .render _ | .method .. | .block .. | .kind _ | .generic .. => pure true
  | .unbound c name => pure (!c.fields.contains name.toName)
  | .ref id => match ← fetch id with
    | .procedure .. | .joiner .. | .loop _ | .recursion .. => pure true
    | _ => pure false
  | _ => pure false

def isNumber (v : Value) : Bool :=
  match v with
  | .bool _ | .int .. | .float .. | .complex .. => true
  | _ => false

/-- The remainder of a value equals a number. -/
def leaves (E : Engine) (v divisor : Value) (remainder : Int) : Exec Value := do
  let r ← binaryBy "%" (collect E) .mod v divisor
  pure (.bool (← equal r (.int remainder)))

/-- The tests that take no argument. -/
def plain? (v : Value) : String → Option (Exec Bool)
  | "defined" => some (pure (match v with | .undefined .. => false | _ => true))
  | "undefined" => some (pure (match v with | .undefined .. => true | _ => false))
  | "none" => some (pure (match v with | .none => true | _ => false))
  | "boolean" => some (pure (match v with | .bool _ => true | _ => false))
  | "true" => some (pure (match v with | .bool b => b | _ => false))
  | "false" => some (pure (match v with | .bool b => !b | _ => false))
  | "integer" => some (pure (match v with | .int .. => true | _ => false))
  | "float" => some (pure (match v with | .float .. => true | _ => false))
  | "number" => some (pure (isNumber v))
  | "string" => some (pure v.asText?.isSome)
  | "escaped" => some (pure (Filter.isSafe v))
  | "lower" => some do pure (Text.isLower (← text v))
  | "upper" => some do pure (Text.isUpper (← text v))
  | "mapping" => some (isMapping v)
  | "sequence" => some (isSequence v)
  | "iterable" => some (isIterable v)
  | _ => none

/-- How messages about the arguments of a test name the function behind it. -/
def function (name : String) : Text :=
  match name, comparison? name with
  | _, some (_, name) => "_operator." ++ (name : Text) ++ "()"
  | "callable", none => "callable()"
  | name, none => "jinja2.tests.test_" ++ (name : Text) ++ "()"

/-- Whether a value is one of some names. -/
def isName (names : List String) (v : Value) : Exec Value := do
  onHeap fun h => Value.hashable h v
  pure (.bool (match v.asText? with
    | some t => names.contains t.toName
    | none => false))

/-- The answer of a test; `filterNames` are the names of the filters there are. -/
def ofName? (E : Engine) (filterNames : List String) (name : String) (v : Value) (args : CallArgs)
    (membership : Value → Value → Exec Bool) : Option (Exec Value) :=
  let all : CallArgs := { args with positional := v :: args.positional }
  let function : String := "test_" ++ name
  let plain (hidden : List String) (run : Exec Value) : Option (Exec Value) := some do
    discard (args.bind (Filter.parameters function hidden []))
    run
  let withOther (other : String) (run : Value → Exec Value) : Option (Exec Value) := some do
    match ← args.bind (Filter.parameters function ["value"] [(other, none)]) with
    | [x] => run x
    | _ => pure (.bool false)
  match plain? v name, comparison? name with
  | some run, _ => plain ["value"] do pure (.bool (← run))
  | none, some (op, name) => some do
    if !args.keywords.isEmpty then
      typeError ("_operator." ++ (name : Text) ++ "() takes no keyword arguments")
    else
      CallArgs.checkPositions name 2 2 all.positional.length
      match all.positional, op with
      | [a, b], .eq => do pure (.bool (← equal a b))
      | [a, b], .ne => do pure (.bool (!(← equal a b)))
      | [a, b], op => do pure (.bool (← Filter.ordered op a b))
      | _, _ => pure (.bool false)
  | none, none => match name with
    | "callable" => some do
      discard (all.take [] "callable" .one)
      pure (.bool (← isCallable v))
    | "filter" => plain ["env", "value"] (isName filterNames v)
    | "test" => plain ["env", "value"] (isName names v)
    | "odd" => plain ["value"] (leaves E v (.int 2) 1)
    | "even" => plain ["value"] (leaves E v (.int 2) 0)
    | "divisibleby" => withOther "num" fun x => leaves E v x 0
    | "sameas" => withOther "other" fun x => do pure (.bool (← same v x))
    | "in" => withOther "seq" fun x => do pure (.bool (← membership v x))
    | _ => none

end Test

end Template

end Stencil
