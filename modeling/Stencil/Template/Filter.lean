import Stencil.Template.Filter.Json
import Stencil.Template.Filter.Number
import Stencil.Template.Filter.Pretty
import Stencil.Template.Filter.Sequence
import Stencil.Template.Filter.Url

/-!
# Filters

All filters by name.

## Main definitions

- `Filter.names` — the names of the filters
- `Filter.isConstant` — whether a filter of a constant is a constant
- `Filter.ofName?` — the result of a filter
-/

namespace Stencil

namespace Template

open Exec

namespace Filter

/-- Filters that wait for asynchronous iterators. -/
def waitingNames : List String := [
  "first", "groupby", "join", "list", "map", "reject", "rejectattr", "select", "selectattr", "slice",
  "sum", "unique"]

def names : List String := waitingNames ++ [
  "abs", "attr", "batch", "capitalize", "center", "count", "d", "default", "dictsort", "e", "escape",
  "filesizeformat", "float", "forceescape", "format", "indent", "int", "items", "last", "length",
  "lower", "max", "min", "pprint", "random", "replace", "reverse", "round", "safe", "sort", "string",
  "striptags", "title", "tojson", "trim", "truncate", "upper", "urlencode", "urlize", "wordcount",
  "wordwrap", "xmlattr"]

/-- Whether a filter of constants can be applied before the template runs. -/
def isConstant (name : String) : Bool :=
  names.contains name && !waitingNames.contains name && name != "random"

/-- How messages about the arguments of a filter name the function behind it. -/
def function (name : String) : Text :=
  match name with
  | "abs" => "abs()"
  | "length" | "count" => "len()"
  | "e" | "escape" => "markupsafe.escape()"
  | "string" => "markupsafe.soft_str()"
  | "d" => "jinja2.filters.do_default()"
  | "safe" => "jinja2.filters.do_mark_safe()"
  | name => "jinja2.filters.do_" ++ (name : Text) ++ "()"

/-- A value, or another one if it is not there. -/
def orDefault (v default boolean : Value) : Exec Value := do
  match v with
  | .undefined .. => pure default
  | v => do
    if ← truth boolean then
      if ← truth v then pure v else pure default
    else pure v

/-- The attribute of a name, also where an item of that name comes first. -/
def attributeNamed (ahead : Value → Text → Exec (Option Value)) (v name : Value) : Exec Value := do
  onHeap fun h => Value.hashable h name
  match name.asText? with
  | none => do
    typeError ("attribute name must be string, not '" ++ (← typeName name) ++ "'")
  | some t => match ← ahead v t with
    | some x => pure x
    | none => match ← attribute? v t with
      | some x => pure x
      | none => noAttribute v name

/-- The result of a filter. `ahead` tells attributes that need iteration. -/
def ofName? (E : Engine) (ahead : Value → Text → Exec (Option Value)) (name : String) (v : Value)
    (args : CallArgs) : Option (Exec Value) :=
  (((ofText? E name v args).or (ofNumber? E name v args)).or (ofSequence? E name v args)).or <|
    (ofUrl? E name v args).or <| match name with
    | "default" | "d" => some do
      match ← args.bind (parameters "do_default" ["value"] [("default_value", some (.str [])),
        ("boolean", some (.bool false))]) with
      | [default, boolean] => orDefault v default boolean
      | _ => pure v
    | "attr" => some do
      let values ← args.bind (parameters "do_attr" ["environment", "obj"] [("name", none)])
      attributeNamed ahead v (values.headD .none)
    | "tojson" => some do
      let values ← args.bind (parameters "do_tojson" ["eval_ctx", "value"]
        [("indent", some .none)])
      toJson E v (values.headD .none)
    | "pprint" => some do
      discard (args.bind (parameters "do_pprint" ["value"] []))
      pure (.str (← pretty nestingLimit 0 0 0 v))
    | _ => none

end Filter

end Template

end Stencil
