import Stencil.Template.Operator

/-!
# Attributes and items

What templates reach behind a point and between brackets.

## Main definitions

- `attribute?` — the attribute of a value, methods included
- `getAttr`, `getItem` — attribute before item, and item before attribute
-/

namespace Stencil

namespace Template

open Exec

/-- The values around the current one of a loop that can be told without looking ahead. -/
def loopAttribute? (s : LoopState) (name : String) : Option Value :=
  match name with
  | "index" => some (.int (s.index0 + 1))
  | "index0" => some (.int s.index0)
  | "first" => some (.bool (s.index0 == 0))
  | "depth" => some (.int (s.depth0 + 1))
  | "depth0" => some (.int s.depth0)
  | "previtem" => some (if s.index0 == 0 then .undefined s.strict "there is no previous item"
      else s.before)
  | _ => none

/-- Methods of classes that are called without a value. -/
def classMethods (c : Class) : List String :=
  match c with
  | .dict => ["fromkeys", "__class_getitem__"]
  | .list | .tuple | .set => ["__class_getitem__"]
  | .bytes => ["fromhex", "maketrans"]
  | .str => ["maketrans"]
  | .safe => ["escape", "maketrans"]
  | .int | .bool => ["from_bytes"]
  | .float => ["fromhex"]
  | _ => []

/-- The member of a class itself. -/
def classAttribute? (c : Class) (name : Text) : Exec (Option Value) := do
  let key := name.toName
  match key with
  | "__name__" | "__qualname__" => pure (some (.str c.name))
  | "__module__" => pure (some (.str c.home))
  | "__mro__" => do pure (some (← newTuple (c.lineage.map .kind)))
  | "__base__" => pure (some ((c.parent?.map Value.kind).getD .none))
  | "__bases__" => do pure (some (← newTuple (c.parent?.toList.map .kind)))
  | _ =>
    pure (match c.member? key with
      | some (owner, _) =>
        if (classMethods c).contains key then some (.method (.kind c) name)
        else if key = "__hash__" && c.isUnhashable then some .none
        else some (.unbound owner name)
      | none => match c.lineage.find? fun d => d.fields.contains key with
        | some owner => some (.unbound owner name)
        | none => if key = "mro" then some (.method (.kind c) name) else none)

/-- The names of a function: its own, and the one that also tells where it belongs. -/
def functionNames (h : Heap) : Value → Option (Text × Text)
  | .lipsum => some ("generate_lorem_ipsum", "generate_lorem_ipsum")
  | .render _ => some ("render", "Renderer._nested_renderer.<locals>.render")
  | .method (.kind c) name => some (name, c.name ++ "." ++ name)
  | .method self name =>
    let c := self.classOf h
    some (name, (c.naming name.toName).name ++ "." ++ name)
  | .unbound c name => some (name, c.name ++ "." ++ name)
  | _ => none

/-- The attribute of a value that is no method, by the class of the value. -/
def ownAttribute? (v : Value) (name : Text) : Exec (Option Value) := do
  let h := (← machine).heap
  let key := name.toName
  match v with
  | .bool b => pure (match key with
    | "real" | "numerator" => some (.int (if b then 1 else 0))
    | "imag" => some (.int 0)
    | "denominator" => some (.int 1)
    | _ => none)
  | .int .. => pure (match key with
    | "real" | "numerator" => some v
    | "imag" => some (.int 0)
    | "denominator" => some (.int 1)
    | _ => none)
  | .float .. => pure (match key with
    | "real" => some v
    | "imag" => some (.float 0.0)
    | _ => none)
  | .complex x y _ => pure (match key with
    | "real" => some (.float x)
    | "imag" => some (.float y)
    | _ => none)
  | .range a b c _ => pure (match key with
    | "start" => some (.int a)
    | "stop" => some (.int b)
    | "step" => some (.int c)
    | _ => none)
  | .kind c => classAttribute? c name
  | .generic c items => match key with
    | "__origin__" => pure (some (.kind c))
    | "__args__" => pure (some (.ref items))
    | "__parameters__" => do pure (some (← newTuple []))
    | _ => classAttribute? c name
  | .block context n => match key with
    | "name" => pure (some (.str n))
    | "super" => do
      pure (some (← undefined ("there is no parent block called " ++ n.quoted ++ ".")))
    | "_depth" => pure (some (.int 0))
    | _ => pure (if key = "_context" then some (.ref context) else none)
  | .undefined _ message _ =>
    pure (if key = "_undefined_message" then some (.str message) else none)
  | .lipsum | .render _ | .method .. | .unbound .. => match functionNames h v, key with
    | some (n, _), "__name__" => pure (some (.str n))
    | some (_, n), "__qualname__" => pure (some (.str n))
    | _, "__self__" => pure (match v with
      | .method self _ => some self
      | _ => none)
    | _, _ => pure none
  | .ref id => match h.get id with
    | .tuple items names => match names.findIdx? (· == name) with
      | some n => pure items[n]?
      | none =>
        if key = "_fields" && !names.isEmpty then do
          pure (some (← newTuple (names.map fun n => .str n)))
        else pure none
    | .cycler items position => match key with
      | "current" => pure items[position]?
      | "pos" => pure (some (.int position))
      | "items" => do pure (some (← newTuple items.toList))
      | _ => pure none
    | .joiner separator used => pure (match key with
      | "sep" => some separator
      | "used" => some (.bool used)
      | _ => none)
    | .loop s => pure (loopAttribute? s key)
    | .procedure signature .. => match key with
      | "name" => pure (some (match signature.name with | some n => .str n | none => .none))
      | "arguments" => do
        pure (some (← newTuple (signature.formals.map fun f => .str f.name)))
      | "catch_kwargs" => pure (some (.bool signature.keywords.isSome))
      | "catch_varargs" => pure (some (.bool signature.rest.isSome))
      | "caller" => pure (some (.bool signature.takesCaller))
      | "explicit_caller" =>
        pure (some (.bool (signature.formals.any fun f => f.name == ("caller" : Text))))
      | _ => pure none
    | _ => pure none
  | _ => pure none

/-- The attribute of a namespace, if the value is one. -/
def spaceAttribute? (h : Heap) (v : Value) (name : Text) : Option (Option Value) :=
  match v with
  | .ref id => match h.get id with
    | .namespace es => some (es.ofName? name)
    | _ => none
  | _ => none

/-- The attribute that a value has by its class. -/
def sharedAttribute? (c : Class) (v : Value) (name : Text) : Exec (Option Value) := do
  if name == ("__hash__" : Text) && c.isUnhashable then pure (some .none)
  else if (c.member? name.toName).isSome then pure (some (.method v name))
  else match name.toName with
    | "__doc__" => pure (some .none)
    | "__module__" => pure (if c.isWritten then some (.str c.home) else none)
    | _ => match v.use? with
      | some f => if isSpecialName name then pure none else raise f
      | none => pure none

/-- The attribute of a value, if it has one. What a loop can tell only by looking ahead is left to its
caller. -/
def attribute? (v : Value) (name : Text) : Exec (Option Value) := do
  let h := (← machine).heap
  let c := v.classOf h
  if name == ("__class__" : Text) then pure (some (.kind c))
  else match spaceAttribute? h v name with
    | some found => pure found
    | none => match ← ownAttribute? v name with
      | some x => pure (some x)
      | none => sharedAttribute? c v name

/-- The value that stands for an attribute that is not there. -/
def noAttribute (v name : Value) : Exec Value := do
  let h := (← machine).heap
  undefined ((v.describe h).quoted ++ " has no attribute " ++ (← quoted name))

/-- The value that stands for an item that is not there. -/
def noItem (v index : Value) : Exec Value := do
  match index.asText? with
  | some _ => noAttribute v index
  | none => do
    let h := (← machine).heap
    undefined (v.describe h ++ " has no element " ++ (← quoted index))

/-- The failures that tell that a value has no such part. -/
def tellsAbsence (f : Raised) : Bool :=
  [Kind.wrongType, .missingAttribute, .missingKey, .badIndex, .lookup].contains f.kind

/-- An item of a value, unless there is none. -/
def item? (v index : Value) : Exec (Option Value) := do
  match ← attempt (subscript v index) with
  | .ok x => pure (some x)
  | .error f => if tellsAbsence f then pure none else raise f

/-- The attribute of a name, or else the item. -/
def getAttr (v : Value) (name : Text) : Exec Value := do
  match ← attribute? v name with
  | some x => pure x
  | none => match ← item? v (.str name .constant) with
    | some x => pure x
    | none => noAttribute v (.str name)

/-- The item of an index, or else the attribute. -/
def getItem (v index : Value) : Exec Value := do
  match ← item? v index with
  | some x => pure x
  | none => match index.asText? with
    | some name => match ← attribute? v name with
      | some x => pure x
      | none => noItem v index
    | none => noItem v index

end Template

end Stencil
