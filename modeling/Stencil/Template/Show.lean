import Stencil.Number.Decimal
import Stencil.Template.Members
import Stencil.Template.Value
import Stencil.Text.Markup

/-!
# Texts of values

How values are named, shown and judged true or false.

## Main definitions

- `Value.classOf`, `Value.describe` — the class of a value, and how messages speak of it
- `Value.quoted` — the form of a value inside a list
- `Value.text` — the text that a value is written as
- `Value.truth` — whether a condition holds
-/

namespace Stencil

namespace Template

/-- How deep containers may be nested in one another. -/
def nestingLimit : Nat := 900

/-- The failure to use a value that is not there. -/
def undefinedUse (message : Text) : Raised :=
  .ofText .undefinedUse message

def typeFailure (message : Text) : Raised :=
  .ofText .wrongType message

/-- A name with two underscores on both sides, as operators and the like have. -/
def isSpecialName (name : Text) : Bool :=
  Text.startsWith name "__" && Text.endsWith name "__" && 4 < name.length

/-- The class of a method of a class. -/
def Class.ofMethod (c : Class) (name : Text) : Class :=
  match c.member? name.toName with
  | some (owner, convention) =>
    if owner.isWritten then .method
    else match convention with
      | .operands .. => .wrapper
      | _ => if convention = .free ∧ isSpecialName name then .wrapper else .builtin
  | none => .builtin

namespace Value

/-- The class of a value. -/
def classOf (h : Heap) : Value → Class
  | none => .nothing
  | bool _ => .bool
  | int .. => .int
  | float .. => .float
  | complex .. => .complex
  | str .. => .str
  | safe .. => .safe
  | bytes .. => .bytes
  | range .. => .range
  | notImplemented => .notImplemented
  | missing => .missing
  | undefined true .. => .refusing
  | undefined false .. => .undefined
  | ref id => match h.get id with
    | .list _ => .list
    | .tuple _ [] => .tuple
    | .tuple _ _ => .group
    | .dict _ => .dict
    | .set _ => .set
    | .namespace _ => .namespace
    | .cycler .. => .cycler
    | .joiner .. => .joiner
    | .escapeHelper _ => .escapeHelper
    | .iterator name .. => .iterator name
    | .loop _ => .loop
    | .procedure .. => .procedure
    | .recursion .. => .function
    | .record .. | .context .. => .context
  | lipsum | render _ => .function
  | kind _ => .type
  | generic .. => .generic
  | unbound c name => .descriptor (c.descriptorOf name.toName)
  | method self name => (self.classOf h).ofMethod name
  | blocks _ => .blocks
  | block .. => .block
  | view part _ => .view part

/-- The name of a value's class. -/
def typeName (h : Heap) (v : Value) : Text :=
  (v.classOf h).name

/-- How messages about missing attributes speak of a value. -/
def describe (h : Heap) (v : Value) : Text :=
  match v with
  | none => "None"
  | v => (v.classOf h).fullName ++ " object"

/-- A complex number between parentheses, or only its imaginary part if the real part is a plain
zero. -/
def complexText (re im : Float) : Text :=
  let part (signed : Bool) (x : Float) : Text :=
    let t := Decimal.showFloat x
    let t := if Text.endsWith t ".0" then t.take (t.length - 2) else t
    if signed && !(Text.startsWith t "-") then 43 :: t else t
  if re == 0.0 && !Binary64.isNegative re then part false im ++ "j"
  else "(" ++ part false re ++ part true im ++ "j)"

/-- The order in which a set shows its items: numbers by their places in the table, as far as they
are small. -/
def setOrder (items : List Value) : List Value :=
  let small (v : Value) : Option Nat := match v with
    | int i _ => if 0 ≤ i ∧ i < 8 then some i.toNat else Option.none
    | bool b => some (if b then 1 else 0)
    | _ => Option.none
  if items.length < 5 && items.all fun v => (small v).isSome then
    items.mergeSort fun a b => (small a).getD 0 ≤ (small b).getD 0
  else items

/-- The form of a value inside a container. `open` are the containers being shown, in which a container
that holds itself is abbreviated. -/
def quotedWith (h : Heap) : Nat → List Nat → Value → Except Raised Text
  | 0, _, _ =>
    .error (.ofText .recursion
      "maximum recursion depth exceeded while getting the repr of an object")
  | fuel + 1, shown, v =>
    let each (shown : List Nat) (vs : List Value) : Except Raised (List Text) :=
      vs.mapM (quotedWith h fuel shown)
    let entry (shown : List Nat) (e : Value × Value) : Except Raised Text := do
      let k ← quotedWith h fuel shown e.1
      let x ← quotedWith h fuel shown e.2
      pure (k ++ ": " ++ x)
    match v with
    | none => .ok "None"
    | bool true => .ok "True"
    | bool false => .ok "False"
    | int i _ => intText i
    | float x _ => .ok (Decimal.showFloat x)
    | complex x y _ => .ok (complexText x y)
    | str t _ => .ok t.quoted
    | safe t _ => .ok ("Markup(" ++ t.quoted ++ ")")
    | bytes b _ => .ok (quotedBytes b)
    | range a b c _ => do
      let a ← intText a
      let b ← intText b
      if c = 1 then pure ("range(" ++ a ++ ", " ++ b ++ ")")
      else pure ("range(" ++ a ++ ", " ++ b ++ ", " ++ (← intText c) ++ ")")
    | notImplemented => .ok "NotImplemented"
    | missing => .ok "missing"
    | undefined .. => .ok "Undefined"
    | kind c => .ok ("<class " ++ c.fullName.quoted ++ ">")
    | lipsum => .ok "<function generate_lorem_ipsum>"
    | render _ => .ok "<function Renderer._nested_renderer.<locals>.render>"
    | method _ n => .ok ("<built-in method " ++ n ++ ">")
    | generic c d => match h.get d with
      | .tuple items _ => do
        let each ← items.toList.mapM fun v => match v with
          | kind c => pure c.fullName
          | v => quotedWith h fuel shown v
        pure (c.name ++ "[" ++ (if each.isEmpty then ("()" : Text) else Text.join ", " each) ++ "]")
      | _ => .ok c.name
    | unbound c n =>
      .ok ("<" ++ (c.descriptorOf n.toName).titles.1 ++ " " ++ n.quoted ++ " of " ++ c.name.quoted ++
        " objects>")
    | blocks c => match h.get c with
      | .context name .. => .ok ("<TemplateReference " ++ name.quoted ++ ">")
      | _ => .ok "<TemplateReference>"
    | block .. => .ok "<jinja2.runtime.BlockReference object>"
    | view part d => match h.get d with
      | .dict entries => do
        let items ← match part with
          | .keys => each shown (entries.toList.map (·.1))
          | .values => each shown (entries.toList.map (·.2))
          | .items => entries.toList.mapM fun e => do
            let k ← quotedWith h fuel shown e.1
            let x ← quotedWith h fuel shown e.2
            pure ("(" ++ k ++ ", " ++ x ++ ")")
        pure ("dict_" ++ part.name ++ "([" ++ Text.join ", " items ++ "])")
      | _ => .ok "dict_keys([])"
    | ref id =>
      let isOpen := shown.contains id
      let shown := id :: shown
      match h.get id with
      | .list items => do
        if isOpen then pure "[...]"
        else pure ("[" ++ Text.join ", " (← each shown items.toList) ++ "]")
      | .tuple items _ => do
        if isOpen then pure "(...)"
        else match ← each shown items.toList with
          | [one] => pure ("(" ++ one ++ ",)")
          | several => pure ("(" ++ Text.join ", " several ++ ")")
      | .set items => do
        if items.isEmpty then pure "set()"
        else
          pure ("\x7b" ++ Text.join ", " (← each shown (setOrder items.toList)) ++ "\x7d")
      | .dict entries => do
        if isOpen then pure "\x7b...\x7d"
        else
          pure ("\x7b" ++ Text.join ", " (← entries.toList.mapM (entry shown)) ++ "\x7d")
      | .namespace entries => do
        if isOpen then pure "<Namespace \x7b...\x7d>"
        else
          let body ← entries.toList.mapM (entry shown)
          pure ("<Namespace \x7b" ++ Text.join ", " body ++ "\x7d>")
      | .procedure signature .. => match signature.name with
        | some n => .ok ("<Macro " ++ n.quoted ++ ">")
        | Option.none => .ok "<Macro anonymous>"
      | .escapeHelper v => do pure (Markup.escape (← quotedWith h fuel shown v))
      | _ => .ok ("<" ++ describe h v ++ ">")

/-- The form of a value inside a container. -/
def quoted (h : Heap) (v : Value) : Except Raised Text :=
  quotedWith h nestingLimit [] v

/-- The text that a value is written as. -/
def text (h : Heap) : Value → Except Raised Text
  | str t _ => .ok t
  | safe t _ => .ok t
  | undefined false .. => .ok []
  | undefined true message _ => .error (undefinedUse message)
  | ref id => match h.get id with
    | .escapeHelper v => match v with
      | str t _ => .ok (Markup.escape t)
      | safe t _ => .ok t
      | undefined false .. => .ok []
      | undefined true message _ => .error (undefinedUse message)
      | v => (v.quoted h).map Markup.escape
    | _ => (ref id).quoted h
  | v => v.quoted h

/-- The number of values in a range. -/
def rangeLength (start stop step : Int) : Nat :=
  if 0 < step then if start < stop then ((stop - start + step - 1) / step).toNat else 0
  else if step < 0 then if stop < start then ((start - stop - step - 1) / -step).toNat else 0
  else 0

/-- Whether a value counts as true. -/
def truth (h : Heap) : Value → Except Raised Bool
  | none => .ok false
  | bool b => .ok b
  | int i _ => .ok (i != 0)
  | float x _ => .ok (x != 0.0)
  | complex x y _ => .ok (x != 0.0 || y != 0.0)
  | str t _ => .ok (!t.isEmpty)
  | safe t _ => .ok (!t.isEmpty)
  | bytes b _ => .ok (!b.isEmpty)
  | range a b c _ => .ok (rangeLength a b c != 0)
  | undefined false .. => .ok false
  | undefined true message _ => .error (undefinedUse message)
  | view _ d => match h.get d with
    | .dict entries => .ok (!entries.isEmpty)
    | _ => .ok true
  | ref id => match h.get id with
    | .list items => .ok (!items.isEmpty)
    | .tuple items _ => .ok (!items.isEmpty)
    | .set items => .ok (!items.isEmpty)
    | .dict entries => .ok (!entries.isEmpty)
    | _ => .ok true
  | _ => .ok true

/-- Whether the value is a text, safe or not, and which. -/
def asText? : Value → Option Text
  | str t _ => some t
  | safe t _ => some t
  | _ => Option.none

end Value

namespace Exec

def typeName (v : Value) : Exec Text := fun m =>
  .done (.ok (v.typeName m.heap)) m

def text (v : Value) : Exec Text := fun m =>
  .done (v.text m.heap) m

def quoted (v : Value) : Exec Text := fun m =>
  .done (v.quoted m.heap) m

def truth (v : Value) : Exec Bool := fun m =>
  .done (v.truth m.heap) m

def typeError {α : Type} (message : Text) : Exec α :=
  raise (typeFailure message)

end Exec

end Template

end Stencil
