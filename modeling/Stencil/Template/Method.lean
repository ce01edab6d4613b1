import Stencil.Template.Method.Construct

/-!
# Methods

All methods of all values, by the value's class and the method's name.

## Main definitions

- `callMethod` — a method with its arguments
- `callUnbound` — a method of a class, applied to a value
-/

namespace Stencil

namespace Template

open Exec

/-- The refusal of a method that is out of reach. -/
def unavailable {α : Type} (name : Text) : Exec α :=
  typeError ("'" ++ name ++ "' is not available")

namespace LoopMethod

/-- The item whose turn it is in this round. -/
def cycle (s : LoopState) (args : CallArgs) : Exec Value := do
  match args.positional with
  | [] => typeError "no items for cycling given"
  | items => pure (items.getD (s.index0 % (items.length : Int)).toNat .none)

/-- Whether the values are those of the last time. -/
def isUnchanged (s : LoopState) (values : List Value) : Exec Bool := do
  match s.lastChanged with
  | some before => onHeap fun h => Value.allEqual (Value.alike h) before values
  | none => pure false

/-- Whether the values differ from those of the last time. -/
def changed (id : Nat) (s : LoopState) (args : CallArgs) : Exec Value := do
  let values := args.positional
  if ← isUnchanged s values then pure (.bool false)
  else do
    store id (.loop { s with lastChanged := some (← keepAll values) })
    pure (.bool true)

/-- The methods of a loop that take any arguments. -/
def call (id : Nat) (s : LoopState) (owner : Class) (name : Text) (args : CallArgs) : Exec Value := do
  match args.keywords with
  | (n, _) :: _ =>
    typeError (owner.name ++ "." ++ name ++ "() got an unexpected keyword argument " ++ n.quoted)
  | [] => if name.toName = "cycle" then cycle s args else changed id s args

end LoopMethod

/-- The methods of objects that take any arguments. -/
def callFreeObject (E : Engine) (id : Nat) (owner : Class) (name : Text) (args : CallArgs) :
    Exec Value := do
  match ← fetch id with
  | .dict es => if name.toName = "update" then DictMethod.update E id es args else unavailable name
  | .loop s =>
    if ["cycle", "changed"].contains name.toName then LoopMethod.call id s owner name args
    else unavailable name
  | _ => unavailable name

/-- The methods that take any arguments. -/
def callFree (E : Engine) (self : Value) (owner : Class) (name : Text) (args : CallArgs) :
    Exec Value := do
  match self with
  | .undefined _ message _ => raise (undefinedUse message)
  | self =>
    if name.toName = "__call__" then E.call self args
    else if name.toName = "__init__" then pure .none
    else match self with
      | .str t _ =>
        if name.toName = "format" then Braces.format (.ofCall args) t else unavailable name
      | .safe t _ => if name.toName = "format" then SafeMethod.format t args else unavailable name
      | .ref id => callFreeObject E id owner name args
      | _ => unavailable name

/-- A method of a value that has no other than to be called. -/
def callCallable (E : Engine) (self : Value) (name : String) (given : Given) : Exec Value :=
  match name with
  | "__call__" => E.call self { positional := given.filterMap (·) }
  | _ => unavailable name

/-- The methods of a cycler. -/
def callCycler (E : Engine) (id : Nat) (items : Array Value) (position : Nat) (name : String)
    (given : Given) : Exec Value := do
  match name with
  | "next" | "__next__" => do
    store id (.cycler items ((position + 1) % items.size))
    pure (items.getD position .none)
  | "reset" => do
    store id (.cycler items 0)
    pure .none
  | _ => callCallable E (.ref id) name given

/-- A method whose arguments have been matched. -/
def applyMethod (E : Engine) (self : Value) (name : String) (given : Given) : Exec Value := do
  match self with
  | .str t _ => Strings.call E { flavour := .text, content := t, self } name given
  | .safe t _ => SafeMethod.call E self t name given
  | .bytes b _ =>
    Strings.call E { flavour := .binary, content := b.map UInt8.toNat, self } name given
  | .bool b => match name with
    | "from_bytes" => do pure (.bool ((← NumberMethod.fromBytes E given) ≠ 0))
    | _ => NumberMethod.ofInt (if b then 1 else 0) name given
  | .int i _ => match name with
    | "from_bytes" => do pure (.int (← NumberMethod.fromBytes E given))
    | _ => NumberMethod.ofInt i name given
  | .float x _ => match name with
    | "fromhex" => NumberMethod.fromHex (given.get 0)
    | _ => NumberMethod.ofReal x name given
  | .complex x y _ => NumberMethod.ofComplex x y name
  | .range a b c _ => SequenceMethod.ofRange E self a b c name given
  | .view .. => match name with
    | "isdisjoint" => do pure (.bool (← SetMethod.areDisjoint E self (given.get 0)))
    | _ => unavailable name
  | .ref id => match ← fetch id with
    | .list items => ListMethod.call E id items name given
    | .tuple items _ => SequenceMethod.ofTuple items.toList name given
    | .dict es => DictMethod.call E id es name given
    | .set items => SetMethod.call E self id items.toList name given
    | .cycler items position => callCycler E id items position name given
    | .loop _ => if name = "__aiter__" then pure self else callCallable E self name given
    | _ => callCallable E self name given
  | _ => callCallable E self name given

/-- A value laid out as an object is, which knows no specification. -/
def plainLayout (c : Class) (self : Value) (given : Given) : Exec Value := do
  match given with
  | [some (.str [] _)] => do pure (.str (← text self))
  | [some (.str ..)] | [some (.safe ..)] =>
    typeError ("unsupported format string passed to " ++ c.name ++ ".__format__")
  | _ => do
    typeError ("__format__() argument must be str, not " ++ (← Strings.shownType (given.get 0)))

/-- A method with a name between underscores. It was taken either from a value of the class `c` or from
a class, and `owner` defines it. -/
def callSpecial (E : Engine) (self : Value) (c owner : Class) (source : Option Class) (name : String)
    (given : Given) : Exec Value := do
  match self with
  | .undefined strict message _ => OperandMethod.ofUndefined self strict message name given
  | _ =>
    if source = some .object ∧ name = "__str__" then do pure (.str (← quoted self))
    else if source = some .object ∧ name = "__format__" then plainLayout c self given
    else if owner.isWritten then applyMethod E self name given
    else match ← OperandMethod.call? E self name given with
      | some x => pure x
      | none => applyMethod E self name given

/-- Call a method of a value of the class `c`. The method was taken either from the value or from a
class. -/
def callMember (E : Engine) (self : Value) (c : Class) (name : Text) (args : CallArgs)
    (source : Option Class) : Exec Value := do
  let key := name.toName
  match c.member? key with
  | none => unavailable name
  | some (owner, .free) => callFree E self owner name args
  | some (owner, convention) =>
    let title := source.getD (c.naming key)
    let given ← args.take title.name name convention source.isSome
    if isSpecialName name then callSpecial E self c owner source key given
    else applyMethod E self key given

/-- Call a method of a value. The method was taken either from the value or from a class. -/
def callMethod (E : Engine) (self : Value) (name : Text) (args : CallArgs)
    (source : Option Class := none) : Exec Value := do
  match self, source with
  | .kind c, none => c.callOwn E name args
  | _, _ => callMember E self (self.classOf (← machine).heap) name args source

/-- Call a method of a class with a value in front of the arguments. -/
def callUnbound (E : Engine) (c : Class) (name : Text) (args : CallArgs) : Exec Value := do
  let isOperand := match c.convention? name.toName with
    | some (.operands ..) => true
    | _ => false
  match args.positional with
  | [] =>
    if c.isWritten then
      typeError (c.name ++ "." ++ name ++ "() missing 1 required positional argument: 'self'")
    else if isOperand then
      typeError ("descriptor " ++ name.quoted ++ " of '" ++ c.name ++ "' object needs an argument")
    else typeError ("unbound method " ++ c.name ++ "." ++ name ++ "() needs an argument")
  | self :: rest =>
    let d := self.classOf (← machine).heap
    if !d.isA c then
      if isOperand then
        typeError ("descriptor " ++ name.quoted ++ " requires a '" ++ c.name ++
          "' object but received a '" ++ d.name ++ "'")
      else
        typeError ("descriptor " ++ name.quoted ++ " for '" ++ c.name ++
          "' objects doesn't apply to a '" ++ d.name ++ "' object")
    else callMethod E self name { args with positional := rest } (some c)

end Template

end Stencil
