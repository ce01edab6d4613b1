import Stencil.Template.Access
import Stencil.Template.Call

/-!
# Iteration

Iterators over values, and the values that an iteration yields.

## Main definitions

- `openIterator` — an iterator over a value
- `openWaiting` — the same, where asynchronous iterators are welcome too
- `collect`, `collectWaiting` — all values that such an iterator yields
- `lengthOf` — the number of items of a value
-/

namespace Stencil

namespace Template

open Exec

/-- How often one iteration may go round. -/
def roundLimit : Nat := 10000000

def notIterable {α : Type} (v : Value) : Exec α := do
  let t ← typeName v
  typeError ("'" ++ t ++ "' object is not iterable")

/-- The values of an iterator that are left. -/
def drain (E : Engine) (id : Nat) : Exec (List Value) :=
  go roundLimit []
where
  go : Nat → List Value → Exec (List Value)
  | 0, _ => fail .memory []
  | fuel + 1, acc => do
    match ← E.next id with
    | some v => go fuel (v :: acc)
    | none => pure acc.reverse

/-- An item of a dictionary as a part of it shows it. -/
def viewItem (part : View) (e : Value × Value) : Exec Value :=
  match part with
  | .keys => pure e.1
  | .values => pure e.2
  | .items => newTuple [e.1, e.2]

/-- The values of a value that need no evaluation. -/
def plainItems? (v : Value) : Exec (Option (List Value)) := do
  match v with
  | .str t _ | .safe t _ => pure (some (t.map fun c => .str [c]))
  | .bytes b _ => pure (some (b.map fun x => .int x.toNat))
  | .range a b c _ =>
    let n := Value.rangeLength a b c
    if roundLimit < n then fail .memory []
    else pure (some ((List.range n).map fun (k : Nat) => .int (a + (k : Int) * c)))
  | .undefined false .. => pure (some [])
  | .undefined true message _ => raise (undefinedUse message)
  | .view part d => match ← fetch d with
    | .dict es => do pure (some (← forEach es.toList (viewItem part)))
    | _ => pure none
  | .blocks _ => do
    discard (subscript v (.int 0))
    pure (some [])
  | .ref id => match ← fetch id with
    | .list items => pure (some items.toList)
    | .tuple items _ => pure (some items.toList)
    | .set items => pure (some (Value.setOrder items.toList))
    | .dict es => pure (some (es.toList.map (·.1)))
    | _ => pure none
  | _ => pure none

/-- Whether a value can be iterated over without waiting. -/
def isIterable (v : Value) : Exec Bool := do
  match v with
  | .str .. | .safe .. | .bytes .. | .range .. | .undefined .. | .view .. | .blocks _ => pure true
  | .ref id => match ← fetch id with
    | .list _ | .tuple .. | .set _ | .dict _ | .loop _ => pure true
    | .iterator _ asynchronous _ => pure !asynchronous
    | _ => pure false
  | _ => pure false

/-- The number of items of a value. -/
def lengthOf (v : Value) : Exec Nat := do
  let refuse : Exec Nat := do
    typeError ("object of type '" ++ (← typeName v) ++ "' has no len()")
  match v with
  | .str t _ | .safe t _ => pure t.length
  | .bytes b _ => pure b.length
  | .range a b c _ =>
    let n := Value.rangeLength a b c
    if Nat.pow 2 63 ≤ n then fail .overflow "Python int too large to convert to C ssize_t"
    else pure n
  | .undefined false .. => pure 0
  | .undefined true message _ => raise (undefinedUse message)
  | .view _ d => match ← fetch d with
    | .dict es => pure es.size
    | _ => refuse
  | .ref id => match ← fetch id with
    | .list items | .tuple items _ | .set items => pure items.size
    | .dict es => pure es.size
    | .loop _ => typeError "'coroutine' object cannot be interpreted as an integer"
    | _ => refuse
  | _ => refuse

/-- The name of the class of iterators over a value. -/
def iteratorName (h : Heap) : Value → Text
  | .str t _ | .safe t _ => if t.isAscii then "str_ascii_iterator" else "str_iterator"
  | .bytes .. => "bytes_iterator"
  | .range .. => "range_iterator"
  | .view .keys _ => "dict_keyiterator"
  | .view .values _ => "dict_valueiterator"
  | .view .items _ => "dict_itemiterator"
  | .ref id => match h.get id with
    | .list _ => "list_iterator"
    | .tuple .. => "tuple_iterator"
    | .set _ => "set_iterator"
    | .dict _ => "dict_keyiterator"
    | _ => "iterator"
  | _ => "iterator"

/-- An iterator over a value. Lists and dictionaries are followed as they change. -/
def openIterator (v : Value) : Exec Nat := do
  let name := iteratorName (← machine).heap v
  let make (s : Source) : Exec Nat := alloc (.iterator name false s)
  let plain : Exec Nat := do
    match ← plainItems? v with
    | some vs => make (.values vs)
    | none => notIterable v
  match v with
  | .range a b c _ => make (.counting a b c)
  | .ref id => match ← fetch id with
    | .iterator _ false _ => pure id
    | .iterator _ true _ => notIterable v
    | .list _ => make (.live id 0)
    | .dict es => make (.entries id .keys es.size 0)
    | .loop s => do
      let t ← typeName (.ref s.iterator)
      typeError ("'" ++ t ++ "' object is not an iterator")
    | _ => plain
  | .view part d => match ← fetch d with
    | .dict es => make (.entries d part es.size 0)
    | _ => plain
  | _ => plain

/-- An iterator over a value, asynchronous ones included. -/
def openWaiting (v : Value) : Exec Nat := do
  match v with
  | .ref id => match ← fetch id with
    | .iterator .. => pure id
    | .loop _ => alloc (.iterator "iterator" true (.rounds id))
    | _ => openIterator v
  | _ => openIterator v

/-- The values of a value. -/
def collect (E : Engine) (v : Value) : Exec (List Value) := do
  match v with
  | .ref id => match ← fetch id with
    | .iterator _ false _ | .loop _ => do drain E (← openIterator v)
    | _ => match ← plainItems? v with
      | some vs => pure vs
      | none => notIterable v
  | _ => match ← plainItems? v with
    | some vs => pure vs
    | none => notIterable v

/-- The values of a value, asynchronous iterators included. -/
def collectWaiting (E : Engine) (v : Value) : Exec (List Value) := do
  match v with
  | .ref id => match ← fetch id with
    | .iterator .. | .loop _ => do drain E (← openWaiting v)
    | _ => collect E v
  | _ => collect E v

/-- The values of a value for an assignment to several places. -/
def unpack (E : Engine) (count : Nat) (v : Value) : Exec (List Value) := do
  if !(← isIterable v) then
    let t ← typeName v
    typeError ("cannot unpack non-iterable " ++ t ++ " object")
  else
    let vs ← collect E v
    if vs.length < count then
      fail .badValue ("not enough values to unpack (expected " ++ Text.ofNat count ++ ", got " ++
        Text.ofNat vs.length ++ ")")
    else if count < vs.length then
      fail .badValue ("too many values to unpack (expected " ++ Text.ofNat count ++ ")")
    else pure vs

/-- The entries that a value gives to a dictionary: those of a mapping, or pairs. -/
def entriesOf (E : Engine) (v : Value) : Exec (List (Value × Value)) := do
  let direct ← match v with
    | .ref id => match ← fetch id with
      | .dict es => pure (some es.toList)
      | _ => pure none
    | .undefined _ message _ => raise (undefinedUse message)
    | .kind .dict => typeError "unbound method dict.keys() needs an argument"
    | _ => pure none
  match direct with
  | some es => pure es
  | none =>
    let vs ← collect E v
    go 0 vs
where
  go (n : Nat) : List Value → Exec (List (Value × Value))
  | [] => pure []
  | v :: rest => do
    if !(← isIterable v) then
      typeError ("cannot convert dictionary update sequence element #" ++ Text.ofNat n ++
        " to a sequence")
    else match ← collect E v with
      | [k, x] => do pure ((k, x) :: (← go (n + 1) rest))
      | parts =>
        fail .badValue ("dictionary update sequence element #" ++ Text.ofNat n ++ " has length " ++
          Text.ofNat parts.length ++ "; 2 is required")

end Template

end Stencil
