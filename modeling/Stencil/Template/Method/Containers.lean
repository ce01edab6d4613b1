import Stencil.Template.Method.Strings
import Stencil.Template.Sorting

/-!
# Methods of containers

What templates can call on lists, tuples and ranges, on dictionaries and their parts, and on sets.

## Main definitions

- `ListMethod.call`, `SequenceMethod.call` — methods of sequences that can change, and of others
- `DictMethod.call` — methods of dictionaries
- `SetMethod.call` — methods of sets and of the parts of a dictionary
-/

namespace Stencil

namespace Template

open Exec

abbrev Given := Strings.Given

/-- Where a value is among others. -/
def indexOf (v : Value) (vs : List Value) : Exec (Option Nat) :=
  findIndex (fun x => alike x v) vs

def countOf (v : Value) (vs : List Value) : Exec Nat := do
  let hits ← forEach vs fun x => alike x v
  pure (hits.filter id).length

/-- A bound of a search among items. -/
def searchBound (v : Value) : Exec Int := do
  match index? v with
  | some i => pure i
  | none => typeError "slice indices must be integers or have an __index__ method"

/-- The position of a value among items, between bounds. -/
def indexWithin (items : List Value) (given : Given) : Exec (Option Nat) := do
  let n := items.length
  let bound (k : Nat) (default : Nat) : Exec Nat := do
    match given.at? k with
    | none => pure default
    | some v => do
      let i ← searchBound v
      let i := if i < 0 then max (i + n) 0 else i
      pure (min i.toNat n)
  let a ← bound 1 0
  let b ← bound 2 n
  let found ← indexOf (given.get 0) ((items.take b).drop a)
  pure (found.map (· + a))

namespace ListMethod

/-- A position as an insertion takes it. -/
def place (size : Nat) (i : Int) : Nat :=
  let i := if i < 0 then i + size else i
  min (max i 0).toNat size

/-- An item with the key that a function gives it; without a function it is its own key. -/
def keyedBy (E : Engine) (f v : Value) : Exec Keyed := do
  match f with
  | .none => pure { keys := [v], item := v }
  | f => do pure { keys := [← E.call f { positional := [v] }], item := v }

/-- Whether the key of an item is less than that of another. -/
def keyLess (a b : Keyed) : Exec Bool := do
  match a.keys, b.keys with
  | x :: _, y :: _ => less x y
  | _, _ => pure false

/-- Items in the order of their keys. -/
def sorted (E : Engine) (f : Value) (descending : Bool) (items : List Value) : Exec (List Value) := do
  let keyed ← forEach items (keyedBy E f)
  pure ((← sortWith keyLess descending keyed).map (·.item))

/-- Sort the items of a list, which is empty meanwhile. -/
def sort (E : Engine) (id : Nat) (items : List Value) (given : Given) : Exec Value := do
  let descending ← match given.at? 1 with
    | some v => do pure (decide ((← asSmall v) ≠ 0))
    | none => pure false
  store id (.list #[])
  match ← attempt (sorted E (given.get 0) descending items) with
  | .ok sorted => do
    store id (.list sorted.toArray)
    pure .none
  | .error f => do
    store id (.list items.toArray)
    raise f

def call (E : Engine) (id : Nat) (items : Array Value) (name : String) (given : Given) :
    Exec Value := do
  let put (items : Array Value) : Exec Value := do
    store id (.list items)
    pure .none
  let first := given.get 0
  match name with
  | "append" => do put (items.push (← keep first))
  | "extend" => do
    let more ← collect E first
    put (items ++ (← keepAll more).toArray)
  | "insert" => do
    let n := place items.size (← asSize first)
    put (items.toList.take n ++ (← keep (given.get 1)) :: items.toList.drop n).toArray
  | "pop" => do
    let i ← match given.at? 0 with
      | some v => asSize v
      | none => pure (-1)
    if items.isEmpty then fail .badIndex "pop from empty list"
    else match position? items.size i with
      | some n => do
        discard (put (items.eraseIdxIfInBounds n))
        pure (items.getD n .none)
      | none => fail .badIndex "pop index out of range"
  | "remove" => do
    match ← indexOf first items.toList with
    | some n => put (items.eraseIdxIfInBounds n)
    | none => fail .badValue "list.remove(x): x not in list"
  | "clear" => put #[]
  | "reverse" => put items.reverse
  | "copy" => newList items.toList
  | "count" => do pure (.int (← countOf first items.toList))
  | "index" => do
    match ← indexWithin items.toList given with
    | some n => pure (.int n)
    | none => do fail .badValue ((← quoted first) ++ " is not in list")
  | "sort" => sort E id items.toList given
  | _ => typeError ("'" ++ (name : Text) ++ "' is not available")

end ListMethod

namespace SequenceMethod

/-- The methods of tuples. -/
def ofTuple (items : List Value) (name : String) (given : Given) : Exec Value := do
  match name with
  | "count" => do pure (.int (← countOf (given.get 0) items))
  | "index" => do
    match ← indexWithin items given with
    | some n => pure (.int n)
    | none => fail .badValue "tuple.index(x): x not in tuple"
  | "__getnewargs__" => do newTuple [← newTuple items]
  | _ => typeError ("'" ++ (name : Text) ++ "' is not available")

/-- The methods of ranges. An integer is found without looking at all others. -/
def ofRange (E : Engine) (self : Value) (start stop step : Int) (name : String) (given : Given) :
    Exec Value := do
  let v := given.get 0
  match index? v, name with
  | some i, "count" => pure (.int (if inRange start stop step i then 1 else 0))
  | some i, "index" =>
    if inRange start stop step i then pure (.int ((i - start) / step))
    else do fail .badValue ((← quoted v) ++ " is not in range")
  | none, "count" => do pure (.int (← countOf v (← collect E self)))
  | none, "index" => do
    match ← indexOf v (← collect E self) with
    | some n => pure (.int n)
    | none => fail .badValue "sequence.index(x): x not in sequence"
  | _, _ => typeError ("'" ++ (name : Text) ++ "' is not available")

end SequenceMethod

namespace DictMethod

/-- New entries: those of an argument, if there is one, and the keywords. -/
def new (E : Engine) (name : Text) (args : CallArgs) : Exec (List (Value × Value)) := do
  CallArgs.checkPositions name 0 1 args.positional.length
  let first ← match args.positional with
    | v :: _ => entriesOf E v
    | [] => pure []
  pure (first ++ args.keywords.map fun (k, v) => (.str k, v))

/-- A dictionary of entries, of which later ones override earlier ones. -/
def ofEntries (entries : List (Value × Value)) : Exec Value := do
  let entries ← keepPairs entries
  let es ← onHeap fun h => Entries.insertAll h #[] entries
  newDict es.toList

/-- A dictionary of keys that all have one value. -/
def fromKeys (E : Engine) (given : Given) : Exec Value := do
  let keys ← collect E (given.get 0)
  let v ← keep (given.get 1)
  ofEntries (keys.map fun k => (k, v))

def call (E : Engine) (id : Nat) (es : Entries) (name : String) (given : Given) : Exec Value := do
  let put (es : Entries) : Exec Unit := store id (.dict es)
  let key := given.get 0
  let find : Exec (Option Value) := onHeap fun h => es.find? h key
  match name with
  | "keys" => pure (.view .keys id)
  | "values" => pure (.view .values id)
  | "items" => pure (.view .items id)
  | "get" => do
    match ← find with
    | some v => pure v
    | none => pure (given.get 1)
  | "pop" => do
    if es.isEmpty then
      match given.at? 1 with
      | some v => pure v
      | none => keyFailure key
    else match ← find with
      | some v => do
        put (← onHeap fun h => es.erase h key)
        pure v
      | none => match given.at? 1 with
        | some v => pure v
        | none => keyFailure key
  | "popitem" => do
    match es.back? with
    | some (k, v) => do
      put es.pop
      newTuple [k, v]
    | none => fail .missingKey "'popitem(): dictionary is empty'"
  | "setdefault" => do
    match ← find with
    | some v => pure v
    | none => do
      let v ← keep (given.get 1)
      let key ← keep key
      put (← onHeap fun h => es.insert h key v)
      pure v
  | "clear" => do
    put #[]
    pure .none
  | "copy" => newDict es.toList
  | "fromkeys" => fromKeys E given
  | _ => typeError ("'" ++ (name : Text) ++ "' is not available")

/-- Add the entries of an argument and the keywords. -/
def update (E : Engine) (id : Nat) (es : Entries) (args : CallArgs) : Exec Value := do
  let more ← keepPairs (← new E "update" args)
  store id (.dict (← onHeap fun h => es.insertAll h more))
  pure .none

end DictMethod

namespace SetMethod

/-- The values among others that are, or are not, alike some of a list. -/
def selected (keep : Bool) (vs others : List Value) : Exec (List Value) := do
  let marked ← forEach vs fun v => do pure ((← amongst v others) == keep, v)
  pure ((marked.filter (·.1)).map (·.2))

/-- The values of arguments that must be hashable, one after the other. -/
def valuesOf (E : Engine) (v : Value) : Exec (List Value) := do
  distinctValues (← collect E v)

/-- Whether a value and a set have no values in common. -/
def areDisjoint (E : Engine) (self other : Value) : Exec Bool := do
  let mine ← collect E self
  let theirs ← collect E other
  forAll (fun v => onHeap fun h => Value.hashable h v) theirs
  pure (← selected true theirs mine).isEmpty

def call (E : Engine) (self : Value) (id : Nat) (items : List Value) (name : String)
    (given : Given) : Exec Value := do
  let first := given.get 0
  let others : Exec (List (List Value)) := forEach (given.filterMap (·)) (valuesOf E)
  let put (vs : List Value) : Exec Value := do
    store id (.set (← keepAll vs).toArray)
    pure .none
  let hashable : Exec Unit := onHeap fun h => Value.hashable h first
  let symmetric : Exec (List Value) := do
    let other ← valuesOf E first
    pure ((← selected false items other) ++ (← selected false other items))
  let intersection : Exec (List Value) := do
    fold (fun vs other => selected true vs other) items (← others)
  let difference : Exec (List Value) := do
    fold (fun vs other => selected false vs other) items (← others)
  let union : Exec (List Value) := do
    distinctValues (items ++ (← others).flatten)
  match name with
  | "add" => do
    hashable
    put (← distinctValues (items ++ [first]))
  | "discard" => do
    hashable
    put (← selected false items [first])
  | "remove" => do
    hashable
    if ← amongst first items then put (← selected false items [first]) else keyFailure first
  | "pop" => match Value.setOrder items with
    | [] => fail .missingKey "'pop from an empty set'"
    | v :: rest => do
      discard (put rest)
      pure v
  | "clear" => put []
  | "copy" => newSet items
  | "isdisjoint" => do pure (.bool (← areDisjoint E self first))
  | "issubset" => do
    pure (.bool (← selected false items (← valuesOf E first)).isEmpty)
  | "issuperset" => do
    pure (.bool (← selected false (← valuesOf E first) items).isEmpty)
  | "symmetric_difference" => do newSet (← symmetric)
  | "symmetric_difference_update" => do put (← symmetric)
  | "intersection" => do newSet (← intersection)
  | "intersection_update" => do put (← intersection)
  | "difference" => do newSet (← difference)
  | "difference_update" => do put (← difference)
  | "union" => do newSet (← union)
  | "update" => do put (← union)
  | _ => typeError ("'" ++ (name : Text) ++ "' is not available")

end SetMethod

end Template

end Stencil
