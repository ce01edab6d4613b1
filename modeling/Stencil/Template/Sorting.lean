import Stencil.Template.Iteration
import Stencil.Text.Letters
import Stencil.Text.Numeral

/-!
# Sorting values

Sorting by an order that may fail. The order in which items are compared decides which failure is
reported, so it is fixed: the run at the head of the list is kept, or turned around if it descends, and
every later item is put in its place by bisection.

## Main definitions

- `sortBy` — stable sorting
- `Keyed` — items with the keys they are sorted by
- `getter`, `multiGetter` — the attributes that name such keys
-/

namespace Stencil

namespace Template

open Exec

variable {α : Type}

/-- How many more items continue a run. -/
def runLength (continues : α → α → Exec Bool) (previous : α) : List α → Exec Nat
  | [] => pure 0
  | x :: rest => do
    if ← continues x previous then pure ((← runLength continues x rest) + 1) else pure 0

/-- Where to insert an item behind all items that are not greater. -/
def bisect (less : α → α → Exec Bool) (sorted : Array α) (x : α) : Nat → Nat → Nat → Exec Nat
  | 0, low, _ => pure low
  | fuel + 1, low, high => do
    if low < high then
      let middle := low + (high - low) / 2
      match sorted[middle]? with
      | some y =>
        if ← less x y then bisect less sorted x fuel low middle
        else bisect less sorted x fuel (middle + 1) high
      | none => pure low
    else pure low

def insertAll (less : α → α → Exec Bool) (sorted : Array α) : List α → Exec (Array α)
  | [] => pure sorted
  | x :: rest => do
    let n ← bisect less sorted x (sorted.size + 1) 0 sorted.size
    insertAll less (sorted.toList.take n ++ x :: sorted.toList.drop n).toArray rest

/-- The items in order; equal ones keep their places. -/
def sortBy (less : α → α → Exec Bool) : List α → Exec (List α)
  | [] => pure []
  | [x] => pure [x]
  | x :: y :: rest => do
    let descends ← less y x
    let more ← runLength (fun b a => do
      let l ← less b a
      pure (if descends then l else !l)) y rest
    let run := x :: y :: rest.take more
    let start := if descends then run.reverse else run
    pure (← insertAll less start.toArray (rest.drop more)).toList

/-- Sort in either direction; equal items keep their places in both. -/
def sortWith (less : α → α → Exec Bool) (descending : Bool) (xs : List α) : Exec (List α) := do
  if descending then pure (← sortBy less xs.reverse).reverse else sortBy less xs

/-- An item with the values it is sorted by. -/
structure Keyed where
  keys : List Value
  item : Value

/-- Compare keys: the first ones that differ decide. -/
def keysLess (a b : List Value) : Exec Bool := do
  match ← onHeap fun h => Value.firstDifference (Value.alike h) a b with
  | .inr o => pure (o == .lt)
  | .inl (some (x, y)) => less x y
  | .inl none => pure false

/-- Letters in lower case, anything else as it is. -/
def ignoreCase : Value → Value
  | .str t _ => .str t.lower
  | .safe t _ => .safe t.lower
  | v => v

/-- The steps of an attribute with points in it; numbers are positions. -/
def pathOf (steps : Value) : Exec (List Value) := do
  match steps, steps.asText? with
  | .none, _ => pure []
  | v, none => pure [v]
  | _, some t => forEach (Text.splitOn "." t) fun part => do
    if !part.isEmpty && part.all isDigit then do pure (.int (← textInteger 10 part))
    else pure (.str part)

/-- Follow a path; what is not there is replaced by the default, if there is one. -/
def follow (default : Value) : List Value → Value → Exec Value
  | [], v => pure v
  | part :: rest, v => do
    let x ← getItem v part
    match x, default with
    | .undefined .., .none => follow default rest x
    | .undefined .., d => follow default rest d
    | x, _ => follow default rest x

/-- The value that a filter looks at in an item, at the end of a path. -/
def getter (path : List Value) (default : Value) (caseSensitive : Bool) (v : Value) :
    Exec Value := do
  let x ← follow default path v
  pure (if caseSensitive then x else ignoreCase x)

/-- The paths of attributes with commas between them. -/
def pathsOf (paths : Value) : Exec (List (List Value)) :=
  match paths.asText? with
  | some t => forEach (Text.splitOn "," t) fun a => pathOf (.str a)
  | none => forEach [paths] pathOf

/-- The values at the ends of several paths. -/
def multiGetter (paths : List (List Value)) (caseSensitive : Bool) (v : Value) :
    Exec (List Value) :=
  forEach paths fun p => getter p .none caseSensitive v

/-- Sort items by keys. -/
def sortKeyed (descending : Bool) (xs : List Keyed) : Exec (List Value) := do
  pure ((← sortWith (fun a b => keysLess a.keys b.keys) descending xs).map (·.item))

end Template

end Stencil
