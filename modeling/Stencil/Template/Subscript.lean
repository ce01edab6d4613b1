import Stencil.Template.Order

/-!
# Subscripts and slices

The item of a value under an index or a key, and the part of a sequence between two places.

## Main definitions

- `subscript` — the item of a value
- `sliceSpan` and `subscriptSlice` — the positions that a slice selects, and the part of a value there
-/

namespace Stencil

namespace Template

open Exec

/-- A position in a sequence, counted from the end if it is negative. -/
def position? (length : Nat) (i : Int) : Option Nat :=
  let n := if i < 0 then i + length else i
  if 0 ≤ n ∧ n < length then some n.toNat else none

/-- A value as an integer, for kinds of values that can stand for one. -/
def index? : Value → Option Int
  | .int i _ => some i
  | .bool b => some (if b then 1 else 0)
  | _ => none

/-- The failure of a key that is not there. -/
def keyFailure {α : Type} (key : Value) : Exec α := do
  fail .missingKey (← quoted key)

/-- The position in a sequence that a key stands for. Messages tell that there is none, or that the key
is no position at all. -/
def positionOf (key : Value) (length : Nat) (outside misused : Text) (quotes : Bool) : Exec Nat := do
  match index? key with
  | some i =>
    if (Nat.pow 2 63 : Nat) ≤ i ∨ i < -(Nat.pow 2 63 : Nat) then
      fail .badIndex "cannot fit 'int' into an index-sized integer"
    else match position? length i with
      | some n => pure n
      | none => fail .badIndex outside
  | none => do
    let t ← typeName key
    typeError (misused ++ ", not " ++ if quotes then "'" ++ t ++ "'" else t)

/-- The character of a text at the position that a key stands for. -/
def characterAt (key : Value) (t : Text) : Exec CodePoint := do
  let n ← positionOf key t.length "string index out of range" "string indices must be integers" true
  pure (t.getD n 0)

/-- The item of a value under an index or a key. -/
def subscript (v key : Value) : Exec Value := do
  match v with
  | .undefined _ message _ => raise (undefinedUse message)
  | .str t _ => do pure (.str [← characterAt key t])
  | .safe t _ => do pure (.safe [← characterAt key t])
  | .bytes b _ => do
    let n ← positionOf key b.length "index out of range" "byte indices must be integers or slices" false
    pure (.int (b.getD n 0).toNat)
  | .range a b c _ => match index? key with
    | some i => match position? (Value.rangeLength a b c) i with
      | some n => pure (.int (a + n * c))
      | none => fail .badIndex "range object index out of range"
    | none => do
      typeError ("range indices must be integers or slices, not " ++ (← typeName key))
  | .blocks context => match ← fetch context with
    | .context _ _ _ bs => match key.asText? with
      | some n => if bs.any (·.name == n) then pure (.block context n) else keyFailure key
      | none => do
        onHeap fun h => Value.hashable h key
        keyFailure key
    | _ => keyFailure key
  | .ref id => match ← fetch id with
    | .list items => do
      let n ← positionOf key items.size "list index out of range"
        "list indices must be integers or slices" false
      pure (items.getD n .none)
    | .tuple items _ => do
      let n ← positionOf key items.size "tuple index out of range"
        "tuple indices must be integers or slices" false
      pure (items.getD n .none)
    | .dict es => do
      match ← onHeap fun h => es.find? h key with
      | some x => pure x
      | none => keyFailure key
    | _ => do typeError ("'" ++ (← typeName v) ++ "' object is not subscriptable")
  | .kind c =>
    if !c.takesItems then typeError ("type '" ++ c.name ++ "' is not subscriptable")
    else
      let alone : Exec Value := do
        pure (.generic c (← alloc (.tuple #[← keep key] [])))
      match key with
      | .ref id => match ← fetch id with
        | .tuple .. => pure (.generic c id)
        | _ => alone
      | _ => alone
  | _ => do typeError ("'" ++ (← typeName v) ++ "' object is not subscriptable")

/-! ### Slices -/

/-- A bound of a slice. -/
def sliceBound (v : Value) : Exec (Option Int) := do
  match v with
  | .none => pure none
  | v => match index? v with
    | some i => pure (some i)
    | none => typeError "slice indices must be integers or None or have an __index__ method"

/-- The first position, the end and the step of a slice of a sequence. -/
def sliceEnds (length : Nat) (start stop : Option Int) (step : Int) : Int × Int × Int :=
  let n : Int := length
  let clamp (low high i : Int) : Int :=
    let i := if i < 0 then i + n else i
    if i < low then low else if high < i then high else i
  let (low, high) : Int × Int := if 0 < step then (0, n) else (-1, n - 1)
  let first := match start with
    | some i => clamp low high i
    | none => if 0 < step then 0 else n - 1
  let last := match stop with
    | some i => clamp low high i
    | none => if 0 < step then n else -1
  (first, last, step)

/-- The first position, the step and the number of positions that a slice selects. -/
def sliceSpan (length : Nat) (start stop : Option Int) (step : Int) : Int × Int × Nat :=
  let (first, last, step) := sliceEnds length start stop step
  (first, step, Value.rangeLength first last step)

/-- The selected items. -/
def sliceItems {α : Type} (items : Array α) (span : Int × Int × Nat) : List α :=
  let (first, step, count) := span
  (List.range count).filterMap fun (k : Nat) => items[(first + (k : Int) * step).toNat]?

/-- Whether a slice selects everything as it stands. -/
def isWhole (length : Nat) (span : Int × Int × Nat) : Bool :=
  span == (0, 1, length)

/-- The bounds and the step of a slice. -/
def sliceBounds (start stop step : Value) : Exec (Option Int × Option Int × Int) := do
  match ← sliceBound step with
  | some 0 => fail .badValue "slice step cannot be zero"
  | s => do
    let a ← sliceBound start
    let b ← sliceBound stop
    pure (a, b, s.getD 1)

/-- A part of a sequence. A part that is everything is the sequence itself, if it cannot change. -/
def subscriptSlice (v start stop step : Value) : Exec Value := do
  let span (length : Nat) : Exec (Int × Int × Nat) := do
    let (a, b, s) ← sliceBounds start stop step
    pure (sliceSpan length a b s)
  let notSubscriptable : Exec Value := do
    typeError ("'" ++ (← typeName v) ++ "' object is not subscriptable")
  match v with
  | .undefined _ message _ => raise (undefinedUse message)
  | .str t _ => do
    let s ← span t.length
    pure (if isWhole t.length s then v else .str (sliceItems t.toArray s))
  | .safe t _ => do
    let s ← span t.length
    pure (.safe (sliceItems t.toArray s))
  | .bytes b _ => do
    let s ← span b.length
    pure (if isWhole b.length s then v else .bytes (sliceItems b.toArray s))
  | .range a b c _ => do
    let (x, y, z) ← sliceBounds start stop step
    let (first, last, s) := sliceEnds (Value.rangeLength a b c) x y z
    pure (.range (a + first * c) (a + last * c) (c * s))
  | .ref id => match ← fetch id with
    | .list items => do
      let s ← span items.size
      newList (sliceItems items s)
    | .tuple items names => do
      let s ← span items.size
      if isWhole items.size s && names.isEmpty then pure v else newTuple (sliceItems items s)
    | .dict _ => typeError "unhashable type: 'slice'"
    | _ => notSubscriptable
  | .blocks _ => typeError "unhashable type: 'slice'"
  | .kind c => typeError ("type '" ++ c.name ++ "' is not subscriptable")
  | _ => notSubscriptable

end Template

end Stencil
