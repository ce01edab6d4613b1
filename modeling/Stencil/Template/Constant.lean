import Stencil.Template.Evaluate
import Stencil.Template.Fault
import Stencil.Template.Resolution

/-!
# Constant expressions

Expressions whose value is known before a template runs, and what they are replaced by.

## Main definitions

- `Switches` — what the value of a constant depends on
- `Expr.foresee` — the value of an expression, if it is known
- `Expr.folded` — an expression whose constant parts are literals
- `Literal.written` and `Literal.unwritable?` — what a literal is once it has been written out

## Design notes

A constant is computed by the evaluator, on a machine of its own. Where evaluation fails, most
expressions just have no known value; but conditions, containers and the arguments of filters pass the
failure on, and then the template has no executable form.
-/

namespace Stencil

namespace Template

open Exec

/-- What is known about the switches of a template where an expression stands. -/
structure Switches where
  strict : Bool
  /-- The switch for escaping. Its truth value may be unknowable. -/
  autoescape : Value
  /-- The switch for escaping is only known at run time. -/
  volatile : Bool := false
  deriving Inhabited

namespace Switches

/-- The machine on which constants are computed. -/
def machine (w : Switches) : Machine :=
  { strict := w.strict, autoescape := w.autoescape }

/-- The result of a computation that asks for no other template. -/
def outcome {α : Type} (w : Switches) (x : Exec α) : Except Raised (α × Machine) :=
  match x w.machine with
  | .done (.ok a) m => .ok (a, m)
  | .done (.error f) _ => .error f
  | .nested .. => .error (.ofText .runtime "no other templates can be rendered here")

end Switches

/-- A value that may not be known yet. -/
abbrev Foresight := OptionT Exec

namespace Foresight

/-- What a computation on known values results in. -/
def known {α : Type} (x : Exec α) : Foresight α :=
  OptionT.lift x

/-- A value whose computation may fail: then it is not known. -/
def tried {α : Type} (x : Foresight α) : Foresight α := OptionT.mk do
  match ← attempt x.run with
  | .ok a => pure a
  | .error _ => pure none

end Foresight

/-- How messages write a slice. -/
def quotedSlice (start stop step : Value) : Exec Text := do
  pure ("slice(" ++ (← quoted start) ++ ", " ++ (← quoted stop) ++ ", " ++ (← quoted step) ++ ")")

/-- The value that tells that a value has no such part. -/
def noPart (v : Value) (part : Text) : Exec Value := do
  undefined (v.describe (← machine).heap ++ " has no element " ++ part)

/-- A part of a sequence, or a value that tells that there is none. -/
def sliceOf (v start stop step : Value) : Exec Value := do
  match ← attempt (subscriptSlice v start stop step) with
  | .ok x => pure x
  | .error f => if tellsAbsence f then noPart v (← quotedSlice start stop step) else raise f

/-- The item of a value under several indices, of which those that are slices are given as texts. No value
has items under slices and other indices at once. -/
def itemOfAll (v : Value) (indices : List (Value ⊕ Text)) : Exec Value := do
  let plain := indices.filterMap fun i => match i with
    | .inl x => some x
    | .inr _ => none
  if plain.length = indices.length then getItem v (← newTuple plain)
  else match v with
    | .undefined _ message _ => raise (undefinedUse message)
    | v => do
      let parts ← forEach indices fun i => match i with
        | .inl x => quoted x
        | .inr t => pure t
      noPart v ("(" ++ Text.join ", " parts ++ ")")

open Foresight in
mutual

/-- The value of an expression, if it is known before the template runs. -/
def Expr.foresee (w : Switches) : Expr → Foresight Value
  | .literal l => known (Value.anew l)
  | .data t =>
    if w.volatile then failure
    else do pure (SafeMethod.made (← known Filter.escaping) t)
  | .name .. | .call .. | .slice .. => failure
  | .tuple items => do known (newTuple (← foreseeAll w items))
  | .list items => do known (newList (← foreseeAll w items))
  | .dict entries => do
    let pairs ← foreseePairs w entries
    let es ← known (onHeap fun h => Entries.insertAll h #[] pairs)
    known (newDict es.toList)
  | .conditional test yes no _ => do
    if ← known (truth (← test.foresee w)) then yes.foresee w
    else foreseePart w no failure
  | .both l r => do
    let v ← l.foresee w
    if ← known (truth v) then r.foresee w else pure v
  | .either l r => do
    let v ← l.foresee w
    if ← known (truth v) then pure v else r.foresee w
  | .unary op e => tried do known (unary op (← e.foresee w))
  | .binary op l r => tried do
    let a ← l.foresee w
    known (binaryBy (opSymbol op) (collect standardEngine) op a (← r.foresee w))
  | .concat parts => do pure (.str (← foreseeTexts w parts))
  | .compare first rest => do
    let v ← first.foresee w
    tried (foreseeComparison w v rest)
  | .attr e name => tried do
    let v ← e.foresee w
    known (getAttr v name)
  | .item e (.slice start stop step) => tried do
    let v ← e.foresee w
    let a ← foreseePart w start (pure .none)
    let b ← foreseePart w stop (pure .none)
    let c ← foreseePart w step (pure .none)
    known (sliceOf v a b c)
  | .item e (.tuple indices) => tried do
    let v ← e.foresee w
    known (itemOfAll v (← foreseeIndices w indices))
  | .item e index => tried do
    let v ← e.foresee w
    known (getItem v (← index.foresee w))
  | .filter none _ _ _ => failure
  | .filter (some subject) name args _ =>
    if w.volatile || !Filter.isConstant name.toName then failure
    else do
      let args ← args.foresee w
      let v ← subject.foresee w
      tried (known (standardEngine.filter name v args))
  | .test subject name args _ =>
    if w.volatile || !Test.names.contains name.toName then failure
    else do
      let args ← args.foresee w
      let v ← subject.foresee w
      tried (known (standardEngine.test name v args))

/-- Arguments. Of a keyword that occurs several times the last one counts. -/
def Arguments.foresee (w : Switches) : Arguments → Foresight CallArgs
  | .mk positional keywords spread keywordSpread => do
    let positional ← foreseeAll w positional
    let keywords ← foreseeKeywords w keywords
    let more ← tried do
      known (collect standardEngine (← foreseePart w spread (known (newTuple []))))
    let others ← tried do
      known (entriesOf standardEngine (← foreseePart w keywordSpread (known (newDict []))))
    let named ← others.mapM fun (k, v) => match k.asText? with
      | some n => pure (n, v)
      | none => failure
    let keywords := (keywords ++ named).foldl (fun vars (n, v) => putVariable vars n v) #[]
    pure { positional := positional ++ more, keywords := keywords.toList }

def foreseeComparison (w : Switches) (v : Value) : List (CompareOp × Expr) → Foresight Value
  | [] => pure (.bool true)
  | (op, e) :: rest => do
    let x ← e.foresee w
    if ← known (compareBy standardEngine op v x) then foreseeComparison w x rest else pure (.bool false)

def foreseeAll (w : Switches) : List Expr → Foresight (List Value)
  | [] => pure []
  | e :: rest => do
    let v ← e.foresee w
    pure (v :: (← foreseeAll w rest))

/-- The indices of an item; slices are given as messages write them. -/
def foreseeIndices (w : Switches) : List Expr → Foresight (List (Value ⊕ Text))
  | [] => pure []
  | .slice start stop step :: rest => do
    let a ← foreseePart w start (pure .none)
    let b ← foreseePart w stop (pure .none)
    let c ← foreseePart w step (pure .none)
    let t ← known (quotedSlice a b c)
    pure (.inr t :: (← foreseeIndices w rest))
  | e :: rest => do
    let v ← e.foresee w
    pure (.inl v :: (← foreseeIndices w rest))

def foreseeTexts (w : Switches) : List Expr → Foresight Text
  | [] => pure []
  | e :: rest => do
    let t ← known (text (← e.foresee w))
    pure (t ++ (← foreseeTexts w rest))

def foreseePairs (w : Switches) : List (Expr × Expr) → Foresight (List (Value × Value))
  | [] => pure []
  | (k, e) :: rest => do
    let k ← k.foresee w
    let v ← e.foresee w
    known (onHeap fun h => Value.hashable h k)
    pure ((k, v) :: (← foreseePairs w rest))

def foreseeKeywords (w : Switches) : List (Text × Expr) → Foresight (List (Text × Value))
  | [] => pure []
  | (n, e) :: rest => do
    let v ← e.foresee w
    pure ((n, v) :: (← foreseeKeywords w rest))

/-- An expression that may be left out. -/
def foreseePart (w : Switches) (e : Option Expr) (other : Foresight Value) : Foresight Value :=
  match e with
  | none => other
  | some e => e.foresee w

end

/-- The literal of a value, for values that have one. -/
def Literal.ofValue? (h : Heap) : Nat → Value → Option Literal
  | 0, _ => .none
  | fuel + 1, v =>
    match v with
    | .none => some .none
    | .bool b => some (.bool b)
    | .int i _ => some (.int i)
    | .float x _ => some (.float x)
    | .complex x y _ => some (.complex x y)
    | .str t _ => some (.str t)
    | .safe t _ => some (.safe t)
    | .ref id => match h.get id with
      | .list items => (items.toList.mapM (ofValue? h fuel)).map .list
      | .tuple items [] => (items.toList.mapM (ofValue? h fuel)).map .tuple
      | .dict es => (es.toList.mapM fun (k, x) => do
          pure ((← ofValue? h fuel k), (← ofValue? h fuel x))).map .dict
      | _ => .none
    | _ => .none

/-- An expression as a literal, if its value is known and has one. -/
def Expr.settle (w : Switches) (e : Expr) : Except Raised Expr := do
  match ← w.outcome (e.foresee w).run with
  | (some v, m) => pure (((Literal.ofValue? m.heap nestingLimit v).map .literal).getD e)
  | (none, _) => pure e

mutual

/-- An expression with everything in it settled, from the inside out. -/
def Expr.fold (w : Switches) : Expr → Except Raised Expr
  | .literal l => pure (.literal l)
  | .data t => pure (.data t)
  | .name n line => pure (.name n line)
  | .tuple items => do (Expr.tuple (← foldAll w items)).settle w
  | .list items => do (Expr.list (← foldAll w items)).settle w
  | .dict entries => do (Expr.dict (← foldPairs w entries)).settle w
  | .conditional test yes no line => do
    let test ← test.fold w
    let yes ← yes.fold w
    let no ← foldPart w no
    (Expr.conditional test yes no line).settle w
  | .both l r => do
    let l ← l.fold w
    (Expr.both l (← r.fold w)).settle w
  | .either l r => do
    let l ← l.fold w
    (Expr.either l (← r.fold w)).settle w
  | .unary op e => do (Expr.unary op (← e.fold w)).settle w
  | .binary op l r => do
    let l ← l.fold w
    (Expr.binary op l (← r.fold w)).settle w
  | .concat parts => do (Expr.concat (← foldAll w parts)).settle w
  | .compare first rest => do
    let first ← first.fold w
    (Expr.compare first (← foldOperands w rest)).settle w
  | .attr e name => do (Expr.attr (← e.fold w) name).settle w
  | .item e index => do
    let e ← e.fold w
    (Expr.item e (← index.fold w)).settle w
  | .slice start stop step => do
    let start ← foldPart w start
    let stop ← foldPart w stop
    pure (.slice start stop (← foldPart w step))
  | .call f args line => do
    let f ← f.fold w
    pure (.call f (← args.fold w) line)
  | .filter subject name args line => do
    let subject ← foldPart w subject
    (Expr.filter subject name (← args.fold w) line).settle w
  | .test subject name args line => do
    let subject ← subject.fold w
    (Expr.test subject name (← args.fold w) line).settle w

def Arguments.fold (w : Switches) : Arguments → Except Raised Arguments
  | .mk positional keywords spread keywordSpread => do
    let positional ← foldAll w positional
    let keywords ← foldKeywords w keywords
    let spread ← foldPart w spread
    pure (.mk positional keywords spread (← foldPart w keywordSpread))

def foldAll (w : Switches) : List Expr → Except Raised (List Expr)
  | [] => pure []
  | e :: rest => do
    let e ← e.fold w
    pure (e :: (← foldAll w rest))

def foldPairs (w : Switches) : List (Expr × Expr) → Except Raised (List (Expr × Expr))
  | [] => pure []
  | (k, e) :: rest => do
    let k ← k.fold w
    let e ← e.fold w
    pure ((k, e) :: (← foldPairs w rest))

def foldOperands (w : Switches) : List (CompareOp × Expr) → Except Raised (List (CompareOp × Expr))
  | [] => pure []
  | (op, e) :: rest => do
    let e ← e.fold w
    pure ((op, e) :: (← foldOperands w rest))

def foldKeywords (w : Switches) : List (Text × Expr) → Except Raised (List (Text × Expr))
  | [] => pure []
  | (n, e) :: rest => do
    let e ← e.fold w
    pure ((n, e) :: (← foldKeywords w rest))

def foldPart (w : Switches) : Option Expr → Except Raised (Option Expr)
  | none => pure none
  | some e => do pure (some (← e.fold w))

end

mutual

/-- An expression with its constant parts as literals. Containers as such stay what they are, also when
all their items are constants. Nothing is settled as long as it is not known whether text is escaped. -/
def Expr.folded (w : Switches) : Expr → Except Raised Expr
  | .tuple items => do pure (.tuple (← foldedAll w items))
  | .list items => do pure (.list (← foldedAll w items))
  | .dict entries => do pure (.dict (← foldedPairs w entries))
  | e => if w.volatile then pure e else e.fold w

def foldedAll (w : Switches) : List Expr → Except Raised (List Expr)
  | [] => pure []
  | e :: rest => do
    let e ← e.folded w
    pure (e :: (← foldedAll w rest))

def foldedPairs (w : Switches) : List (Expr × Expr) → Except Raised (List (Expr × Expr))
  | [] => pure []
  | (k, e) :: rest => do
    let k ← k.folded w
    let e ← e.folded w
    pure ((k, e) :: (← foldedPairs w rest))

end

/-- The text that a constant expression is written as. -/
def Expr.output? (w : Switches) (e : Expr) : Option Text :=
  let run : Foresight Text := do
    let v ← e.foresee w
    Foresight.known do if ← Filter.escaping then SafeMethod.escaped v else text v
  match w.outcome run.run with
  | .ok (t, _) => t
  | .error _ => none

mutual

/-- A literal once it has been written out and read again: the signs of zeros in complex numbers get
lost. -/
def Literal.written : Literal → Literal
  | .complex x y =>
    if x == 0.0 && !Binary64.isNegative x then
      if Binary64.isNegative y then .complex (-0.0) y else .complex 0.0 y
    else .complex (if x == 0.0 then 0.0 else x) (if y == 0.0 then 0.0 else y)
  | .list items => .list (writtenAll items)
  | .tuple items => .tuple (writtenAll items)
  | .dict entries => .dict (writtenPairs entries)
  | l => l

def writtenAll : List Literal → List Literal
  | [] => []
  | l :: rest => l.written :: writtenAll rest

def writtenPairs : List (Literal × Literal) → List (Literal × Literal)
  | [] => []
  | (k, l) :: rest => (k.written, l.written) :: writtenPairs rest

end

mutual

/-- How deeply the brackets of a literal are nested. -/
def Literal.depth : Literal → Nat
  | .complex x _ => if x == 0.0 && !Binary64.isNegative x then 0 else 1
  | .safe _ => 1
  | .list items | .tuple items => depthOfAll items + 1
  | .dict entries => depthOfPairs entries + 1
  | _ => 0

def depthOfAll : List Literal → Nat
  | [] => 0
  | l :: rest => max l.depth (depthOfAll rest)

def depthOfPairs : List (Literal × Literal) → Nat
  | [] => 0
  | (k, l) :: rest => max (max k.depth l.depth) (depthOfPairs rest)

end

/-- The name that stands for a number without a form of its own. -/
def unnamedNumber? (x : Float) : Option Text :=
  if Binary64.isNaN x then some "nan" else if Binary64.isInfinite x then some "inf" else none

mutual

/-- Why a literal cannot be written out: a number without a form of its own, or one that is too long.
-/
def Literal.unwritable? : Literal → Option (Text ⊕ Cause)
  | .int i => match intText i with
    | .ok _ => none
    | .error _ => some (.inr .longConstant)
  | .float x => (unnamedNumber? x).map .inl
  | .complex x y =>
    ((unnamedNumber? x).or ((unnamedNumber? y).map fun t => t ++ "j")).map .inl
  | .list items | .tuple items => unwritableItems? items
  | .dict entries => unwritableEntries? entries
  | _ => none

def unwritableItems? : List Literal → Option (Text ⊕ Cause)
  | [] => none
  | l :: rest => l.unwritable?.or (unwritableItems? rest)

def unwritableEntries? : List (Literal × Literal) → Option (Text ⊕ Cause)
  | [] => none
  | (k, l) :: rest => (k.unwritable?.or l.unwritable?).or (unwritableEntries? rest)

end

end Template

end Stencil
