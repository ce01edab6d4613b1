import Stencil.Number.Complex
import Stencil.Template.Order
import Stencil.Template.Printf

/-!
# Operators

Arithmetic, concatenation and repetition of values.

## Main definitions

- `binary`, `unary` — the arithmetic operators
- `joined`, `repeatedValue` — sequences put together and repeated
- `concatenate` — the tilde operator
-/

namespace Stencil

namespace Template

open Exec

def opSymbol : BinaryOp → Text
  | .add => "+"
  | .sub => "-"
  | .mul => "*"
  | .div => "/"
  | .floordiv => "//"
  | .mod => "%"
  | .pow => "** or pow()"

/-- The operands do not go with the operator, which messages write as `symbol`. -/
def unsupportedBy {α : Type} (symbol : Text) (a b : Value) : Exec α := do
  let s ← typeName a
  let t ← typeName b
  typeError ("unsupported operand type(s) for " ++ symbol ++ ": '" ++ s ++ "' and '" ++ t ++ "'")

def zeroDivision {α : Type} (what : Text) : Exec α :=
  fail .zeroDivision what

/-- An integer as a double. -/
def toFloat (i : Int) : Exec Float :=
  match Binary64.ofInt? i with
  | some x => pure x
  | none => fail .overflow "int too large to convert to float"

/-- How long a repeated sequence may get. -/
def lengthLimit : Nat := 100000000

/-- A repetition count; what is not positive counts as zero, and so does any count of nothing. -/
def repeatCount (length : Nat) (i : Int) : Exec Nat :=
  if Nat.pow 2 63 ≤ i.natAbs ∧ i ≠ -(Nat.pow 2 63 : Nat) then
    fail .overflow "cannot fit 'int' into an index-sized integer"
  else if length = 0 then pure 0
  else if lengthLimit < i.toNat * length then fail .memory []
  else pure i.toNat

/-! ### Numbers -/

def complexPower (z w : Complex64) : Exec Value :=
  match z.power w with
  | .ok r => pure (.complex r.re r.im)
  | .error .ofZero => zeroDivision "0.0 to a negative or complex power"
  | .error .overflow => fail .overflow "complex exponentiation"

def floatPower (x y : Float) : Exec Value :=
  if x == 0.0 && y < 0.0 then zeroDivision "0.0 cannot be raised to a negative power"
  else if x < 0.0 && Binary64.isFinite x && Binary64.isFinite y && !(Binary64.isWhole y) then
    complexPower (.ofReal x) (.ofReal y)
  else
    let z := x.pow y
    if Binary64.isInfinite z && Binary64.isFinite x && Binary64.isFinite y then
      fail .overflow "(34, 'Numerical result out of range')"
    else pure (.float z)

/-- The greatest number of binary digits of a power that is worked out. -/
def powerLimit : Nat := 100000000

def intPower (a b : Int) : Exec Value :=
  match b with
  | .ofNat n =>
    if powerLimit < a.natAbs.log2 * n then fail .memory []
    else if a.natAbs ≤ 1 then pure (.int (if n = 0 then 1 else if n % 2 = 0 then a * a else a))
    else
      let size : Int := Nat.pow a.natAbs n
      pure (.int (if a < 0 && n % 2 == 1 then -size else size))
  | .negSucc _ => do floatPower (← toFloat a) (← toFloat b)

def intArithmetic (op : BinaryOp) (a b : Int) : Exec Value :=
  match op with
  | .add => pure (.int (a + b))
  | .sub => pure (.int (a - b))
  | .mul => pure (.int (a * b))
  | .div =>
    if b = 0 then zeroDivision "division by zero"
    else match Binary64.divide? a b with
      | some x => pure (.float x)
      | none => fail .overflow "integer division result too large for a float"
  | .floordiv =>
    if b = 0 then zeroDivision "integer division or modulo by zero" else pure (.int (a.fdiv b))
  | .mod => if b = 0 then zeroDivision "integer modulo by zero" else pure (.int (a.fmod b))
  | .pow => intPower a b

def floatArithmetic (op : BinaryOp) (x y : Float) : Exec Value :=
  match op with
  | .add => pure (.float (x + y))
  | .sub => pure (.float (x - y))
  | .mul => pure (.float (x * y))
  | .div => if y == 0.0 then zeroDivision "float division by zero" else pure (.float (x / y))
  | .floordiv =>
    if y == 0.0 then zeroDivision "float floor division by zero"
    else pure (.float (Real64.divideFloor x y))
  | .mod => if y == 0.0 then zeroDivision "float modulo" else pure (.float (Real64.modulo x y))
  | .pow => floatPower x y

def arithmetic (op : BinaryOp) : Int ⊕ Float → Int ⊕ Float → Exec Value
  | .inl a, .inl b => intArithmetic op a b
  | .inl a, .inr y => do floatArithmetic op (← toFloat a) y
  | .inr x, .inl b => do floatArithmetic op x (← toFloat b)
  | .inr x, .inr y => floatArithmetic op x y

/-- Whether a value is text that is HTML already. -/
def Value.isSafe : Value → Bool
  | .safe .. => true
  | _ => false

/-- Whether a value is a complex number. -/
def Value.isComplex : Value → Bool
  | .complex .. => true
  | _ => false

/-- A number as a complex one. -/
def asComplex? (v : Value) : Exec (Option Complex64) := do
  match v, v.number? with
  | .complex x y _, _ => pure (some ⟨x, y⟩)
  | _, some (.inl i) => do pure (some (.ofReal (← toFloat i)))
  | _, some (.inr x) => pure (some (.ofReal x))
  | _, none => pure none

/-- Arithmetic where one side is complex. -/
def complexArithmetic (symbol : Text) (op : BinaryOp) (a b : Value) (z w : Complex64) :
    Exec Value :=
  let done (r : Complex64) : Exec Value := pure (.complex r.re r.im)
  match op with
  | .add => done (z.add w)
  | .sub => done (z.sub w)
  | .mul => done (z.mul w)
  | .div => match z.divide? w with
    | some q => done q
    | none => zeroDivision "complex division by zero"
  | .pow => complexPower z w
  | .floordiv | .mod => unsupportedBy symbol a b

/-! ### Sequences -/

/-- The refusal to join a value to one of another kind. -/
def mismatch (kind : Text) (b : Value) : Exec Value := do
  let t ← typeName b
  typeError ("can only concatenate " ++ kind ++ " (not \"" ++ t ++ "\") to " ++ kind)

/-- The sum of two values of which the first one is an object, and maybe the second one too. -/
def joinedObjects (symbol : Text) (a b : Value) (left : Object) (right : Option Object) : Exec Value :=
  match left, right with
  | .list s, some (.list t) => newList (s.toList ++ t.toList)
  | .tuple s names, some (.tuple t others) =>
    if s.isEmpty && names.isEmpty && others.isEmpty then pure b
    else if names.isEmpty && t.isEmpty then pure a
    else newTuple (s.toList ++ t.toList)
  | .list _, _ => mismatch "list" b
  | .tuple _ _, _ => mismatch "tuple" b
  | _, _ => unsupportedBy symbol a b

/-- The sum of two values that are not both numbers. A sum with nothing is the other side itself. -/
def joined (symbol : Text) (a b : Value) : Exec Value := do
  match a with
  | .str s _ => match b with
    | .str t _ => pure (if s.isEmpty then b else if t.isEmpty then a else .str (s ++ t))
    | .safe t _ => pure (.safe (Markup.escape s ++ t))
    | _ => mismatch "str" b
  | .safe s _ => match b with
    | .str t _ => pure (.safe (s ++ Markup.escape t))
    | .safe t _ => pure (.safe (s ++ t))
    | _ => unsupportedBy symbol a b
  | .bytes s _ => match b with
    | .bytes t _ => pure (if s.isEmpty then b else if t.isEmpty then a else .bytes (s ++ t))
    | _ => do
      let t ← typeName b
      typeError ("can't concat " ++ t ++ " to bytes")
  | .ref m => match b with
    | .ref n => do
      let right ← fetch n
      joinedObjects symbol a b (← fetch m) (some right)
    | _ => do joinedObjects symbol a b (← fetch m) none
  | _ => unsupportedBy symbol a b

/-- Whether a value is a text, a byte string, a list or a tuple. -/
def isSequence (v : Value) : Exec Bool := do
  match v with
  | .str .. | .safe .. | .bytes .. => pure true
  | .ref id => match ← fetch id with
    | .list _ | .tuple .. => pure true
    | _ => pure false
  | _ => pure false

/-- A sequence so many times. Of what cannot change, once is the sequence itself. -/
def timesOver (refuse : Exec Value) (v : Value) (i : Int) : Exec Value := do
  match v with
  | .str t _ => do
    let n ← repeatCount t.length i
    pure (if n = 1 then v else .str (Text.repeated n t))
  | .safe t _ => do pure (.safe (Text.repeated (← repeatCount t.length i) t))
  | .bytes t _ => do
    let n ← repeatCount t.length i
    pure (if n = 1 then v else .bytes (List.replicate n t).flatten)
  | .ref id => match ← fetch id with
    | .list items => do
      let n ← repeatCount items.size i
      newList (List.replicate n items.toList).flatten
    | .tuple items names => do
      let n ← repeatCount items.size i
      if (n = 1 ∨ items.isEmpty) && names.isEmpty then pure v
      else newTuple (List.replicate n items.toList).flatten
    | _ => refuse
  | _ => refuse

/-- The refusal to repeat a sequence by a value that is no integer. -/
def refuseCount (sequence other : Value) : Exec Value := do
  let t ← typeName other
  if sequence.isSafe then typeError ("'" ++ t ++ "' object cannot be interpreted as an integer")
  else typeError ("can't multiply sequence by non-int of type '" ++ t ++ "'")

/-- A sequence repeated. -/
def repeatedValue (symbol : Text) (a b : Value) : Exec Value := do
  match ← isSequence a, ← isSequence b with
  | true, _ => match b.number? with
    | some (.inl i) => timesOver (unsupportedBy symbol a b) a i
    | _ => if !a.isSafe && b.isSafe then refuseCount b a else refuseCount a b
  | false, true => match a.number? with
    | some (.inl i) => timesOver (unsupportedBy symbol a b) b i
    | _ => refuseCount b a
  | false, false => unsupportedBy symbol a b

/-! ### Sets -/

/-- The values among others that are not alike earlier ones. -/
def distinctValues (vs : List Value) : Exec (List Value) := do
  let kept ← fold (fun (kept : List Value) v => do
    onHeap fun h => Value.hashable h v
    match ← findIndex (fun x => alike x v) kept with
    | some _ => pure kept
    | none => pure (v :: kept)) [] vs
  pure kept.reverse

def newSet (vs : List Value) : Exec Value := do
  let vs ← keepAll (← distinctValues vs)
  let id ← alloc (.set vs.toArray)
  pure (.ref id)

/-- Whether a value is a set or can act as one. -/
def isSetLike (v : Value) : Exec Bool := do
  pure ((v.members? (← machine).heap).isSome)

/-- The values of one value that are not among those of another one, as a set. -/
def difference (items : Value → Exec (List Value)) (a b : Value) : Exec Value := do
  let left ← distinctValues (← items a)
  let right ← items b
  let kept ← forEach left fun v => do
    match ← findIndex (fun x => alike x v) right with
    | some _ => pure none
    | none => pure (some v)
  newSet (kept.filterMap id)

/-- Whether a value is a set. -/
def isSet (v : Value) : Exec Bool := do
  match v with
  | .ref id => match ← fetch id with
    | .set _ => pure true
    | _ => pure false
  | _ => pure false

/-- Whether a value is the keys or the items of a dictionary. -/
def Value.isSetView : Value → Bool
  | .view .values _ => false
  | .view .. => true
  | _ => false

/-- Whether a value is a number of any kind. -/
def Value.isNumber (v : Value) : Bool :=
  v.number?.isSome || v.isComplex

/-- An operator between two values that are not both numbers. -/
def contentArithmetic (symbol : Text) (items : Value → Exec (List Value)) (op : BinaryOp) (a b : Value) :
    Exec Value := do
  match op with
  | .add => joined symbol a b
  | .mul => repeatedValue symbol a b
  | .sub => do
    if a.isSetView || b.isSetView || ((← isSet a) && (← isSet b)) then difference items a b
    else unsupportedBy symbol a b
  | _ => unsupportedBy symbol a b

/-- An operator between two values that are there. -/
def valueArithmetic (symbol : Text) (items : Value → Exec (List Value)) (op : BinaryOp) (a b : Value) :
    Exec Value := do
  match a.number?, b.number? with
  | some x, some y => arithmetic op x y
  | _, _ =>
    if a.isNumber && b.isNumber then
      match ← asComplex? a, ← asComplex? b with
      | some z, some w => complexArithmetic symbol op a b z w
      | _, _ => contentArithmetic symbol items op a b
    else contentArithmetic symbol items op a b

/-- An arithmetic operator between two values. `items` yields the values of a value, and `symbol` is
how messages write the operator. -/
def binaryBy (symbol : Text) (items : Value → Exec (List Value)) (op : BinaryOp) (a b : Value) :
    Exec Value := do
  match op, a with
  | .mod, .safe t _ => printf true t b
  | .mod, .str t _ => printf false t b
  | .mod, .bytes t _ => printfBytes t b
  | _, _ =>
    match a.use?, b.use? with
    | some f, _ => raise f
    | none, some f => if op = .mul ∧ a.isSafe then repeatedValue symbol a b else raise f
    | none, none => valueArithmetic symbol items op a b

/-- A sign or a negation. -/
def unary (op : UnaryOp) (v : Value) : Exec Value := do
  match op with
  | .not => do pure (.bool (!(← truth v)))
  | _ =>
    let mark : Text := match op with | .neg => "-" | _ => "+"
    match v, op with
    | .undefined _ message _, _ => raise (undefinedUse message)
    | .complex x y _, .neg => pure (.complex (-x) (-y))
    | .complex .., _ => pure v
    | v, op => match v, v.number?, op with
      | _, some (.inl i), .neg => pure (.int (-i))
      | _, some (.inr x), .neg => pure (.float (-x))
      | .bool _, some (.inl i), _ => pure (.int i)
      | v, some _, _ => pure v
      | _, none, _ => do
        let t ← typeName v
        typeError ("bad operand type for unary " ++ mark ++ ": '" ++ t ++ "'")

/-- Whether an integer is in a range. -/
def inRange (start stop step i : Int) : Bool :=
  if 0 < step then start ≤ i && i < stop && (i - start) % step == 0
  else stop < i && i ≤ start && (start - i) % (-step) == 0

/-- Whether a value is among others; a value is always equal to itself. -/
def amongst (v : Value) (vs : List Value) : Exec Bool := do
  match ← findIndex (fun x => alike x v) vs with
  | some _ => pure true
  | none => pure false

/-- Whether a value is in a container that needs no iteration by a filter. -/
def contains? (v container : Value) : Exec (Option Bool) := do
  match container with
  | .str t _ | .safe t _ => match v.asText? with
    | some needle => pure (some (t.includes needle))
    | none => do
      let n ← typeName v
      typeError ("'in <string>' requires string as left operand, not " ++ n)
  | .range a b c _ => match v with
    | .int i _ => pure (some (inRange a b c i))
    | .bool x => pure (some (inRange a b c (if x then 1 else 0)))
    | v => do
      let all := (List.range (Value.rangeLength a b c)).map fun (k : Nat) =>
        Value.int (a + (k : Int) * c)
      match v with
      | .float x _ =>
        pure (some (Binary64.isWhole x && inRange a b c ((Binary64.truncate? x).getD 0)))
      | .undefined true message _ =>
        if all.isEmpty then pure (some false) else raise (undefinedUse message)
      | .complex x y _ =>
        pure (some (y == 0.0 && Binary64.isWhole x &&
          inRange a b c ((Binary64.truncate? x).getD 0)))
      | _ => pure (some false)
  | .bytes bs _ => match v with
    | .bytes needle _ =>
      pure (some (Text.includes (bs.map UInt8.toNat) (needle.map UInt8.toNat)))
    | v => match v.number? with
      | some (.inl i) =>
        if 0 ≤ i ∧ i < 256 then pure (some (bs.contains (UInt8.ofNat i.toNat)))
        else fail .badValue "byte must be in range(0, 256)"
      | _ => do
        let n ← typeName v
        typeError ("a bytes-like object is required, not '" ++ n ++ "'")
  | .undefined true message _ => raise (undefinedUse message)
  | .undefined false .. => pure (some false)
  | .view part d => match ← fetch d with
    | .dict es => match part with
      | .keys => do
        let found ← onHeap fun h => es.find? h v
        pure (some found.isSome)
      | .values => do pure (some (← amongst v (es.toList.map (·.2))))
      | .items => match v with
        | .ref id => match ← fetch id with
          | .tuple items _ => match items.toList with
            | [k, x] => do
              match ← onHeap fun h => es.find? h k with
              | some y => do pure (some (← alike y x))
              | none => pure (some false)
            | _ => pure (some false)
          | _ => pure (some false)
        | _ => pure (some false)
    | _ => pure none
  | .ref id => match ← fetch id with
    | .list items => do pure (some (← amongst v items.toList))
    | .tuple items _ => do pure (some (← amongst v items.toList))
    | .set items => do
      onHeap fun h => Value.hashable h v
      pure (some (← amongst v items.toList))
    | .dict es => do
      let found ← onHeap fun h => es.find? h v
      pure (some found.isSome)
    | _ => pure none
  | _ => pure none

/-- The tilde operator: the texts of all parts, escaped as far as they are not safe if one is. -/
def concatenate (escaping : Bool) (parts : List Value) : Exec Value := do
  if escaping && parts.any Value.isSafe then
    let texts ← forEach parts fun v => do
      let t ← text v
      pure (if v.isSafe then t else Markup.escape t)
    pure (.safe texts.flatten)
  else
    match parts with
    | [.str ..] => pure (parts.headD .none)
    | _ =>
      let texts ← forEach parts text
      pure (.str texts.flatten)

end Template

end Stencil
