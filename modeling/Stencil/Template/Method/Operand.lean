import Stencil.Template.Method.Containers
import Stencil.Template.Method.Number

/-!
# Methods that stand for operators

The methods with names between underscores, which do what an operator or another part of the language
does. A method that does not know its other operand says so by a value of its own.

## Main definitions

- `OperandMethod.call?` — these methods by name, for every class of values
-/

namespace Stencil

namespace Template

open Exec

namespace OperandMethod

/-- The arithmetic operator behind a name, and whether the receiver is the right operand. -/
def arithmetic? : String → Option (BinaryOp × Bool)
  | "__add__" => some (.add, false)
  | "__radd__" => some (.add, true)
  | "__sub__" => some (.sub, false)
  | "__rsub__" => some (.sub, true)
  | "__mul__" => some (.mul, false)
  | "__rmul__" => some (.mul, true)
  | "__truediv__" => some (.div, false)
  | "__rtruediv__" => some (.div, true)
  | "__floordiv__" => some (.floordiv, false)
  | "__rfloordiv__" => some (.floordiv, true)
  | "__mod__" => some (.mod, false)
  | "__rmod__" => some (.mod, true)
  | "__pow__" => some (.pow, false)
  | "__rpow__" => some (.pow, true)
  | _ => none

/-- The comparison behind a name. -/
def comparison? : String → Option CompareOp
  | "__eq__" => some .eq
  | "__ne__" => some .ne
  | "__lt__" => some .lt
  | "__le__" => some .le
  | "__gt__" => some .gt
  | "__ge__" => some .ge
  | _ => none

/-- How general the numbers of a value's kind are. -/
def generality? : Value → Option Nat
  | .bool _ | .int .. => some 0
  | .float .. => some 1
  | .complex .. => some 2
  | _ => none

/-- Whether an operator of a number takes the other operand. -/
def takesNumber (v other : Value) : Bool :=
  match generality? v, generality? other with
  | some m, some n => n ≤ m
  | _, _ => false

/-- An arithmetic operator with the receiver on one of its sides. -/
def applied (E : Engine) (op : BinaryOp) (reflected : Bool) (v other : Value) : Exec Value :=
  if reflected then binaryBy (opSymbol op) (collect E) op other v
  else binaryBy (opSymbol op) (collect E) op v other

/-- A power of integers modulo another. -/
def powerModulo (a : Int) (n : Nat) (m : Int) : Int :=
  let bits := (Nat.toDigits 2 n).map (· == '1')
  bits.foldl (fun r bit =>
    let r := (r * r).fmod m
    if bit then (r * a).fmod m else r) ((1 : Int).fmod m)

/-- The greatest common divisor of two numbers with a factor of the first that makes it up to multiples
of the second. -/
def cofactor (a b : Nat) : Nat × Int :=
  if h : a = 0 then (b, 0)
  else
    have : b % a < a := Nat.mod_lt b (Nat.pos_of_ne_zero h)
    -- the divisor is made up of the smaller pair: it is `x * (b % a)` up to multiples of `a`
    let (g, x) := cofactor (b % a) a
    (g, (g - x * b) / a)
termination_by a

/-- The inverse of an integer modulo another. -/
def inverseModulo? (a m : Int) : Option Int :=
  let (g, x) := cofactor (a.fmod m.natAbs).toNat m.natAbs
  if g = 1 then some (x.fmod m) else none

/-- A power of integers, modulo another if one is given. -/
def powerWith (a b m : Int) : Exec Value :=
  if m = 0 then fail .badValue "pow() 3rd argument cannot be 0"
  else if 0 ≤ b then pure (.int (powerModulo a b.toNat m))
  else match inverseModulo? a m with
    | some i => pure (.int (powerModulo i b.natAbs m))
    | none => fail .badValue "base is not invertible for the given modulus"

/-- An integer moved to the left or to the right by a number of binary digits. -/
def shifted (a n : Int) (left : Bool) : Exec Value :=
  if n < 0 then fail .badValue "negative shift count"
  else if a = 0 then pure (.int 0)
  else if left then
    if (Nat.pow 2 61 : Nat) ≤ n / 30 then fail .overflow "too many digits in integer"
    else if (powerLimit : Int) < n then fail .memory []
    else pure (.int (a * (Nat.pow 2 n.toNat : Nat)))
  else if n.toNat > a.natAbs.log2 + 1 then pure (.int (if a < 0 then -1 else 0))
  else pure (.int (a.fdiv (Nat.pow 2 n.toNat : Nat)))

/-- Quotient and remainder. -/
def divided (a b : Value) : Exec Value := do
  match a.number?, b.number? with
  | some (.inl a), some (.inl b) =>
    if b = 0 then zeroDivision "integer division or modulo by zero"
    else newTuple [.int (a.fdiv b), .int (a.fmod b)]
  | some x, some y => do
    let real : Int ⊕ Float → Exec Float
      | .inl i => toFloat i
      | .inr x => pure x
    let x ← real x
    let y ← real y
    if y == 0.0 then zeroDivision "float divmod()"
    else newTuple [.float (Real64.divideFloor x y), .float (Real64.modulo x y)]
  | _, _ => pure .notImplemented

/-- An operator of integers on their binary digits, whose result is a truth value if `logical`. -/
def bitwise? (name : String) (logical : Bool) (a b : Int) : Option (Exec Value) :=
  let digits (i : Int) : Exec Value := pure (if logical then .bool (i ≠ 0) else .int i)
  -- a negative integer is the complement of the natural below it
  let conjunction (a b : Int) : Int := match a, b with
    | .ofNat m, .ofNat n => (m &&& n : Nat)
    | .ofNat m, .negSucc n => (m - (m &&& n) : Nat)
    | .negSucc m, .ofNat n => (n - (n &&& m) : Nat)
    | .negSucc m, .negSucc n => -((m ||| n : Nat) : Int) - 1
  let disjunction (a b : Int) : Int := a + b - conjunction a b
  match name with
  | "__and__" | "__rand__" => some (digits (conjunction a b))
  | "__or__" | "__ror__" => some (digits (disjunction a b))
  | "__xor__" | "__rxor__" => some (digits (disjunction a b - conjunction a b))
  | "__lshift__" => some (shifted a b true)
  | "__rshift__" => some (shifted a b false)
  | "__rlshift__" => some (shifted b a true)
  | "__rrshift__" => some (shifted b a false)
  | _ => none

/-- An operator between sets. The receiver's values come first, unless it is the right operand. -/
def ofSets (name : String) (vs others : List Value) : Exec Value := do
  match name with
  | "__and__" | "__rand__" => do newSet (← SetMethod.selected true vs others)
  | "__sub__" => do newSet (← SetMethod.selected false vs others)
  | "__rsub__" => do newSet (← SetMethod.selected false others vs)
  | "__xor__" | "__rxor__" => do
    newSet ((← SetMethod.selected false vs others) ++ (← SetMethod.selected false others vs))
  | _ => newSet (vs ++ others)

/-- The names of the operators of sets. -/
def setNames : List String :=
  MemberTable.names setOperators

/-- A place of a list that an assignment may use. -/
def placeIn (items : Array Value) (key : Value) : Exec Nat := do
  match index? key with
  | none => do
    typeError ("list indices must be integers or slices, not " ++ (← typeName key))
  | some i =>
    if (Nat.pow 2 63 : Nat) ≤ i ∨ i < -(Nat.pow 2 63 : Nat) then
      fail .badIndex "cannot fit 'int' into an index-sized integer"
    else match position? items.size i with
      | some n => pure n
      | none => fail .badIndex "list assignment index out of range"

/-- Whether a comparison of a value with another is decided by their kinds. -/
def comparable (v other : Value) (ordered : Bool) : Exec Bool := do
  let h := (← machine).heap
  let isSet (v : Value) : Bool := v.classOf h = .set
  pure <| match v, other with
    | .str .., o | .safe .., o => o.asText?.isSome
    | .bytes .., .bytes .. => true
    | .range .., .range .. | .method .., .method .. | .generic .., .generic .. => !ordered
    | .complex .., o => !ordered && takesNumber v o
    | .view .values _, _ => false
    | .view .., .view .values _ => false
    | .view .., .view .. => true
    | .view .., o => isSet o
    | .ref m, .ref n => match h.get m, h.get n with
      | .list _, .list _ | .tuple .., .tuple .. | .set _, .set _ => true
      | .dict _, .dict _ => !ordered
      | _, _ => false
    | v, o => takesNumber v o

/-- A comparison as a method. -/
def compared (op : CompareOp) (v other : Value) : Exec Value := do
  let ordered := op ≠ .eq ∧ op ≠ .ne
  if ← comparable v other ordered then
    match op with
    | .eq => do pure (.bool (← equal v other))
    | .ne => do pure (.bool (!(← equal v other)))
    | op => do pure (.bool (← onHeap fun h => Value.order h op v other))
  else if !ordered && (← same v other) then pure (.bool (op = .eq))
  else pure .notImplemented

/-- The hash of a number. -/
def hashOf (v : Value) : Exec Value := do
  onHeap fun h => Value.hashable h v
  let modulus : Nat := Nat.pow 2 61 - 1
  let ofInt (i : Int) : Int :=
    let r : Int := (i.natAbs % modulus : Nat)
    let r := if i < 0 then -r else r
    if r = -1 then -2 else r
  match v.number? with
  | some (.inl i) => pure (.int (ofInt i))
  | some (.inr x) => match Binary64.isWhole x, Binary64.truncate? x with
    | true, some i => pure (.int (ofInt i))
    | _, _ => pure (.int 0)
  | none => pure (.int 0)

/-- The methods that change a list or one of its items. -/
def changeList? (E : Engine) (id : Nat) (items : Array Value) (name : String) (given : Given) :
    Exec (Option Value) := do
  let first := given.get 0
  match name with
  | "__setitem__" => do
    let n ← placeIn items first
    store id (.list (items.setIfInBounds n (← keep (given.get 1))))
    pure (some .none)
  | "__delitem__" => do
    let n ← placeIn items first
    store id (.list (items.eraseIdxIfInBounds n))
    pure (some .none)
  | "__iadd__" => do
    discard (ListMethod.call E id items "extend" given)
    pure (some (.ref id))
  | "__imul__" => do
    let n ← repeatCount items.size (← asInteger first)
    store id (.list (List.replicate n items.toList).flatten.toArray)
    pure (some (.ref id))
  | _ => pure none

/-- A new dictionary of the entries of two, of which those of the second one override those of the
first one; it knows no other operand than a dictionary. -/
def merged (es : Entries) (reflected : Bool) (other : Value) : Exec (Option Value) := do
  match other with
  | .ref id => match ← fetch id with
    | .dict more => do
      pure (some (← DictMethod.ofEntries (if reflected then more ++ es else es ++ more).toList))
    | _ => pure (some .notImplemented)
  | _ => pure (some .notImplemented)

/-- The methods that change a dictionary or one of its entries, and those that merge it with another
one. -/
def changeDict? (E : Engine) (id : Nat) (es : Entries) (name : String) (given : Given) :
    Exec (Option Value) := do
  let first := given.get 0
  match name with
  | "__setitem__" => do
    let key ← keep first
    let x ← keep (given.get 1)
    store id (.dict (← onHeap fun h => es.insert h key x))
    pure (some .none)
  | "__delitem__" => do
    match ← onHeap fun h => es.find? h first with
    | some _ => do
      store id (.dict (← onHeap fun h => es.erase h first))
      pure (some .none)
    | none => keyFailure first
  | "__ior__" => do
    discard (DictMethod.update E id es { positional := [first] })
    pure (some (.ref id))
  | "__or__" => merged es false first
  | "__ror__" => merged es true first
  | _ => pure none

/-- Change a set to what an operator makes of it and another set; it knows no other operand. -/
def changeSet (id : Nat) (items : List Value) (operator : String) (other : Value) :
    Exec (Option Value) := do
  match other with
  | .ref n => match ← fetch n with
    | .set others => do
      match ← ofSets operator items others.toList with
      | .ref result => store id (← fetch result)
      | _ => pure ()
      pure (some (.ref id))
    | _ => pure (some .notImplemented)
  | _ => pure (some .notImplemented)

/-- The methods that change a set. -/
def changeSet? (id : Nat) (items : List Value) (name : String) (given : Given) :
    Exec (Option Value) := do
  match name with
  | "__iand__" => changeSet id items "__and__" (given.get 0)
  | "__ior__" => changeSet id items "__or__" (given.get 0)
  | "__isub__" => changeSet id items "__sub__" (given.get 0)
  | "__ixor__" => changeSet id items "__xor__" (given.get 0)
  | _ => pure none

/-- The methods that change a container or one of its items. -/
def changing? (E : Engine) (v : Value) (name : String) (given : Given) : Exec (Option Value) := do
  match v with
  | .ref id => match ← fetch id with
    | .list items => changeList? E id items name given
    | .dict es => changeDict? E id es name given
    | .set items => changeSet? id items.toList name given
    | _ => pure none
  | _ => pure none

/-- The name of an iterator over a value from its end. -/
def reversedName (h : Heap) : Value → Text
  | .range .. => "range_iterator"
  | .view .keys _ => "dict_reversekeyiterator"
  | .view .values _ => "dict_reversevalueiterator"
  | .view .items _ => "dict_reverseitemiterator"
  | .ref id => match h.get id with
    | .dict _ => "dict_reversekeyiterator"
    | _ => "list_reverseiterator"
  | _ => "reversed"

/-- The methods that yield an iterator, or its next value. -/
def iterating? (E : Engine) (v : Value) (name : String) : Exec (Option Value) := do
  match name with
  | "__iter__" => do pure (some (.ref (← openIterator v)))
  | "__next__" => match v with
    | .ref id => do
      match ← E.next id with
      | some x => pure (some x)
      | none => do
        pure (some (← undefined
          "value was undefined because a callable raised a StopIteration exception"))
    | _ => pure none
  | "__reversed__" => do
    let name := reversedName (← machine).heap v
    let items ← collect E v
    pure (some (.ref (← alloc (.iterator name false (.values items.reverse)))))
  | _ => pure none

/-- The methods of a single operand, and those that look at parts of it. -/
def looking? (v : Value) (name : String) (given : Given) : Exec (Option Value) := do
  let first := given.get 0
  match name with
  | "__str__" => do pure (some (.str (← text v)))
  | "__repr__" => do pure (some (.str (← quoted v)))
  | "__format__" => match first.asText? with
    | some spec => do
      let laidOut ← Braces.layout v spec
      -- a text that its field adds nothing to is handed back as it is
      match v with
      | .safe t _ => pure (some (if laidOut == t && !spec.isEmpty then v else .str laidOut))
      | _ => pure (some (.str laidOut))
    | none => do
      typeError ("__format__() argument must be str, not " ++ (← Strings.shownType first))
  | "__hash__" => do pure (some (← hashOf v))
  | "__len__" => do pure (some (.int (← lengthOf v)))
  | "__bool__" => do pure (some (.bool (← truth v)))
  | "__contains__" => do
    match ← contains? first v with
    | some b => pure (some (.bool b))
    | none => pure (some (.bool false))
  | "__getitem__" => do pure (some (← subscript v first))
  | "__getattribute__" => match first.asText? with
    | some attr => do pure (some (← Braces.attributeOf v attr))
    | none => do
      typeError ("attribute name must be string, not '" ++ (← typeName first) ++ "'")
  | "__init__" | "__init_subclass__" => pure (some .none)
  | "__subclasshook__" => pure (some .notImplemented)
  | "__neg__" => do pure (some (← unary .neg v))
  | "__pos__" => do pure (some (← unary .pos v))
  | "__abs__" => match v, v.number? with
    | .complex x y _, _ => pure (some (.float (Complex64.magnitude ⟨x, y⟩)))
    | _, some (.inl i) => pure (some (.int i.natAbs))
    | _, some (.inr x) => pure (some (.float (if Binary64.isNegative x then -x else x)))
    | _, none => pure none
  | "__int__" | "__index__" => do pure (some (.int (← toInteger v)))
  | "__float__" => do pure (some (.float (← toReal v)))
  | "__invert__" => do pure (some (.int (-(← toInteger v) - 1)))
  | _ => pure none

/-- The operators between a set and another one; a part of a dictionary also takes what yields
values. -/
def joinSets? (E : Engine) (v : Value) (name : String) (other : Value) : Exec (Option Value) := do
  let h := (← machine).heap
  if (v.members? h).isNone then pure none
  else if v.isSetView then do
    let theirs ← SetMethod.valuesOf E other
    pure (some (← ofSets name (← collect E v) theirs))
  else if other.classOf h = .set then do
    pure (some (← ofSets name (← collect E v) (← collect E other)))
  else pure (some .notImplemented)

/-- The modulus that an argument stands for. -/
def modulus? : Option Value → Option Value
  | some .none => none
  | m => m

/-- An arithmetic operator of a number, modulo another value if one is given. -/
def joinNumbers (E : Engine) (op : BinaryOp) (reflected : Bool) (v other : Value)
    (modulus : Option Value) : Exec (Option Value) := do
  if generality? v = some 1 && modulus.isSome then
    typeError "pow() 3rd argument not allowed unless all arguments are integers"
  else if !takesNumber v other then pure (some .notImplemented)
  else match modulus with
    | none => do pure (some (← applied E op reflected v other))
    | some m => match index? v, index? other, index? m with
      | some a, some b, some m =>
        do pure (some (← powerWith (if reflected then b else a) (if reflected then a else b) m))
      | none, _, _ => fail .badValue "complex modulo"
      | _, _, _ => pure (some .notImplemented)

/-- Whether both values are texts, or both are byte strings. -/
def areStrings (v other : Value) : Bool :=
  v.asText?.isSome && other.asText?.isSome ||
    (Flavour.binary.content? v).isSome && (Flavour.binary.content? other).isSome

/-- An arithmetic operator of a value that is not a number. -/
def joinContents (E : Engine) (op : BinaryOp) (reflected : Bool) (v other : Value) :
    Exec (Option Value) := do
  if op = .mul then do pure (some (← repeatedValue "*" v (.int (← asInteger other))))
  else if op = .mod && reflected && !areStrings v other then pure (some .notImplemented)
  else do pure (some (← applied E op reflected v other))

/-- Whether both values are truth values. -/
def areTruths : Value → Value → Bool
  | .bool _, .bool _ => true
  | _, _ => false

/-- An operator of integers on their binary digits. -/
def joinDigits? (v : Value) (name : String) (other : Value) : Exec (Option Value) :=
  match v.number?, other.number? with
  | some (.inl a), some (.inl b) =>
    match bitwise? name (areTruths v other) a b with
    | some result => do pure (some (← result))
    | none => pure none
  | some (.inl _), _ => pure ((bitwise? name false 0 0).map fun _ => .notImplemented)
  | _, _ => pure none

/-- The operators between a receiver and another value. -/
def joining? (E : Engine) (v : Value) (name : String) (given : Given) : Exec (Option Value) := do
  let other := given.get 0
  let isNumber := (generality? v).isSome
  if setNames.contains name && !isNumber then joinSets? E v name other
  else match name with
  | "__divmod__" =>
    if takesNumber v other then do pure (some (← divided v other)) else pure (some .notImplemented)
  | "__rdivmod__" =>
    if takesNumber v other then do pure (some (← divided other v)) else pure (some .notImplemented)
  | _ => match arithmetic? name with
    | some (op, reflected) =>
      if isNumber then joinNumbers E op reflected v other (modulus? (given.at? 1))
      else joinContents E op reflected v other
    | none => if isNumber then joinDigits? v name other else pure none

/-- What a value that is not there answers. -/
def ofUndefined (v : Value) (strict : Bool) (message : Text) (name : String)
    (given : Given) : Exec Value := do
  match strict, name with
  | false, "__str__" => pure (.str [])
  | false, "__len__" => pure (.int 0)
  | false, "__bool__" => pure (.bool false)
  | false, "__iter__" => do
    pure (.ref (← alloc (.iterator "generator" false (.values []))))
  | _, "__aiter__" =>
    if strict then raise (undefinedUse message)
    else do pure (.ref (← alloc (.iterator "async_generator" true (.values []))))
  | false, "__eq__" | false, "__ne__" =>
    let alike := match given.get 0 with | .undefined .. => true | _ => false
    pure (.bool (alike == (name == "__eq__")))
  | false, "__hash__" => pure (.int 0)
  | _, "__repr__" => do pure (.str (← quoted v))
  | _, _ => do
    if (Class.undefined.ownMembers.find? name).isSome then raise (undefinedUse message)
    else match ← looking? v name given with
      | some x => pure x
      | none => raise (undefinedUse message)

/-- Call one of these methods; none if the receiver has no such method of this kind. -/
def call? (E : Engine) (v : Value) (name : String) (given : Given) : Exec (Option Value) := do
  match comparison? name with
  | some op => do pure (some (← compared op v (given.get 0)))
  | none =>
    match ← changing? E v name given with
    | some x => pure (some x)
    | none => match ← iterating? E v name with
      | some x => pure (some x)
      | none => match ← looking? v name given with
        | some x => pure (some x)
        | none =>
          if isSpecialName name then joining? E v name given else pure none

end OperandMethod

end Template

end Stencil
