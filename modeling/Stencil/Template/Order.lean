import Stencil.Template.Show

/-!
# Equality and order of values

## Main definitions

- `Value.equal` — equality; numbers of different kinds are equal by value
- `Value.hashable` — whether a value may be a key
- `Value.less` — the order of numbers, texts and sequences
- `Entries.find?`, `Entries.insert` — look-up in the entries of a dictionary
-/

namespace Stencil

namespace Template

namespace Value

/-- A real number as an integer or a float. -/
def number? : Value → Option (Int ⊕ Float)
  | bool b => some (.inl (if b then 1 else 0))
  | int i _ => some (.inl i)
  | float x _ => some (.inr x)
  | _ => Option.none

/-- The order of two numbers; none if one of them is not a number. -/
def compareNumbers : Int ⊕ Float → Int ⊕ Float → Option Ordering
  | .inl a, .inl b => some (compare a b)
  | .inr x, .inl b => Binary64.compareInt? x b
  | .inl a, .inr y => (Binary64.compareInt? y a).map Ordering.swap
  | .inr x, .inr y =>
    if x < y then some .lt else if y < x then some .gt else if x == y then some .eq
    else Option.none

/-- The failure of comparing a strict value that is not there. -/
def strictUse? : Value → Option Raised
  | undefined true message _ => some (undefinedUse message)
  | _ => Option.none

/-- The failure of using a value that is not there, strict or not. -/
def use? : Value → Option Raised
  | undefined _ message _ => some (undefinedUse message)
  | _ => Option.none

/-- The first and the last value of a range with its length, which determine it. -/
def rangeKey (start stop step : Int) : Nat × Int × Int :=
  let n := rangeLength start stop step
  (n, if n = 0 then 0 else start, if n ≤ 1 then 0 else step)

/-- Compare two lists of values item by item. -/
def allEqual (eq : Value → Value → Except Raised Bool) :
    List Value → List Value → Except Raised Bool
  | [], [] => .ok true
  | a :: s, b :: t => do
    if ← eq a b then allEqual eq s t else pure false
  | _, _ => .ok false

/-- Find the value of a key. -/
def findEntry (eq : Value → Value → Except Raised Bool) (key : Value) :
    List (Value × Value) → Except Raised (Option Value)
  | [] => .ok Option.none
  | (k, x) :: rest => do
    if ← eq k key then pure (some x) else findEntry eq key rest

/-- Whether every entry of one dictionary is in the other. -/
def entriesWithin (eq : Value → Value → Except Raised Bool) (other : List (Value × Value)) :
    List (Value × Value) → Except Raised Bool
  | [] => .ok true
  | (k, x) :: rest => do
    match ← findEntry eq k other with
    | some y => if ← eq x y then entriesWithin eq other rest else pure false
    | Option.none => pure false

/-- Whether two values of the same content are one object, by their identities. -/
def linked : Identity → Identity → Bool
  | .held m, .held n => m == n
  | .constant, .constant => true
  | _, _ => false

/-- Whether an object is the empty tuple. -/
def isEmptyTuple : Object → Bool
  | .tuple items [] => items.isEmpty
  | _ => false

/-- Whether two values are the same object. Small integers, short texts and the empty tuple exist only
once. -/
def same (h : Heap) : Value → Value → Bool
  | none, none => true
  | bool a, bool b => a == b
  | int a m, int b n => a == b && ((-5 ≤ a && a ≤ 256) || linked m n)
  | float x m, float y n => x.toBits == y.toBits && linked m n
  | complex x y m, complex u v n => x.toBits == u.toBits && y.toBits == v.toBits && linked m n
  | str s m, str t n => s == t && ((match s with
      | [] => true
      | [c] => c < 256
      | _ => false) || linked m n)
  | safe s m, safe t n => s == t && linked m n
  | bytes s m, bytes t n => s == t && (s.length < 2 || linked m n)
  | range a b c m, range x y z n => a == x && b == y && c == z && linked m n
  | undefined _ s m, undefined _ t n => s == t && linked m n
  | ref m, ref n => m == n || (isEmptyTuple (h.get m) && isEmptyTuple (h.get n))
  | kind a, kind b => a == b
  | notImplemented, notImplemented => true
  | lipsum, lipsum => true
  | render a, render b => a == b
  | missing, missing => true
  | blocks m, blocks n => m == n
  | _, _ => false

/-- A member of a set, or of what can be compared with one: the items of a dictionary are pairs. -/
inductive Member where
  | one (v : Value)
  | pair (key value : Value)

/-- The members of a set, or of the keys or items of a dictionary. -/
def members? (h : Heap) : Value → Option (List Member)
  | ref id => match h.get id with
    | .set items => some (items.toList.map .one)
    | _ => Option.none
  | view part d => match h.get d, part with
    | .dict es, .keys => some (es.toList.map fun (k, _) => .one k)
    | .dict es, .items => some (es.toList.map fun (k, v) => .pair k v)
    | _, _ => Option.none
  | _ => Option.none

/-- Whether two members are equal. -/
def memberEqual (h : Heap) (eq : Value → Value → Except Raised Bool) :
    Member → Member → Except Raised Bool
  | .one a, .one b => eq a b
  | .pair k v, .pair l w => do
    if ← eq k l then eq v w else pure false
  | .pair k v, .one (ref id) | .one (ref id), .pair k v => match h.get id with
    | .tuple items _ => match items.toList with
      | [l, w] => do
        if ← eq k l then eq v w else pure false
      | _ => .ok false
    | _ => .ok false
  | _, _ => .ok false

/-- Whether a member is among others. -/
def memberOf (h : Heap) (eq : Value → Value → Except Raised Bool) (m : Member) :
    List Member → Except Raised Bool
  | [] => .ok false
  | x :: rest => do
    if ← memberEqual h eq x m then pure true else memberOf h eq m rest

/-- Whether all members are among others. -/
def membersWithin (h : Heap) (eq : Value → Value → Except Raised Bool) (others : List Member) :
    List Member → Except Raised Bool
  | [] => .ok true
  | m :: rest => do
    if ← memberOf h eq m others then membersWithin h eq others rest else pure false

/-- Whether two values are equal that are neither both numbers nor both like sets. `inside` compares what
they contain. -/
def contentEqual (h : Heap) (inside : Value → Value → Except Raised Bool) (a b : Value) :
    Except Raised Bool :=
  match a, b with
  | none, none => .ok true
  | complex x y _, complex u v _ => .ok (x == u && y == v)
  | str s _, str t _ => .ok (s == t)
  | str s _, safe t _ => .ok (s == t)
  | safe s _, str t _ => .ok (s == t)
  | safe s _, safe t _ => .ok (s == t)
  | bytes s _, bytes t _ => .ok (s == t)
  | range a b c _, range x y z _ => .ok (rangeKey a b c == rangeKey x y z)
  | undefined .., undefined .. => .ok true
  | method s m, method t n => .ok (m == n && same h s t)
  | unbound c m, unbound d n => .ok (m == n && c == d)
  | generic c m, generic d n => match h.get m, h.get n with
    | .tuple s _, .tuple t _ => if c = d then allEqual inside s.toList t.toList else .ok false
    | _, _ => .ok false
  | ref m, ref n =>
    if m = n then .ok true
    else match h.get m, h.get n with
      | .list s, .list t => allEqual inside s.toList t.toList
      | .tuple s _, .tuple t _ => allEqual inside s.toList t.toList
      | .dict s, .dict t =>
        if s.size = t.size then entriesWithin inside t.toList s.toList else .ok false
      | _, _ => .ok false
  | _, _ => .ok (same h a b)

/-- Compare values as containers compare their items: a value is equal to itself, whatever it says. -/
def orSame (h : Heap) (eq : Value → Value → Except Raised Bool) (a b : Value) : Except Raised Bool :=
  if same h a b then .ok true else eq a b

def equalWith (h : Heap) : Nat → Value → Value → Except Raised Bool
  | 0, _, _ => .error (.ofText .recursion "maximum recursion depth exceeded in comparison")
  | fuel + 1, a, b =>
    match a.strictUse?, b.strictUse? with
    | some f, _ => .error f
    | Option.none, some f => .error f
    | Option.none, Option.none =>
      match a.number?, b.number? with
      | some x, some y => .ok (compareNumbers x y == some .eq)
      | some x, Option.none => match b with
        | complex u v _ => .ok (v == 0.0 && compareNumbers x (.inr u) == some .eq)
        | _ => .ok false
      | Option.none, some y => match a with
        | complex u v _ => .ok (v == 0.0 && compareNumbers (.inr u) y == some .eq)
        | _ => .ok false
      | _, _ =>
        match members? h a, members? h b with
        | some s, some t =>
          if s.length = t.length then membersWithin h (orSame h (equalWith h fuel)) t s else .ok false
        | _, _ => contentEqual h (orSame h (equalWith h fuel)) a b

/-- Whether two values are equal. -/
def equal (h : Heap) (a b : Value) : Except Raised Bool :=
  equalWith h nestingLimit a b

/-- Whether two values are the same object or else equal, as containers ask about their items. -/
def alike (h : Heap) (a b : Value) : Except Raised Bool :=
  if same h a b then .ok true else equal h a b

/-- Fails if a value cannot be a key. -/
def hashableWith (h : Heap) : Nat → Value → Except Raised Unit
  | 0, _ => .error (.ofText .recursion "maximum recursion depth exceeded")
  | fuel + 1, v =>
    let unhashable : Except Raised Unit :=
      .error (typeFailure ("unhashable type: '" ++ v.typeName h ++ "'"))
    match v with
    | undefined true message _ => .error (undefinedUse message)
    | view .values _ => .ok ()
    | view .. => unhashable
    | ref id => match h.get id with
      | .list _ | .dict _ | .set _ => unhashable
      | .tuple items _ => items.toList.forM (hashableWith h fuel)
      | _ => .ok ()
    | _ => .ok ()

def hashable (h : Heap) (v : Value) : Except Raised Unit :=
  hashableWith h nestingLimit v

/-- What a comparison of two values by order says. -/
def orderFailure (h : Heap) (op : Text) (a b : Value) : Raised :=
  typeFailure ("'" ++ op ++ "' not supported between instances of '" ++ a.typeName h ++ "' and '" ++
    b.typeName h ++ "'")

/-- The first place where two lists differ. -/
def firstDifference (eq : Value → Value → Except Raised Bool) :
    List Value → List Value → Except Raised (Option (Value × Value) ⊕ Ordering)
  | [], [] => .ok (.inr .eq)
  | [], _ => .ok (.inr .lt)
  | _, [] => .ok (.inr .gt)
  | a :: s, b :: t => do
    if ← eq a b then firstDifference eq s t else pure (.inl (some (a, b)))

/-- Whether an order operator holds between an ordering's two sides. -/
def holds (op : CompareOp) (o : Ordering) : Bool :=
  match op with
  | .lt => o == .lt
  | .le => o != .gt
  | .gt => o == .gt
  | .ge => o != .lt
  | _ => false

def opText : CompareOp → Text
  | .lt => "<"
  | .le => "<="
  | .gt => ">"
  | .ge => ">="
  | .eq => "=="
  | .ne => "!="
  | .isIn => "in"
  | .notIn => "not in"

/-- Compare two byte strings, lists or tuples by an order operator. `inside` compares items that differ. -/
def contentOrder (h : Heap) (op : CompareOp) (inside : Value → Value → Except Raised Bool) (a b : Value) :
    Except Raised Bool :=
  let refused : Except Raised Bool := .error (orderFailure h (opText op) a b)
  let sequences (s t : List Value) : Except Raised Bool := do
    match ← firstDifference (alike h) s t with
    | .inr o => pure (holds op o)
    | .inl (some (x, y)) => inside x y
    | .inl Option.none => pure false
  match a, b with
  | bytes s _, bytes t _ =>
    .ok (holds op (Text.compare (s.map UInt8.toNat) (t.map UInt8.toNat)))
  | ref m, ref n =>
    match h.get m, h.get n with
    | .list s, .list t => sequences s.toList t.toList
    | .tuple s _, .tuple t _ => sequences s.toList t.toList
    | _, _ => refused
  | _, _ => refused

/-- Compare two values by an order operator. -/
def orderWith (h : Heap) (op : CompareOp) : Nat → Value → Value → Except Raised Bool
  | 0, _, _ => .error (.ofText .recursion "maximum recursion depth exceeded in comparison")
  | fuel + 1, a, b =>
    match a.use?, b.use? with
    | some f, _ => .error f
    | Option.none, some f => .error f
    | Option.none, Option.none =>
      match a.number?, b.number? with
      | some x, some y => .ok (match compareNumbers x y with
        | some o => holds op o
        | Option.none => false)
      | _, _ =>
        match a.asText?, b.asText? with
        | some s, some t => .ok (holds op (Text.compare s t))
        | _, _ =>
          match members? h a, members? h b with
          | some s, some t =>
            let (small, large) := if op = .lt ∨ op = .le then (s, t) else (t, s)
            let proper := op = .lt ∨ op = .gt
            if large.length < small.length ∨ (proper ∧ small.length = large.length) then .ok false
            else membersWithin h (alike h) large small
          | _, _ => contentOrder h op (orderWith h op fuel) a b

/-- Whether `a op b` holds. -/
def order (h : Heap) (op : CompareOp) (a b : Value) : Except Raised Bool :=
  orderWith h op nestingLimit a b

def less (h : Heap) (a b : Value) : Except Raised Bool :=
  order h .lt a b

end Value

namespace Entries

/-- Where a key is. -/
def position? (h : Heap) (es : Entries) (key : Value) : Except Raised (Option Nat) :=
  go 0 es.toList
where
  go (n : Nat) : List (Value × Value) → Except Raised (Option Nat)
  | [] => .ok none
  | (k, _) :: rest => do
    if ← Value.alike h k key then pure (some n) else go (n + 1) rest

/-- The value of a key, which must be hashable. -/
def find? (h : Heap) (es : Entries) (key : Value) : Except Raised (Option Value) := do
  Value.hashable h key
  Value.findEntry (Value.alike h) key es.toList

/-- Set the value of a key; a known key keeps its place. -/
def insert (h : Heap) (es : Entries) (key value : Value) : Except Raised Entries := do
  Value.hashable h key
  match ← es.position? h key with
  | some n => pure (es.setIfInBounds n ((es.getD n (key, value)).1, value))
  | none => pure (es.push (key, value))

def insertAll (h : Heap) (es : Entries) (new : List (Value × Value)) : Except Raised Entries :=
  new.foldlM (fun es (k, x) => es.insert h k x) es

/-- The entries without a key. -/
def erase (h : Heap) (es : Entries) (key : Value) : Except Raised Entries := do
  match ← es.position? h key with
  | some n => pure (es.eraseIdxIfInBounds n)
  | none => pure es

/-- The value of a text key. -/
def ofName? (es : Entries) (name : Text) : Option Value :=
  (es.toList.find? fun (k, _) => k.asText? == some name).map (·.2)

/-- Set the value of a text key. -/
def putName (es : Entries) (name : Text) (value : Value) : Entries :=
  match es.toList.findIdx? fun (k, _) => k.asText? == some name with
  | some n => es.setIfInBounds n ((es.getD n (.str name, value)).1, value)
  | none => es.push (.str name, value)

end Entries

namespace Exec

def equal (a b : Value) : Exec Bool := fun m =>
  .done (a.equal m.heap b) m

/-- Whether two values are one object or else equal. -/
def alike (a b : Value) : Exec Bool := fun m =>
  .done (a.alike m.heap b) m

/-- Whether two values are one object. -/
def same (a b : Value) : Exec Bool := fun m =>
  .done (.ok (a.same m.heap b)) m

def less (a b : Value) : Exec Bool := fun m =>
  .done (a.less m.heap b) m

/-- Run a pure function of the heap. -/
def onHeap {α : Type} (f : Heap → Except Raised α) : Exec α := fun m =>
  .done (f m.heap) m

end Exec

end Template

end Stencil
