import Stencil.Failure
import Stencil.Model
import Stencil.Number.Binary64
import Stencil.Template.Class
import Stencil.Template.Code

/-!
# Values and the machine

The values of a running template. What can be changed or shared lives on a heap and is referred to by
its place there.

## Main definitions

- `Value` — values and references
- `Object` — what the heap holds
- `Machine` — the heap, the text written so far and the switches
- `Exec` — computations on a machine that may fail and may ask for another template to be rendered
-/

namespace Stencil

namespace Template

/-- Which object a value is that has no place on the heap. Two values of the same content may be
different objects. -/
inductive Identity where
  /-- Nothing holds the value yet. -/
  | fresh
  /-- The value is held, under a number of its own. -/
  | held (n : Nat)
  /-- A constant of the running template; equal constants are one object. -/
  | constant
  deriving DecidableEq, Repr, Inhabited

inductive Value where
  | none
  | bool (b : Bool)
  | int (i : Int) (self : Identity := .fresh)
  | float (x : Float) (self : Identity := .fresh)
  | complex (re im : Float) (self : Identity := .fresh)
  | str (t : Text) (self : Identity := .fresh)
  /-- Text that is HTML already. -/
  | safe (t : Text) (self : Identity := .fresh)
  | bytes (b : Bytes) (self : Identity := .fresh)
  | range (start stop step : Int) (self : Identity := .fresh)
  /-- The answer of an operator that does not know the other side. -/
  | notImplemented
  /-- The content of a slot that nothing was assigned to. -/
  | missing
  /-- A value that is not there. A strict one fails at every use. -/
  | undefined (strict : Bool) (message : Text) (self : Identity := .fresh)
  /-- A heap object. -/
  | ref (id : Nat)
  /-- A class, which can be called like a function. -/
  | kind (c : Class)
  /-- The function that makes up filler text. -/
  | lipsum
  /-- A function that renders other templates. Each template was given one of its own; they are
  numbered. -/
  | render (helper : Nat)
  /-- A method of a value. -/
  | method (self : Value) (name : Text)
  /-- A class with the classes of its items, which are a tuple on the heap. -/
  | generic (c : Class) (arguments : Nat)
  /-- A part of a class. A method is to be called with a value first. -/
  | unbound (c : Class) (name : Text)
  /-- The blocks of the running template, in a context. -/
  | blocks (context : Nat)
  | block (context : Nat) (name : Text)
  /-- Keys, values or items of a dictionary. -/
  | view (part : View) (dict : Nat)
  deriving Inhabited

/-- The entries of a dictionary, in the order of their first insertion. -/
abbrev Entries := Array (Value × Value)

/-- Where an iterator takes its values from. -/
inductive Source where
  /-- Values that are known already. -/
  | values (rest : List Value)
  /-- A list by index, with the changes made meanwhile. -/
  | live (list : Nat) (next : Nat)
  | counting (next stop step : Int)
  /-- A dictionary with a fixed number of entries. -/
  | entries (dict : Nat) (part : View) (size next : Nat)
  /-- The rounds of a running loop that are left, each with the loop. -/
  | rounds (loop : Nat)
  /-- The values of another iterator under a filter or an attribute. -/
  | mapped (source : Nat) (filter : Value) (args : List Value) (keywords : List (Text × Value))
  | mappedAttr (source : Nat) (path : List Value) (default : Value)
  /-- The values of another iterator that pass a test. -/
  | selected (source : Nat) (keep : Bool) (path : Option (List Value)) (test : Option Value)
      (args : List Value) (keywords : List (Text × Value))
  /-- The values of another iterator that pass the condition of a loop. -/
  | filtered (source : Nat) (record context : Nat) (level : Nat) (place : Place) (loads : Loads)
      (condition : Term)
  /-- Values without those whose key was `seen` before. -/
  | distinct (rest : List Value) (seen : List Value) (path : List Value) (caseSensitive : Bool)
  /-- The values of another iterator in groups; `pending` is the group that is not full yet, latest
  value first. -/
  | batched (source : Nat) (size filler : Value) (pending : List Value)
  /-- What a filter that works on demand yields, before its first value was asked for. -/
  | deferred (filter : Text) (value : Value) (args : List Value) (keywords : List (Text × Value))
  deriving Inhabited

/-- The state of a loop that its body can ask about. -/
structure LoopState where
  iterable : Value
  iterator : Nat
  index0 : Int := -1
  length : Option Nat := none
  after : Option Value := none
  current : Value := .missing
  before : Value := .missing
  lastChanged : Option (List Value) := none
  depth0 : Nat
  strict : Bool
  /-- The loop itself as a function, if it is recursive. -/
  recursion : Option Nat := none
  deriving Inhabited

/-- What the heap holds. -/
inductive Object where
  | list (items : Array Value)
  /-- A tuple; a group also has names for its items. -/
  | tuple (items : Array Value) (names : List Text)
  | dict (entries : Entries)
  | set (items : Array Value)
  | namespace (attrs : Entries)
  | cycler (items : Array Value) (position : Nat)
  | joiner (separator : Value) (used : Bool)
  /-- An argument of a safe format text, whose text is escaped. -/
  | escapeHelper (v : Value)
  /-- An iterator. An asynchronous one serves loops and the filters that wait for values. -/
  | iterator (name : Text) (asynchronous : Bool) (source : Source)
  | loop (state : LoopState)
  /-- A procedure of a template with the frames it was defined in. -/
  | procedure (signature : Signature) (level : Nat) (loads : Loads) (body : List Code)
      (record context : Nat) (escapes : Value)
  /-- The body of a recursive loop with the frames it stands in. -/
  | recursion (level : Nat) (place : Place) (filter : Option (Loads × Term)) (special : Option Slot)
      (loads : Loads) (body : List Code) (orElse : Option (Loads × List Code))
      (escaping : Escaping) (record context : Nat)
  /-- The slots of a running function, and the record of the function around it. -/
  | record (level : Nat) (slots : Array (Slot × Value)) (outer : Option Nat)
  /-- The variables of a template, those that it was given and those that it has made itself. -/
  | context (name : Text) (given : Array (Text × Value)) (own : Array (Text × Value))
      (blocks : List Block)
  deriving Inhabited

/-- The objects of a machine. -/
abbrev Heap := Array Object

namespace Heap

def get (h : Heap) (id : Nat) : Object :=
  h.getD id (.list #[])

end Heap

/-- A piece of output: a text, or a value of a kind that cannot be joined with texts. -/
inductive Piece where
  | text (t : Text)
  | foreign (kind : Text)
  deriving Inhabited

/-- The state of a running template. -/
structure Machine where
  /-- Whether undefined values are strict. -/
  strict : Bool
  heap : Heap := #[]
  /-- How many values outside the heap have been given an identity. -/
  identities : Nat := 0
  /-- The constant tuples that have a place on the heap. -/
  constants : List (Literal × Nat) := []
  /-- The pieces written so far, latest first. -/
  output : List Piece := []
  /-- The switch for escaping. -/
  autoescape : Value := .bool false
  deriving Inhabited

/-- The request to render another template. -/
structure HelperCall where
  /-- The function that was called, by its number. -/
  helper : Nat
  name : Value
  /-- The model, if one was given. -/
  model : Value
  /-- Variables that override the model's. -/
  values : List (Text × Value)
  deriving Inhabited

/-- How a computation ends: with a result, or with a request whose answer it goes on with. -/
inductive Step (α : Type) where
  | done (result : Except Raised α) (machine : Machine)
  | nested (call : HelperCall) (machine : Machine)
      (resume : Value → Machine → Step α)

namespace Step

def bind {α β : Type} (s : Step α) (f : α → Machine → Step β) : Step β :=
  match s with
  | done (.ok a) m => f a m
  | done (.error e) m => done (.error e) m
  | nested call m resume => nested call m fun v m => (resume v m).bind f

/-- A step whose failure is its result. -/
def attempted {α : Type} : Step α → Step (Except Raised α)
  | done result m => done (.ok result) m
  | nested call m resume => nested call m fun v m => (resume v m).attempted

end Step

/-- Computations of a running template. -/
def Exec (α : Type) : Type := Machine → Step α

namespace Exec

@[inline] def result {α : Type} (a : α) : Exec α := fun m => .done (.ok a) m

@[inline] def andThen {α β : Type} (x : Exec α) (f : α → Exec β) : Exec β := fun m =>
  (x m).bind f

instance : Monad Exec where
  pure := result
  bind := andThen

@[inline] def raise {α : Type} (f : Raised) : Exec α := fun m => .done (.error f) m

instance {α : Type} : Inhabited (Exec α) := ⟨raise default⟩

def fail {α : Type} (kind : Kind) (text : Text)
    (foreign : kind.isForeign = true := by exact Eq.refl true) : Exec α :=
  raise (.ofText kind text foreign)

@[inline] def machine : Exec Machine := fun m => .done (.ok m) m

@[inline] def update (f : Machine → Machine) : Exec Unit := fun m => .done (.ok ()) (f m)

/-- The value of a computation that either way changes nothing. -/
def ofExcept {α : Type} : Except Raised α → Exec α
  | .ok a => pure a
  | .error f => raise f

/-- Ask for another template to be rendered. -/
def askRender (call : HelperCall) : Exec Value := fun m =>
  .nested call m fun v m => .done (.ok v) m

/-- Run a computation and go on also if it fails. What it changed stays changed. -/
def attempt {α : Type} (x : Exec α) : Exec (Except Raised α) := fun m =>
  (x m).attempted

/-- Put an object on the heap. -/
def alloc (o : Object) : Exec Nat := fun m =>
  .done (.ok m.heap.size) { m with heap := m.heap.push o }

def fetch (id : Nat) : Exec Object := fun m =>
  .done (.ok (m.heap.getD id (.list #[]))) m

def store (id : Nat) (o : Object) : Exec Unit := fun m =>
  .done (.ok ()) { m with heap := m.heap.setIfInBounds id o }

/-- A number that no value has as its identity yet. -/
def newIdentity : Exec Identity := fun m =>
  .done (.ok (.held m.identities)) { m with identities := m.identities + 1 }

/-- A value as it is held by a variable or a container: from now on it is one object. -/
def keep (v : Value) : Exec Value := do
  match v with
  | .int i .fresh => do pure (.int i (← newIdentity))
  | .float x .fresh => do pure (.float x (← newIdentity))
  | .complex x y .fresh => do pure (.complex x y (← newIdentity))
  | .str t .fresh => do pure (.str t (← newIdentity))
  | .safe t .fresh => do pure (.safe t (← newIdentity))
  | .bytes b .fresh => do pure (.bytes b (← newIdentity))
  | .range a b c .fresh => do pure (.range a b c (← newIdentity))
  | .undefined s t .fresh => do pure (.undefined s t (← newIdentity))
  | v => pure v

def keepAll (vs : List Value) : Exec (List Value) :=
  go [] vs
where
  go (acc : List Value) : List Value → Exec (List Value)
  | [] => pure acc.reverse
  | v :: rest => do
    let v ← keep v
    go (v :: acc) rest

def keepPairs (es : List (Value × Value)) : Exec (List (Value × Value)) :=
  go [] es
where
  go (acc : List (Value × Value)) : List (Value × Value) → Exec (List (Value × Value))
  | [] => pure acc.reverse
  | (k, v) :: rest => do
    let k ← keep k
    let v ← keep v
    go ((k, v) :: acc) rest

def newList (items : List Value) : Exec Value := do
  let items ← keepAll items
  let id ← alloc (.list items.toArray)
  pure (.ref id)

def newTuple (items : List Value) : Exec Value := do
  let items ← keepAll items
  let id ← alloc (.tuple items.toArray [])
  pure (.ref id)

def newDict (entries : List (Value × Value)) : Exec Value := do
  let entries ← keepPairs entries
  let id ← alloc (.dict entries.toArray)
  pure (.ref id)

/-- Run a computation on each member of a list. -/
def forEach {α β : Type} (xs : List α) (f : α → Exec β) : Exec (List β) :=
  go [] xs
where
  go (acc : List β) : List α → Exec (List β)
  | [] => pure acc.reverse
  | x :: rest => do
    let y ← f x
    go (y :: acc) rest

def forAll {α : Type} (f : α → Exec Unit) : List α → Exec Unit
  | [] => pure ()
  | x :: rest => do
    f x
    forAll f rest

def fold {α β : Type} (f : β → α → Exec β) (b : β) : List α → Exec β
  | [] => pure b
  | x :: rest => do
    let b ← f b x
    fold f b rest

def findIndex (p : Value → Exec Bool) : List Value → Exec (Option Nat) :=
  go 0
where
  go (n : Nat) : List Value → Exec (Option Nat)
  | [] => pure none
  | x :: rest => do
    if ← p x then pure (some n) else go (n + 1) rest

/-- A value that is not there, as strict as the machine is. -/
def undefined (message : Text) : Exec Value := fun m =>
  .done (.ok (.undefined m.strict message)) m

end Exec

/-- Put a model's value on the heap. -/
def Value.ofModel : Model → Exec Value
  | .none => pure .none
  | .bool b => pure (.bool b)
  | .int i => Exec.keep (.int i)
  | .float x => Exec.keep (.float x)
  | .str t => Exec.keep (.str t)
  | .safe t => Exec.keep (.safe t)
  | .bytes b => Exec.keep (.bytes b)
  | .list items => do Exec.newList (← ofItems items)
  | .tuple items => do Exec.newTuple (← ofItems items)
  | .dict entries => do Exec.newDict (← ofEntries entries)
where
  ofItems : List Model → Exec (List Value)
  | [] => pure []
  | x :: rest => do
    let v ← ofModel x
    pure (v :: (← ofItems rest))
  ofEntries : List (Text × Model) → Exec (List (Value × Value))
  | [] => pure []
  | (n, x) :: rest => do
    let v ← ofModel x
    pure ((.str n, v) :: (← ofEntries rest))

/-- The value of a literal as an object of its own. -/
def Value.anew : Literal → Exec Value
  | .none => pure .none
  | .bool b => pure (.bool b)
  | .int i => pure (.int i)
  | .float x => pure (.float x)
  | .complex x y => pure (.complex x y)
  | .str t => pure (.str t)
  | .safe t => pure (.safe t)
  | .list items => do Exec.newList (← ofItems items)
  | .tuple items => do Exec.newTuple (← ofItems items)
  | .dict entries => do Exec.newDict (← ofEntries entries)
where
  ofItems : List Literal → Exec (List Value)
  | [] => pure []
  | x :: rest => do
    let v ← anew x
    pure (v :: (← ofItems rest))
  ofEntries : List (Literal × Literal) → Exec (List (Value × Value))
  | [] => pure []
  | (k, x) :: rest => do
    let k ← anew k
    let v ← anew x
    pure ((k, v) :: (← ofEntries rest))

/-- The value of a literal. A constant tuple is made only once. -/
def Value.ofLiteral : Literal → Exec Value
  | .none => pure .none
  | .bool b => pure (.bool b)
  | .int i => pure (.int i .constant)
  | .float x => pure (.float x .constant)
  | .complex x y => pure (.complex x y .constant)
  | .str t => pure (.str t .constant)
  | .safe t => pure (.safe t)
  | .list items => do Exec.newList (← ofItems items)
  | .tuple items => do
    let l := Literal.tuple items
    match (← Exec.machine).constants.find? fun (k, _) => k.same l with
    | some (_, id) => pure (.ref id)
    | Option.none => do
      let v ← Exec.newTuple (← ofItems items)
      match v with
      | .ref id =>
        if l.isFixed then Exec.update fun m => { m with constants := (l, id) :: m.constants }
      | _ => pure ()
      pure v
  | .dict entries => do Exec.newDict (← ofEntries entries)
where
  ofItems : List Literal → Exec (List Value)
  | [] => pure []
  | x :: rest => do
    let v ← ofLiteral x
    pure (v :: (← ofItems rest))
  ofEntries : List (Literal × Literal) → Exec (List (Value × Value))
  | [] => pure []
  | (k, x) :: rest => do
    let k ← ofLiteral k
    let v ← ofLiteral x
    pure ((k, v) :: (← ofEntries rest))

end Template

end Stencil
