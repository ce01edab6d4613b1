import Stencil.Template.Conversion

/-!
# Calls

The arguments of a call, and how functions match them with what they take.

## Main definitions

- `CallArgs` — positional and named arguments
- `CallArgs.take` — the arguments of a function with a convention of its own
- `Parameters` and `CallArgs.bind` — the arguments of a written function
- `Engine` — what filters and methods need of the evaluator
-/

namespace Stencil

namespace Template

open Exec

/-- The arguments of a call. -/
structure CallArgs where
  positional : List Value := []
  keywords : List (Text × Value) := []
  deriving Inhabited

/-- Where a piece of code runs. -/
structure Scope where
  /-- The slots of the running function. -/
  record : Nat
  context : Nat
  /-- What the section that is being closed has captured. -/
  captured : Text := []
  deriving Inhabited

/-- The evaluator, as seen from what it calls. Each engine is backed by one that may nest calls less
deeply. -/
structure Engine where
  eval : Scope → Term → Exec Value
  run : Scope → List Code → Exec Unit
  /-- Bind a place to a value. -/
  bind : Scope → Place → Value → Exec Unit
  enter : Scope → Loads → Exec Unit
  call : Value → CallArgs → Exec Value
  /-- The next value of an iterator. -/
  next : Nat → Exec (Option Value)
  filter : Text → Value → CallArgs → Exec Value
  test : Text → Value → CallArgs → Exec Value
  deriving Inhabited

/-- The parameters of a written function. -/
structure Parameters where
  /-- How messages name the function. -/
  function : Text
  /-- The parameters that the caller supplies unseen, in front of the others. -/
  hidden : List Text := []
  /-- Names, with a default for those that may be missing. -/
  formals : List (Text × Option Value)
  /-- How many parameters, hidden ones included, are taken by position only. -/
  leading : Nat := 0
  deriving Inhabited

namespace CallArgs

/-- Quoted names joined for a message. -/
def nameList : List Text → Text
  | [] => []
  | [a] => a.quoted
  | [a, b] => a.quoted ++ " and " ++ b.quoted
  | several => match several.reverse with
    | last :: before => Text.join ", " (before.reverse.map Text.quoted) ++ ", and " ++ last.quoted
    | [] => []

def plural (n : Nat) : Text :=
  if n = 1 then "" else "s"

def surplus {α : Type} (p : Parameters) (given : Nat) : Exec α :=
  let most := p.hidden.length + p.formals.length
  let least := p.hidden.length + (p.formals.filter (·.2.isNone)).length
  let count : Text := if least = most then Text.ofNat most
    else "from " ++ Text.ofNat least ++ " to " ++ Text.ofNat most
  let ending : Text := if least = most then plural most else "s"
  let verb : Text := if given = 1 then " was given" else " were given"
  typeError (p.function ++ "() takes " ++ count ++ " positional argument" ++ ending ++ " but " ++
    Text.ofNat given ++ verb)

/-- The first keyword that a written function refuses: one that is unknown, or one whose parameter is
filled by position already. -/
def refusedKeyword? (p : Parameters) (names taken : List Text) :
    List (Text × Value) → Option (Text × Bool)
  | [] => none
  | (n, _) :: rest =>
    if !(names.drop p.leading).contains n then some (n, false)
    else if taken.contains n then some (n, true)
    else refusedKeyword? p names taken rest

/-- The values of the parameters, in their order, without the hidden ones. -/
def bind (p : Parameters) (args : CallArgs) : Exec (List Value) := do
  let names := p.hidden ++ p.formals.map (·.1)
  let given := p.hidden.length + args.positional.length
  match refusedKeyword? p names (names.take given) args.keywords with
  | some (n, true) => typeError (p.function ++ "() got multiple values for argument " ++ n.quoted)
  | some (n, false) =>
    let unnamed := (names.take p.leading).filter fun n => (args.keywords.lookup n).isSome
    if unnamed.isEmpty then
      typeError (p.function ++ "() got an unexpected keyword argument " ++ n.quoted)
    else
      typeError (p.function ++ "() got some positional-only arguments passed as keyword arguments: '"
        ++ Text.join ", " unnamed ++ "'")
  | none =>
    if names.length < given then surplus p given
    else
      let rest := p.formals.drop args.positional.length
      let absent := rest.filterMap fun (n, default) =>
        if default.isNone && (args.keywords.lookup n).isNone then some n else none
      match absent with
      | [] =>
        pure (args.positional ++ rest.map fun (n, default) =>
          (args.keywords.lookup n).getD (default.getD .none))
      | absent =>
        typeError (p.function ++ "() missing " ++ Text.ofNat absent.length ++
          " required positional argument" ++ plural absent.length ++ ": " ++ nameList absent)

/-- How messages bound a number of arguments. -/
def bounds (least most given : Nat) : Text × Nat :=
  if least = most then ("", most)
  else if given < least then ("at least ", least)
  else ("at most ", most)

/-- Check the number of positional arguments of a function that messages name `name`. -/
def checkPositions (name : Text) (least most given : Nat) : Exec Unit :=
  if given < least ∨ most < given then
    let (bound, n) := bounds least most given
    typeError (name ++ " expected " ++ bound ++ Text.ofNat n ++ " argument" ++ plural n ++ ", got " ++
      Text.ofNat given)
  else pure ()

/-- Check the number of arguments of a function that takes them by position or by name: `given` by
position, and `all` together. -/
def checkCounts (name : Text) (total leading required positional given all : Nat) : Exec Unit :=
  let count (bound : Text) (n : Nat) (kind : Text) (given : Nat) : Exec Unit :=
    typeError (name ++ "() takes " ++ bound ++ Text.ofNat n ++ " " ++ kind ++ "argument" ++ plural n ++
      " (" ++ Text.ofNat given ++ " given)")
  if total < all then
    count (if total = required then "exactly " else "at most ") total
      (if given = 0 then "keyword " else "") all
  else if positional < given then
    if positional = 0 then typeError (name ++ "() takes no positional arguments")
    else count (if required < positional then "at most " else "exactly ") positional "positional " given
  else if given < leading then
    count (if leading < positional then "at least " else "exactly ") leading "positional " given
  else pure ()

/-- Refuse a keyword of a parameter that is filled by position, or of none. The first `filled` names
are. -/
def checkNames (name : Text) (names : List Text) (leading filled : Nat)
    (keywords : List (Text × Value)) : Exec Unit :=
  match (names.take filled).zipIdx.find? fun (n, _) => (keywords.lookup n).isSome with
  | some (n, k) =>
    typeError ("argument for " ++ name ++ "() given by name (" ++ n.quoted ++ ") and position (" ++
      Text.ofNat (leading + k + 1) ++ ")")
  | none =>
    match (keywords.map (·.1)).find? fun n => !names.contains n with
    | some n => typeError (n.quoted ++ " is an invalid keyword argument for " ++ name ++ "()")
    | none => pure ()

/-- The arguments of a function that takes them by position or by name. -/
def takeNamed (name : Text) (names : List Text) (leading required positional : Nat)
    (args : CallArgs) : Exec (List (Option Value)) := do
  let given := args.positional.length
  checkCounts name (leading + names.length) leading required positional given
    (given + args.keywords.length)
  let unfilled := names.drop (given - leading)
  let found := unfilled.map fun n => args.keywords.lookup n
  match (unfilled.zip (found.map Option.isSome)).zipIdx.find? fun ((_, is), k) =>
      !is && given + k < required with
  | some ((n, _), k) =>
    typeError (name ++ "() missing required argument " ++ n.quoted ++ " (pos " ++
      Text.ofNat (given + k + 1) ++ ")")
  | none =>
    if (found.filter Option.isSome).length < args.keywords.length then do
      checkNames name names leading (given - leading) args.keywords
      pure (args.positional.map some ++ found)
    else pure (args.positional.map some ++ found)

/-- The arguments of the function `name` of `owner`. Those that are left out are missing from the
list or from their places in it. A function that was taken from its class refuses some of them in other
words. -/
def take (owner name : Text) (c : Convention) (args : CallArgs) (ofClass : Bool := false) :
    Exec (List (Option Value)) := do
  let given := args.positional.length
  let full : Text := if owner.isEmpty then name else owner ++ "." ++ name
  let unnamed (function : Text) : Exec Unit :=
    if args.keywords.isEmpty then pure ()
    else typeError (function ++ "() takes no keyword arguments")
  match c with
  | .nothing =>
    unnamed full
    if given ≠ 0 then
      typeError (full ++ "() takes no arguments (" ++ Text.ofNat given ++ " given)")
    pure []
  | .one =>
    unnamed full
    if given ≠ 1 then
      typeError (full ++ "() takes exactly one argument (" ++ Text.ofNat given ++ " given)")
    pure (args.positional.map some)
  | .positions least most =>
    unnamed full
    checkPositions name least most given
    pure (args.positional.map some)
  | .counted least most =>
    unnamed (if ofClass then full else name)
    if given < least ∨ most < given then
      let (bound, n) := bounds least most given
      typeError (name ++ "() takes " ++ (if bound.isEmpty then ("exactly " : Text) else bound) ++
        Text.ofNat n ++ " argument" ++ plural n ++ " (" ++ Text.ofNat given ++ " given)")
    pure (args.positional.map some)
  | .several =>
    unnamed (if ofClass then full else name)
    pure (args.positional.map some)
  | .named names leading required positional =>
    takeNamed name (names.map Text.ofString) leading required positional args
  | .operands least most terse =>
    unnamed ("wrapper " ++ name)
    if terse then checkPositions [] least most given
    else if given < least ∨ most < given then
      let (bound, n) := bounds least most given
      typeError ("expected " ++ bound ++ Text.ofNat n ++ " argument" ++ plural n ++ ", got " ++
        Text.ofNat given)
    pure (args.positional.map some)
  | .free => pure (args.positional.map some)
  | .written formals leading =>
    let p : Parameters := {
      function := full
      hidden := ["self"]
      formals := formals.map fun f =>
        (Text.ofString f.name, if f.optional then some .missing else none)
      leading := leading + 1 }
    let values ← args.bind p
    pure (values.map fun v => match v with
      | .missing => none
      | v => some v)

end CallArgs

end Template

end Stencil
