import Stencil.Template.Filter
import Stencil.Template.Test

/-!
# Running templates

The evaluator: expressions, statements, loops, procedures and the functions that templates can call.

## Main definitions

- `evalTerm`, `runCode` — one expression and one statement, given an engine for their parts
- `callValue`, `nextValue` — one call, and one step of an iterator
- `engine` — the evaluator that nests calls up to a depth
- `Program.render` — the output of a template in a context

## Design notes

Every function takes the engine that evaluates what it calls. `engine (n + 1)` is made of these
functions over `engine n`, and `engine 0` refuses, so the evaluator is total and a template that nests
too deeply fails like any other.
-/

namespace Stencil

namespace Template

open Exec

/-! ### Slots -/

/-- The record that holds the slots of a level, seen from an inner record. A record is always made after
the one around it. -/
def ownerOf (h : Heap) (level record : Nat) : Nat :=
  match h.get record with
  | .record own _ (some outer) =>
    if own ≤ level then record
    else if outer < record then ownerOf h level outer
    else record
  | _ => record
termination_by record

def readSlot (record : Nat) (s : Slot) : Exec Value := do
  let m ← machine
  match m.heap.get (ownerOf m.heap s.level record) with
  | .record _ slots _ => pure (((slots.find? fun (t, _) => t == s).map (·.2)).getD .missing)
  | _ => pure .missing

def writeSlot (record : Nat) (s : Slot) (v : Value) : Exec Unit := do
  let v ← keep v
  let m ← machine
  let owner := ownerOf m.heap s.level record
  match m.heap.get owner with
  | .record level slots outer =>
    let slots := match slots.findIdx? fun (t, _) => t == s with
      | some n => slots.setIfInBounds n (s, v)
      | none => slots.push (s, v)
    store owner (.record level slots outer)
  | _ => pure ()

/-- The variable of a name in a context. -/
def resolve (context : Nat) (name : Text) : Exec Value := do
  match ← fetch context with
  | .context _ given own _ =>
    let found := (own.find? fun (n, _) => n == name).or (given.find? fun (n, _) => n == name)
    pure ((found.map (·.2)).getD .missing)
  | _ => pure .missing

/-- Put a pair into a list of pairs; a known name keeps its place. -/
def putVariable (vars : Array (Text × Value)) (name : Text) (v : Value) : Array (Text × Value) :=
  match vars.findIdx? fun (n, _) => n == name with
  | some n => vars.setIfInBounds n (name, v)
  | none => vars.push (name, v)

/-- Make a variable of the context. -/
def exportName (context : Nat) (name : Text) (v : Value) : Exec Unit := do
  let v ← keep v
  match ← fetch context with
  | .context n given own blocks => store context (.context n given (putVariable own name v) blocks)
  | _ => pure ()

/-- Give the slots of a frame what they hold at first; those that hold nothing come last. -/
def enterFrame (s : Scope) (loads : Loads) : Exec Unit := do
  forAll (fun (slot, load) => do
    match load with
    | .parameter | .undefined => pure ()
    | .resolve name => do writeSlot s.record slot (← resolve s.context name)
    | .alias other => do writeSlot s.record slot (← readSlot s.record other)) loads
  forAll (fun (slot, load) =>
    if load = .undefined then writeSlot s.record slot .missing else pure ()) loads

/-- Forget what the slots of a frame hold. -/
def leaveFrame (s : Scope) (loads : Loads) : Exec Unit :=
  forAll (fun (slot, _) => writeSlot s.record slot .missing) loads

/-! ### Output -/

def emit (p : Piece) : Exec Unit :=
  update fun m => { m with output := p :: m.output }

/-- The pieces of an output as one text. -/
def joinPieces (pieces : List Piece) : Exec Text :=
  go 0 pieces
where
  go (n : Nat) : List Piece → Exec Text
  | [] => pure []
  | .text t :: rest => do pure (t ++ (← go (n + 1) rest))
  | .foreign kind :: _ =>
    typeError (("sequence item " : Text) ++ Text.ofNat n ++ ": expected str instance, " ++ kind ++
      " found")

/-- The text that a computation writes. -/
def capture (x : Exec Unit) : Exec Text := do
  let before := (← machine).output
  update fun m => { m with output := [] }
  x
  let pieces := (← machine).output
  update fun m => { m with output := before }
  joinPieces pieces.reverse

/-- Whether text is escaped. -/
def escapes : Escaping → Exec Bool
  | .on => pure true
  | .off => pure false
  | .switch => Filter.escaping

/-- A captured text as a value. -/
def capturedValue (e : Escaping) (t : Text) : Exec Value := do
  pure (SafeMethod.made (← escapes e) t)

/-- Write a value as it is. -/
def emitRaw (v : Value) : Exec Unit := do
  match v.asText? with
  | some t => emit (.text t)
  | none => do emit (.foreign (← typeName v))

/-! ### Expressions -/

/-- Whether a value is among those that an iterator yields; the iterator is left behind it. -/
def amongYielded (E : Engine) (v : Value) (iterator : Nat) : Nat → Exec Bool
  | 0 => fail .memory []
  | fuel + 1 => do
    match ← E.next iterator with
    | none => pure false
    | some x => if ← alike x v then pure true else amongYielded E v iterator fuel

def membership (E : Engine) (v container : Value) : Exec Bool := do
  match ← contains? v container with
  | some b => pure b
  | none =>
    if ← isIterable container then do amongYielded E v (← openIterator container) roundLimit
    else do typeError (("argument of type '" : Text) ++ (← typeName container) ++ "' is not iterable")

def compareBy (E : Engine) (op : CompareOp) (a b : Value) : Exec Bool := do
  match op with
  | .eq => equal a b
  | .ne => do pure !(← equal a b)
  | .isIn => membership E a b
  | .notIn => do pure !(← membership E a b)
  | op => onHeap fun h => Value.order h op a b

/-- The entries of a mapping whose keys are texts, as keywords of function `function` beside the
`known` ones. -/
def keywordsOf (function : Text) (known : List (Text × Value)) (v : Value) :
    Exec (List (Text × Value)) := do
  let es? ← match v with
    | .ref id => match ← fetch id with
      | .dict es => pure (some es.toList)
      | _ => pure none
    | _ => pure none
  match es? with
  | none => typeError (function ++ " argument after ** must be a mapping, not " ++ (← typeName v))
  | some es =>
    let names := es.filterMap fun (k, _) => k.asText?
    match names.find? fun n => (known.lookup n).isSome with
    | some n => typeError (function ++ " got multiple values for keyword argument " ++ n.quoted)
    | none => forEach es fun (k, x) => do
      match k.asText? with
      | none => typeError "keywords must be strings"
      | some n => pure (n, x)

/-- The arguments of a call by function `function`: positional ones, those spread out, named ones, and
`further` ones. -/
def evalArgs (E : Engine) (s : Scope) (function : Text) (args : Args)
    (further : List (Text × Value)) : Exec CallArgs := do
  let positional ← forEach args.positional (E.eval s)
  let spread ← match args.spread with
    | none => pure []
    | some e => do
      let v ← E.eval s e
      if ← isIterable v then collect E v
      else typeError (("Value after * must be an iterable, not " : Text) ++ (← typeName v))
  let keywords ← forEach args.keywords fun (n, e) => do pure (n, ← E.eval s e)
  let keywords := keywords ++ further
  let positional := positional ++ spread
  if args.gathered then
    let more ← match args.keywordSpread with
      | none => pure []
      | some e => do keywordsOf "dict()" [] (← E.eval s e)
    let keywords := (keywords ++ more).foldl (fun vars (n, v) => putVariable vars n v) #[]
    pure { positional, keywords := keywords.toList }
  else
    let more ← match args.keywordSpread with
      | none => pure []
      | some e => do keywordsOf function keywords (← E.eval s e)
    pure { positional, keywords := keywords ++ more }

/-- The keywords by which calls in loops and blocks tell their surroundings; what is called does not
see them. -/
def surroundingNames : List Text := ["_loop_vars", "_block_vars"]

/-- Call a value from a template. -/
def callFrom (E : Engine) (s : Scope) (f : Value) (args : Args) (further : List (Text × Value)) :
    Exec Value := do
  let args ← evalArgs E s "jinja2.runtime.Context.call()" args further
  E.call f { args with
    keywords := args.keywords.filter fun (n, _) => !surroundingNames.contains n }

/-- The number of items of a loop's iterable, if it tells; else the items are drawn in advance. -/
def loopLength (E : Engine) (id : Nat) (s : LoopState) : Exec Nat := do
  match s.length with
  | some n => pure n
  | none =>
    match ← attempt (lengthOf s.iterable) with
    | .ok n => do
      store id (.loop { s with length := some n })
      pure n
    | .error f =>
      if f.kind ≠ .wrongType then raise f
      else
        let rest ← drain E s.iterator
        let iterator ← alloc (.iterator "iterator" true (.values rest))
        let n := rest.length + (s.index0 + 1).toNat + if s.after.isSome then 1 else 0
        store id (.loop { s with length := some n, iterator })
        pure n

/-- The item after the current one. -/
def loopAhead (E : Engine) (id : Nat) (s : LoopState) : Exec (Option Value) := do
  match s.after with
  | some v => pure (some v)
  | none => do
    let v ← E.next s.iterator
    match ← fetch id with
    | .loop s => store id (.loop { s with after := v })
    | _ => pure ()
    pure v

/-- The attributes of a loop that look ahead. -/
def lookingAhead? (E : Engine) (v : Value) (name : Text) : Exec (Option Value) := do
  match v with
  | .ref id => match ← fetch id with
    | .loop s => match name.toName with
      | "length" => do pure (some (.int (← loopLength E id s)))
      | "revindex" => do pure (some (.int ((← loopLength E id s) - s.index0)))
      | "revindex0" => do pure (some (.int ((← loopLength E id s) - s.index0 - 1)))
      | "last" => do pure (some (.bool (← loopAhead E id s).isNone))
      | "nextitem" => do
        match ← loopAhead E id s with
        | some v => pure (some v)
        | none => do pure (some (← undefined "there is no next item"))
      | _ => pure none
    | _ => pure none
  | _ => pure none

/-- Evaluate comparisons from left to right as long as they hold. -/
def compareAll (E : Engine) (s : Scope) (left : Value) : List (CompareOp × Term) → Exec Value
  | [] => pure (.bool true)
  | (op, e) :: rest => do
    let right ← E.eval s e
    if ← compareBy E op left right then
      match rest with
      | [] => pure (.bool true)
      | rest => compareAll E s right rest
    else pure (.bool false)

/-- An optional part of a slice. -/
def evalPart (E : Engine) (s : Scope) : Option Term → Exec Value
  | none => pure .none
  | some e => E.eval s e

/-- Evaluate an expression. -/
def evalTerm (E : Engine) (s : Scope) : Term → Exec Value
  | .const l => Value.ofLiteral l
  | .unwritable n => fail .unknownName ("name " ++ n.quoted ++ " is not defined")
  | .var slot name given => do
    match ← readSlot s.record slot with
    | .missing => if given then pure .missing else undefined (name.quoted ++ " is undefined")
    | v => pure v
  | .tuple items => do newTuple (← forEach items (E.eval s))
  | .list items => do newList (← forEach items (E.eval s))
  | .dict entries => do
    let pairs ← forEach entries fun (k, e) => do
      let k ← E.eval s k
      pure (k, ← E.eval s e)
    let es ← onHeap fun h => Entries.insertAll h #[] pairs
    newDict es.toList
  | .conditional test yes no hint => do
    if ← truth (← E.eval s test) then E.eval s yes
    else match no with
      | some e => E.eval s e
      | none => pure (.undefined false hint)
  | .both l r => do
    let v ← E.eval s l
    if ← truth v then E.eval s r else pure v
  | .either l r => do
    let v ← E.eval s l
    if ← truth v then pure v else E.eval s r
  | .unary op e => do unary op (← E.eval s e)
  | .binary op l r => do
    let a ← E.eval s l
    binaryBy (opSymbol op) (collect E) op a (← E.eval s r)
  | .concat escaping parts => do concatenate escaping (← forEach parts (E.eval s))
  | .compare first rest => do compareAll E s (← E.eval s first) rest
  | .attr e name => do
    let v ← E.eval s e
    match ← lookingAhead? E v name with
    | some x => pure x
    | none => getAttr v name
  | .item e index => do
    let v ← E.eval s e
    let i ← E.eval s index
    match ← lookingAhead? E v (i.asText?.getD []) with
    | some x => pure x
    | none => getItem v i
  | .slice e start stop step => do
    let v ← E.eval s e
    let a ← evalPart E s start
    let b ← evalPart E s stop
    subscriptSlice v a b (← evalPart E s step)
  | .call f args => do
    let f ← E.eval s f
    callFrom E s f args []
  | .filter subject name args => do
    let v ← E.eval s subject
    E.filter name v (← evalArgs E s (Filter.function name.toName) args [])
  | .test subject name args => do
    let v ← E.eval s subject
    E.test name v (← evalArgs E s (Test.function name.toName) args [])
  | .unknown function message subject args => do
    discard (E.eval s subject)
    let args ← evalArgs E s function args []
    match args.keywords with
    | (n, _) :: _ => typeError (function ++ " got an unexpected keyword argument " ++ n.quoted)
    | [] => fail .templateRun message
  | .captured e => capturedValue e s.captured

/-! ### Places -/

/-- Set an attribute of a namespace. -/
def setMember (space : Value) (attr : Text) (v : Value) : Exec Unit := do
  let refuse : Exec Unit := do
    typeError ("'" ++ (← typeName space) ++ "' object does not support item assignment")
  match space with
  | .ref id => match ← fetch id with
    | .namespace es => store id (.namespace (es.putName attr v))
    | .dict es => store id (.dict (es.putName attr v))
    | .list _ => typeError "list indices must be integers or slices, not str"
    | _ => refuse
  | _ => refuse

def bindPlace (E : Engine) (s : Scope) : Place → Value → Exec Unit
  | .slot slot, v => writeSlot s.record slot v
  | .tuple items, v => do
    let parts ← unpack E items.length v
    forAll (fun (p, x) => E.bind s p x) (items.zip parts)
  | .member slot attr, v => do setMember (← readSlot s.record slot) attr v

mutual

/-- What the slots of a place hold. -/
def readPlace (s : Scope) : Place → Exec Value
  | .slot slot => readSlot s.record slot
  | .tuple items => do newTuple (← readPlaces s items)
  | .member slot _ => readSlot s.record slot

def readPlaces (s : Scope) : List Place → Exec (List Value)
  | [] => pure []
  | p :: rest => do
    let v ← readPlace s p
    pure (v :: (← readPlaces s rest))

end

/-! ### Loops -/

/-- The iterator of a loop over a value, under the condition of the loop. -/
def loopSource (s : Scope) (level : Nat) (place : Place) (filter : Option (Loads × Term))
    (v : Value) : Exec Nat := do
  match filter with
  | none => openWaiting v
  | some (loads, condition) =>
    let source ← openWaiting v
    let record ← alloc (.record level #[] (some s.record))
    enterFrame { s with record } loads
    alloc (.iterator "async_generator" true
      (.filtered source record s.context level place loads condition))

/-- Move a loop on to its next item. -/
def advanceLoop (E : Engine) (id : Nat) : Exec (Option Value) := do
  match ← fetch id with
  | .loop s => do
    let v ← match s.after with
      | some v => pure (some v)
      | none => E.next s.iterator
    match v, ← fetch id with
    | some v, .loop s => do
      store id (.loop { s with
        after := none, index0 := s.index0 + 1, before := s.current, current := v })
      pure (some v)
    | _, _ => pure none
  | _ => pure none

/-- Run the rounds of a loop, and tell whether there was one. -/
def rounds (E : Engine) (s : Scope) (next : Exec (Option Value)) (place : Place) (loads : Loads)
    (body : List Code) : Nat → Bool → Exec Bool
  | 0, any => pure any
  | fuel + 1, any => do
    match ← next with
    | none => pure any
    | some v => do
      E.bind s place v
      enterFrame s loads
      E.run s body
      rounds E s next place loads body fuel true

/-- Run a loop over a value in the frame of its body, and its alternative if there is no round. -/
def runLoop (E : Engine) (s : Scope) (level : Nat) (place : Place)
    (filter : Option (Loads × Term)) (special : Option Slot) (recursion : Option Nat)
    (depth0 : Nat) (loads : Loads) (body : List Code) (orElse : Option (Loads × List Code))
    (v : Value) : Exec Unit := do
  let iterator ← loopSource s level place filter v
  let next : Exec (Option Value) ← match special with
    | none => pure (E.next iterator)
    | some slot => do
      let strict := (← machine).strict
      let iterable : Value := if filter.isSome then .ref iterator else v
      let loop ← alloc (.loop { iterable, iterator, depth0, strict, recursion })
      writeSlot s.record slot .missing
      pure do
        let x ← advanceLoop E loop
        writeSlot s.record slot (.ref loop)
        pure x
  let any ← rounds E s next place loads body roundLimit false
  leaveFrame s loads
  match any, orElse with
  | false, some (loads, code) => do
    enterFrame s loads
    E.run s code
    leaveFrame s loads
  | _, _ => pure ()

/-! ### Calls -/

/-- Run a block in a context. -/
def runBlock (E : Engine) (context : Nat) (name : Text) : Exec Unit := do
  match ← fetch context with
  | .context _ _ _ blocks => match blocks.find? (·.name == name) with
    | some b => do
      let record ← alloc (.record 0 #[] none)
      let s : Scope := { record, context }
      match b.selfSlot with
      | some slot => writeSlot record slot (.blocks context)
      | none => pure ()
      match b.superSlot with
      | some slot => do
        writeSlot record slot (← undefined ("there is no parent block called " ++ name.quoted ++ "."))
      | none => pure ()
      enterFrame s b.loads
      E.run s b.body
    | none => pure ()
  | _ => pure ()

/-- The values of a procedure's formal parameters; those not given are missing. -/
def formalValues (formals : List Formal) (args : CallArgs) : List (Formal × Value) :=
  formals.zipIdx.map fun (f, n) =>
    (f, (args.positional[n]?).getD ((args.keywords.lookup f.name).getD .missing))

/-- Call a procedure of a template. -/
def callProcedure (E : Engine) (signature : Signature) (level : Nat) (loads : Loads)
    (body : List Code) (outer context : Nat) (args : CallArgs) : Exec Value := do
  let name : Text := match signature.name with
    | some n => n.quoted
    | none => "None"
  let formals := signature.formals
  let values := formalValues formals args
  let unfilled := (formals.drop args.positional.length).map (·.name)
  let keywords := args.keywords.filter fun (n, _) => !unfilled.contains n
  let caller ← match signature.caller with
    | none => pure none
    | some slot => do
      match (keywords.lookup ("caller" : Text)).getD .none with
      | .none => do pure (some (slot, ← undefined "No caller defined"))
      | v => pure (some (slot, v))
  let keywords := if signature.caller.isSome then
      keywords.filter fun (n, _) => n != ("caller" : Text) else keywords
  match signature.keywords, keywords with
  | none, (n, _) :: _ =>
    if (keywords.lookup ("caller" : Text)).isSome then
      typeError (("macro " : Text) ++ name ++ " was invoked with two values for the special caller " ++
        "argument. This is most likely a bug.")
    else typeError (("macro " : Text) ++ name ++ " takes no keyword argument " ++ n.quoted)
  | _, _ =>
    if signature.rest.isNone ∧ formals.length < args.positional.length then
      typeError (("macro " : Text) ++ name ++ " takes not more than " ++ Text.ofNat formals.length ++
        " argument(s)")
    else
      let safe ← Filter.escaping
      let record ← alloc (.record level #[] (some outer))
      let s : Scope := { record, context }
      forAll (fun (f, v) => writeSlot record f.slot v) values
      match caller with
      | some (slot, v) => writeSlot record slot v
      | none => pure ()
      match signature.keywords with
      | some slot => do
        writeSlot record slot (← newDict (keywords.map fun (n, v) => (.str n, v)))
      | none => pure ()
      match signature.rest with
      | some slot => do
        writeSlot record slot (← newTuple (args.positional.drop formals.length))
      | none => pure ()
      enterFrame s loads
      forAll (fun f => do
        match ← readSlot record f.slot, f.default with
        | .missing, some e => do writeSlot record f.slot (← E.eval s e)
        | .missing, none => do
          writeSlot record f.slot (← undefined ("parameter " ++ f.name.quoted ++ " was not provided"))
        | _, _ => pure ()) formals
      let t ← capture (E.run s body)
      pure (SafeMethod.made safe t)

/-- The words of filler text. -/
def fillerWords : List Text := [
  "lorem", "ipsum", "dolor", "sit", "amet", "consectetuer", "adipiscing", "elit", "mus", "ut",
  "semper", "nisi", "per", "arcu", "magna", "in"]

/-- A paragraph of filler text. -/
def fillerParagraph (count : Nat) : Text :=
  let words := (List.range count).map fun n => fillerWords.getD (n % fillerWords.length) []
  Text.capitalize (Text.join " " words) ++ "."

/-- Filler text of a number of paragraphs, each of at least as many words as asked for. -/
def filler (args : CallArgs) : Exec Value := do
  match ← args.bind { function := "generate_lorem_ipsum", formals := [
      ("n", some (.int 5)), ("html", some (.bool true)), ("min", some (.int 20)),
      ("max", some (.int 100))] } with
  | [n, html, least, most] => do
    let n ← asInteger n
    let paragraphs ← if n ≤ 0 then pure [] else do
      let least ← asInteger least
      let most ← asInteger most
      if most ≤ least then
        fail .badValue (("empty range for randrange() (" : Text) ++ Text.ofInt least ++ ", " ++
          Text.ofInt most ++ ", " ++ Text.ofInt (most - least) ++ ")")
      else pure (List.replicate n.toNat (fillerParagraph least.toNat))
    if ← truth html then
      pure (.safe (Text.join "\n" (paragraphs.map fun p => ("<p>" : Text) ++ p ++ "</p>")))
    else pure (.str (Text.join "\n\n" paragraphs))
  | _ => pure .none

/-- Ask for another template: its name, a model, and variables by name. -/
def callRender (helper : Nat) (args : CallArgs) : Exec Value := do
  let own : List Text := ["name", "model"]
  let named := args.keywords.filter fun (n, _) => own.contains n
  let values := args.keywords.filter fun (n, _) => !own.contains n
  let bound ← ({ args with keywords := named } : CallArgs).bind {
    function := "Renderer._nested_renderer.<locals>.render"
    formals := [("name", none), ("model", some .none)] }
  askRender { helper, name := bound[0]?.getD .none, model := bound[1]?.getD .none, values }

/-- Call a value. -/
def callValue (E : Engine) (f : Value) (args : CallArgs) : Exec Value := do
  let refuse : Exec Value := do
    typeError ("'" ++ (← typeName f) ++ "' object is not callable")
  match f with
  | .undefined _ message _ => raise (undefinedUse message)
  | .kind c | .generic c _ => c.construct E args
  | .lipsum => filler args
  | .render helper => callRender helper args
  | .method self name => callMethod E self name args
  | .unbound c name => if c.fields.contains name.toName then refuse else callUnbound E c name args
  | .block context name => do
    discard (args.bind { function := "BlockReference.__call__", hidden := ["self"], formals := [] })
    capturedValue .switch (← capture (runBlock E context name))
  | .ref id => match ← fetch id with
    | .procedure signature level loads body record context _ =>
      callProcedure E signature level loads body record context args
    | .joiner separator used => do
      discard (args.bind { function := "Joiner.__call__", hidden := ["self"], formals := [] })
      if used then pure separator
      else
        store id (.joiner separator true)
        pure (.str [])
    | .loop s => do
      let values ← args.bind { function := "LoopContext.__call__", hidden := ["self"],
                               formals := [("iterable", none)] }
      match s.recursion with
      | some r => E.call (.ref r) { positional := values ++ [.int (s.depth0 + 1)] }
      | none =>
        typeError "The loop must have the 'recursive' marker to be called recursively."
    | .recursion level place filter special loads body orElse escaping record context => do
      let record ← alloc (.record level #[] (some record))
      let s : Scope := { record, context }
      let depth0 ← asInteger (args.positional[1]?.getD (.int 0))
      let t ← capture (runLoop E s level place filter special (some id) depth0.toNat loads body
        orElse (args.positional[0]?.getD .none))
      capturedValue escaping t
    | _ => refuse
  | _ => refuse

/-! ### Iterators -/

/-- The next value that a selection lets through. -/
def nextSelected (E : Engine) (source : Nat) (passes : Value → Exec (Option Value)) :
    Nat → Exec (Option Value)
  | 0 => pure none
  | fuel + 1 => do
    match ← E.next source with
    | none => pure none
    | some v => match ← passes v with
      | some v => pure (some v)
      | none => nextSelected E source passes fuel

/-- The name of a filter or a test that a value tells. -/
def nameAmong (names : List String) (what : Text) (v : Value) : Exec Text := do
  onHeap fun h => Value.hashable h v
  match v, v.asText? with
  | .undefined _ message _, _ =>
    fail .templateRun ("No " ++ what ++ " named Undefined. (" ++ message ++
      "; did you forget to quote the callable name?)")
  | _, some t =>
    if names.contains t.toName then pure t
    else do fail .templateRun ("No " ++ what ++ " named " ++ (← quoted v) ++ ".")
  | _, none => do fail .templateRun ("No " ++ what ++ " named " ++ (← quoted v) ++ ".")

/-- The next value of an iterator. -/
def nextValue (E : Engine) (id : Nat) : Exec (Option Value) := do
  match ← fetch id with
  | .iterator name asynchronous source =>
    let goOn (source : Source) : Exec Unit := store id (.iterator name asynchronous source)
    match source with
    | .values [] => pure none
    | .values (v :: rest) => do
      goOn (.values rest)
      pure (some v)
    | .live list n => match ← fetch list with
      | .list items => match items[n]? with
        | some v => do
          goOn (.live list (n + 1))
          pure (some v)
        | none => do
          goOn (.values [])
          pure none
      | _ => pure none
    | .counting i stop step =>
      if (0 < step ∧ i < stop) ∨ (step < 0 ∧ stop < i) then do
        goOn (.counting (i + step) stop step)
        pure (some (.int i))
      else pure none
    | .entries dict kind size n => match ← fetch dict with
      | .dict es =>
        if es.size ≠ size then fail .runtime "dictionary changed size during iteration"
        else match es[n]? with
          | some e => do
            goOn (.entries dict kind size (n + 1))
            pure (some (← viewItem kind e))
          | none => do
            goOn (.values [])
            pure none
      | _ => pure none
    | .rounds loop => do
      match ← advanceLoop E loop with
      | some v => do pure (some (← newTuple [v, .ref loop]))
      | none => pure none
    | .distinct rest seen path caseSensitive => do
      match ← Filter.nextDistinct path caseSensitive seen rest with
      | some (v, source) => do
        goOn source
        pure (some v)
      | none => do
        goOn (.values [])
        pure none
    | .batched source size filler pending => do
      match ← Filter.nextBatch E source size filler roundLimit pending with
      | some (v, source) => do
        goOn source
        pure (some v)
      | none => do
        goOn (.values [])
        pure none
    | .mapped source filter args keywords => do
      match ← E.next source with
      | none => pure none
      | some v =>
        let name ← nameAmong Filter.names "filter" filter
        pure (some (← E.filter name v { positional := args, keywords }))
    | .mappedAttr source path default => do
      match ← E.next source with
      | none => pure none
      | some v => do pure (some (← follow default path v))
    | .selected source keep path test args keywords =>
      nextSelected E source (fun v => do
        let x ← follow .none (path.getD []) v
        let holds ← match test with
          | none => truth x
          | some t =>
            let name ← nameAmong Test.names "test" t
            truth (← E.test name x { positional := args, keywords })
        pure (if holds == keep then some v else none)) roundLimit
    | .filtered source record context _ place _ condition =>
      let s : Scope := { record, context }
      nextSelected E source (fun v => do
        E.bind s place v
        if ← truth (← E.eval s condition) then do pure (some (← readPlace s place))
        else pure none) roundLimit
    | .deferred filter v args keywords => do
      goOn (← Filter.deferred E filter v args keywords)
      E.next id
  | _ => pure none

/-! ### Statements -/

/-- Run the first arm whose condition holds. -/
def runBranch (E : Engine) (s : Scope) (orElse : List Code) : List (Term × List Code) → Exec Unit
  | [] => E.run s orElse
  | (test, body) :: rest => do
    if ← truth (← E.eval s test) then E.run s body else runBranch E s orElse rest

/-- Refuse to get another template. -/
def noLoader {α : Type} : Exec α :=
  typeError "no loader for this environment specified"

def needTemplate (E : Engine) (v : Value) (selects ignoreMissing : Bool) : Exec Unit := do
  let unnamed (message : Text) : Exec Unit :=
    if ignoreMissing then pure () else fail .templatesMissing message
  if selects then
    match v with
    | .undefined _ message _ => raise (undefinedUse message)
    | .str .. | .safe .. => noLoader
    | v => do
      if ← truth v then
        match ← collect E v with
        | [] => unnamed (("none of the templates given were found: " : Text))
        | _ => noLoader
      else unnamed "Tried to select from an empty list of templates."
  else noLoader

/-- Derive a context that also has the given variables. -/
def deriveContext (s : Scope) (visible : List (Text × Slot)) : Exec Nat := do
  match ← fetch s.context with
  | .context name given own blocks => do
    let all := own.foldl (fun vars (n, v) => putVariable vars n v) given
    let vars ← fold (fun vars (n, slot) => do
      match ← readSlot s.record slot with
      | .missing => pure vars
      | v => pure (putVariable vars n v)) all visible
    alloc (.context name vars #[] blocks)
  | _ => pure s.context

/-- Run a statement. -/
def runCode (E : Engine) (s : Scope) : Code → Exec Unit
  | .text t => emit (.text t)
  | .output escaping e => do
    let v ← E.eval s e
    if ← escapes escaping then emit (.text (← SafeMethod.escaped v)) else emit (.text (← text v))
  | .assign spaces place value exports => do
    forAll (fun slot => do
      let isSpace ← match ← readSlot s.record slot with
        | .ref id => match ← fetch id with
          | .namespace _ => pure true
          | _ => pure false
        | _ => pure false
      if isSpace then pure ()
      else fail .templateRun "cannot assign attribute on non-namespace object") spaces
    E.bind s place (← E.eval s value)
    forAll (fun (n, slot) => do exportName s.context n (← readSlot s.record slot)) exports
  | .assignBlock loads body place value exports => do
    enterFrame s loads
    let captured ← capture (E.run s body)
    let v ← E.eval { s with captured } value
    let v ← if ← Filter.escaping then do pure (.safe (← text v)) else pure v
    E.bind s place v
    forAll (fun (n, slot) => do exportName s.context n (← readSlot s.record slot)) exports
    leaveFrame s loads
  | .forLoop level place source filter special recursive loads body orElse escaping => do
    if recursive then
      let id ← alloc (.recursion level place filter special loads body orElse escaping s.record
        s.context)
      let iterator ← openWaiting (← E.eval s source)
      emitRaw (← E.call (.ref id) { positional := [.ref iterator, .int 0] })
    else
      runLoop E s level place filter special none 0 loads body orElse (← E.eval s source)
  | .branch arms orElse => runBranch E s orElse arms
  | .withVars loads bindings body => do
    enterFrame s loads
    forAll (fun (p, e) => do E.bind s p (← E.eval s e)) bindings
    E.run s body
    leaveFrame s loads
  | .autoescape loads value body => do
    enterFrame s loads
    let before := (← machine).autoescape
    let v ← E.eval s value
    update fun m => { m with autoescape := v }
    E.run s body
    update fun m => { m with autoescape := before }
    leaveFrame s loads
  | .block name required visible => do
    if required then fail .templateRun (("Required block " : Text) ++ name.quoted ++ " not found")
    else
      let context ← match visible with
        | none => pure s.context
        | some slots => deriveContext s slots
      runBlock E context name
  | .needsTemplate template selects ignoreMissing => do
    needTemplate E (← E.eval s template) selects ignoreMissing
  | .extendedTwice => fail .templateRun "extended multiple times"
  | .define signature level loads body target exported => do
    let autoescape := (← machine).autoescape
    let id ← alloc (.procedure signature level loads body s.record s.context autoescape)
    writeSlot s.record target (.ref id)
    match exported with
    | some n => exportName s.context n (.ref id)
    | none => pure ()
  | .callSection signature level loads body f args => do
    let autoescape := (← machine).autoescape
    let id ← alloc (.procedure signature level loads body s.record s.context autoescape)
    let f ← E.eval s f
    emitRaw (← callFrom E s f args [("caller", .ref id)])
  | .filterSection loads body value => do
    enterFrame s loads
    let captured ← capture (E.run s body)
    emitRaw (← E.eval { s with captured } value)
    leaveFrame s loads

/-! ### The engine -/

/-- How deeply evaluation may nest. -/
def depthLimit : Nat := 4000

/-- The evaluator that nests up to a depth. -/
def engine : Nat → Engine
  | 0 => {
      eval := fun _ _ => tooDeep
      run := fun _ _ => tooDeep
      bind := fun _ _ _ => tooDeep
      enter := fun _ _ => tooDeep
      call := fun _ _ => tooDeep
      next := fun _ => tooDeep
      filter := fun _ _ _ => tooDeep
      test := fun _ _ _ => tooDeep }
  | n + 1 =>
    let E := engine n
    { eval := evalTerm E
      run := fun s code => forAll (runCode E s) code
      bind := bindPlace E
      enter := enterFrame
      call := callValue E
      next := nextValue E
      filter := fun name v args =>
        match Filter.ofName? E (lookingAhead? E) name.toName v args with
        | some x => x
        | none => fail .templateRun (("No filter named " : Text) ++ name.quoted ++ " found.")
      test := fun name v args =>
        match Test.ofName? E Filter.names name.toName v args (membership E) with
        | some x => x
        | none => fail .templateRun (("No test named " : Text) ++ name.quoted ++ " found.") }
where
  tooDeep {α : Type} : Exec α := fail .recursion "maximum recursion depth exceeded"

/-- The engine that templates run on. -/
def standardEngine : Engine :=
  engine depthLimit

/-- The functions that every template can call, by name. -/
def globals : List (Text × Value) := [
  ("range", .kind .range), ("dict", .kind .dict), ("lipsum", .lipsum),
  ("cycler", .kind .cycler), ("joiner", .kind .joiner), ("namespace", .kind .namespace)]

/-- The output of a template with the given variables. -/
def Program.render (p : Program) (given : List (Text × Value)) : Exec Text := do
  let known := given.foldl (fun vars (n, v) => putVariable vars n v) globals.toArray
  let context ← alloc (.context p.name known #[] p.blocks)
  let record ← alloc (.record 0 #[] none)
  let s : Scope := { record, context }
  let outside ← machine
  update fun m => { m with autoescape := .bool p.autoescape, strict := p.strict }
  match p.selfSlot with
  | some slot => writeSlot record slot (.blocks context)
  | none => pure ()
  enterFrame s p.loads
  let t ← capture (standardEngine.run s p.body)
  update fun m => { m with autoescape := outside.autoescape, strict := outside.strict }
  pure t

/-- The output of a template that is run on its own, where no other templates can be asked for. -/
def Program.output (p : Program) (given : List (Text × Model)) : Except Failure Text :=
  let run : Exec Text := do
    let values ← forEach given fun (n, v) => do pure (n, ← Value.ofModel v)
    p.render values
  match run { strict := p.strict } with
  | .done result _ => result.mapError Raised.failure
  | .nested .. => .error (.ofText .runtime "no other templates can be rendered here")

end Template

end Stencil
