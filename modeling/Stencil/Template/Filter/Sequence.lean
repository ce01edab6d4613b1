import Stencil.Template.Filter.Text

/-!
# Filters for sequences

Filters that look at the items of their subject. Some yield their items on demand: they return an
iterator whose work starts with its first value.

## Main definitions

- `Filter.ofSequence?` — the filters that take their subject as a sequence
- `Filter.deferred` — the source of an iterator whose work has not started yet
- `Filter.nextDistinct`, `Filter.nextBatch` — one step of a filter that works on demand
-/

namespace Stencil

namespace Template

open Exec

namespace Filter

/-- An iterator that starts its work when the first value is asked for. -/
def onDemand (kind : Text) (asynchronous : Bool) (name : String) (v : Value)
    (args : CallArgs) : Exec Value := do
  let id ← alloc (.iterator kind asynchronous (.deferred name v args.positional args.keywords))
  pure (.ref id)

/-- The first item. -/
def first (E : Engine) (v : Value) : Exec Value := do
  match ← E.next (← openWaiting v) with
  | some x => pure x
  | none => undefined "No first item, sequence was empty."

/-- The items of a value from the last to the first. -/
def fromEnd (v : Value) : Exec (List Value) := do
  let items : Exec (List Value) := do
    match ← plainItems? v with
    | some vs => pure vs.reverse
    | none => do typeError ("'" ++ (← typeName v) ++ "' object is not reversible")
  match v with
  | .blocks _ => do typeError ("object of type '" ++ (← typeName v) ++ "' has no len()")
  | .ref id => match ← fetch id with
    | .set _ => do typeError ("'" ++ (← typeName v) ++ "' object is not reversible")
    | _ => items
  | _ => items

def last (v : Value) : Exec Value := do
  match ← fromEnd v with
  | x :: _ => pure x
  | [] => undefined "No last item, sequence was empty."

def reversed (E : Engine) (v : Value) : Exec Value := do
  match v with
  | .str t _ => pure (.str t.reverse)
  | .safe t _ => pure (.safe t.reverse)
  | v => match ← attempt (fromEnd v) with
    | .ok vs => do pure (.ref (← alloc (.iterator "list_reverseiterator" false (.values vs))))
    | .error f =>
      if f.kind ≠ .wrongType then raise f
      else match ← attempt (collect E v) with
        | .ok vs => newList vs.reverse
        | .error f =>
          if f.kind = .wrongType then
            raise (.because (.ofText .filterArgument "argument must be iterable") f)
          else raise f

/-- An item that is picked at random, from a sequence in which there is only one choice to tell. -/
def picked (v : Value) : Exec Value := do
  let none : Exec Value := undefined "No random item, sequence was empty."
  if (← lengthOf v) = 0 then none
  else match ← attempt (subscript v (.int 0)) with
    | .ok x => pure x
    | .error f => if f.kind = .badIndex then none else raise f

/-- The texts of items with a separator between them. If one of them is safe, the others are escaped. -/
def joinItems (items : List Value) (separator : Value) : Exec Value := do
  if ← escaping then
    if isSafe separator then
      let separator ← text separator
      pure (.safe (Text.join separator (← forEach items SafeMethod.escaped)))
    else
      let texts ← forEach items text
      if items.any isSafe then
        let parts := (items.zip texts).map fun (v, t) => if isSafe v then t else Markup.escape t
        pure (.safe (Text.join (← SafeMethod.escaped separator) parts))
      else do pure (.str (Text.join (← text separator) texts))
  else
    let separator ← text separator
    pure (.str (Text.join separator (← forEach items text)))

/-- The smallest or greatest item by a key; of equal ones the first. -/
def extreme (greatest : Bool) (caseSensitive path : Value) (items : List Value) : Exec Value := do
  match items with
  | [] => undefined "No aggregated item, sequence was empty."
  | x :: rest => do
    let path ← pathOf path
    let sensitive ← truth caseSensitive
    let key (v : Value) : Exec Value := getter path .none sensitive v
    let op : CompareOp := if greatest then .gt else .lt
    let (_, best) ← fold (fun (k, best) v => do
      let k' ← key v
      if ← ordered op k' k then pure (k', v) else pure (k, best)) (← key x, x) rest
    pure best

/-- Whether a sorted list is wanted in descending order. -/
def descends (v : Value) : Exec Bool := do
  match v with
  | .bool b => pure b
  | v => do pure (decide ((← asSmall v) ≠ 0))

/-- Sort items in a direction by keys that are told by `key`. -/
def sortItems (descending : Value) (key : Value → Exec (List Value)) (items : List Value) :
    Exec Value := do
  let descending ← descends descending
  let keyed ← forEach items fun v => do pure ({ keys := ← key v, item := v } : Keyed)
  newList (← sortKeyed descending keyed)

def dictSorted (E : Engine) (v caseSensitive part descending : Value) : Exec Value := do
  let byValue ← if ← equal part (.str "key") then pure false
    else if ← equal part (.str "value") then pure true
    else fail .filterArgument "You can only sort by either \"key\" or \"value\""
  let entries ← itemsOf E v
  let pairs ← forEach entries fun (k, x) => do pure (← newTuple [k, x], if byValue then x else k)
  let descending ← descends descending
  let keyed ← forEach pairs fun (pair, key) => do
    let sensitive ← truth caseSensitive
    pure ({ keys := [if sensitive then key else ignoreCase key], item := pair } : Keyed)
  newList (← sortKeyed descending keyed)

/-- Neighbours with equal keys, with the key of each group. -/
def runs (xs : List (Value × Value)) : Exec (List (Value × List Value)) := do
  let groups ← fold (fun (groups : List (Value × List Value)) (k, v) => do
    match groups with
    | (key, members) :: before =>
      if ← alike key k then pure ((key, v :: members) :: before)
      else pure ((k, [v]) :: groups)
    | [] => pure [(k, [v])]) [] xs
  pure (groups.reverse.map fun (k, members) => (k, members.reverse))

def grouped (items : List Value) (path default caseSensitive : Value) : Exec Value := do
  let path ← pathOf path
  let sensitive ← truth caseSensitive
  let pairs ← forEach items fun v => do pure (← getter path default sensitive v, v)
  let sorted ← sortBy (fun a b => less a.1 b.1) pairs
  let groups ← runs sorted
  let tuples ← forEach groups fun (k, members) => do
    let key ← match members with
      | v :: _ => if sensitive then pure k else getter path default true v
      | [] => pure k
    let list ← newList members
    let key ← keep key
    pure (.ref (← alloc (.tuple #[key, list] ["grouper", "list"])))
  newList tuples

/-- Columns of nearly equal length; the shorter ones are filled up. -/
def slices (items : List Value) (count : Nat) (filler : Value) : List (List Value) :=
  let size := items.length / count
  let longer := items.length % count
  (List.range count).map fun k =>
    let start := k * size + min k longer
    let part := (items.drop start).take (size + if k < longer then 1 else 0)
    match filler with
    | .none => part
    | f => if longer ≤ k then part ++ [f] else part

/-- The columns that a number tells. -/
def sliced (E : Engine) (items : List Value) (count filler : Value) : Exec (List Value) := do
  match index? count with
  | some n =>
    if n = 0 then zeroDivision "integer division or modulo by zero"
    else if (lengthLimit : Int) < n then fail .memory []
    else forEach (slices items n.toNat filler) newList
  | none => do
    let length : Value := .int items.length
    discard (binaryBy "//" (collect E) .floordiv length count)
    discard (binaryBy "%" (collect E) .mod length count)
    discard (asInteger count)
    pure []

/-- The next of some values whose key did not occur before, and what comes behind it. -/
def nextDistinct (path : List Value) (caseSensitive : Bool) (seen : List Value) :
    List Value → Exec (Option (Value × Source))
  | [] => pure none
  | v :: rest => do
    let key ← getter path .none caseSensitive v
    onHeap fun h => Value.hashable h key
    if ← amongst key seen then nextDistinct path caseSensitive seen rest
    else do
      let key ← keep key
      pure (some (v, .distinct rest (key :: seen) path caseSensitive))

/-- The next group of an iterator's values; the last one is filled up. -/
def nextBatch (E : Engine) (source : Nat) (size filler : Value) :
    Nat → List Value → Exec (Option (Value × Source))
  | 0, _ => fail .memory []
  | fuel + 1, pending => do
    match ← E.next source with
    | some v => do
      if ← equal (.int pending.length) size then
        pure (some (← newList pending.reverse, .batched source size filler [v]))
      else nextBatch E source size filler fuel (v :: pending)
    | none =>
      if pending.isEmpty then pure none
      else do
        let group := pending.reverse
        let short ← match filler with
          | .none => pure false
          | _ => ordered .lt (.int group.length) size
        let group ← if short then do
            let gap ← binaryBy "-" (collect E) .sub size (.int group.length)
            let more ← binaryBy "*" (collect E) .mul (← newList [filler]) gap
            pure (group ++ (← collect E more))
          else pure group
        pure (some (← newList group, .values []))

/-- The items of a mapping. -/
def itemPairs (v : Value) : Exec Source := do
  let refuse : Exec Source := typeError "Can only get item pairs from a mapping."
  match v with
  | .undefined .. => pure (.values [])
  | .ref id => match ← fetch id with
    | .dict es => pure (.entries id .items es.size 0)
    | _ => refuse
  | _ => refuse

/-- The sum of items, from a start on. A list takes in the items of each. -/
def summed (E : Engine) (path : List Value) (start : Value) (items : List Value) : Exec Value :=
  fold (fun total v => do
    let v ← getter path .none true v
    let list? ← match total with
      | .ref id => match ← fetch id with
        | .list items => pure (some (id, items))
        | _ => pure none
      | _ => pure none
    match list? with
    | some (id, items) => do
      let more ← keepAll (← collect E v)
      store id (.list (items ++ more.toArray))
      pure total
    | none => binaryBy "+=" (collect E) .add total v) start items

/-! ### Filters and tests applied to items -/

/-- Prepare the application of a filter, or the look-up of an attribute, to the items of a value. -/
def prepareMap (v : Value) (args : List Value) (keywords : List (Text × Value)) : Exec Source := do
  match args, keywords.lookup ("attribute" : Text) with
  | [], some path =>
    let others := keywords.filter fun (k, _) =>
      k != ("attribute" : Text) && k != ("default" : Text)
    match others with
    | (k, _) :: _ => fail .filterArgument (("Unexpected keyword argument " : Text) ++ k.quoted)
    | [] => do
      let default : Value := (keywords.lookup ("default" : Text)).getD .none
      let path ← pathOf path
      pure (.mappedAttr (← openWaiting v) path default)
  | [], none => fail .filterArgument "map requires a filter argument"
  | name :: rest, _ => do pure (.mapped (← openWaiting v) name rest keywords)

/-- Prepare a selection among the items of a value. -/
def prepareSelect (keep byPath : Bool) (v : Value) (args : List Value)
    (keywords : List (Text × Value)) : Exec Source := do
  let selected (path : Option (List Value)) (rest : List Value) : Exec Source := do
    let source ← openWaiting v
    match rest with
    | name :: rest => pure (.selected source keep path (some name) rest keywords)
    | [] => pure (.selected source keep path none [] keywords)
  match byPath, args with
  | false, args => selected none args
  | true, path :: rest => do selected (some (← pathOf path)) rest
  | true, [] => fail .filterArgument "Missing parameter for attribute name"

/-- What an iterator goes on with when its first value is asked for. -/
def deferred (E : Engine) (name : Text) (v : Value) (args : List Value)
    (keywords : List (Text × Value)) : Exec Source := do
  let whenTrue (prepared : Exec Source) : Exec Source := do
    if ← truth v then prepared else pure (.values [])
  match name.toName, args with
  | "map", args => whenTrue (prepareMap v args keywords)
  | "select", args => whenTrue (prepareSelect true false v args keywords)
  | "reject", args => whenTrue (prepareSelect false false v args keywords)
  | "selectattr", args => whenTrue (prepareSelect true true v args keywords)
  | "rejectattr", args => whenTrue (prepareSelect false true v args keywords)
  | "items", _ => itemPairs v
  | "batch", [size, filler] => do pure (.batched (← openIterator v) size filler [])
  | "slice", [count, filler] => do pure (.values (← sliced E (← collect E v) count filler))
  | "unique", [sensitive, path] => do
    let path ← pathOf path
    let sensitive ← truth sensitive
    pure (.distinct (← collect E v) [] path sensitive)
  | _, _ => pure (.values [])

/-- The filters that take their subject as a sequence. -/
def ofSequence? (E : Engine) (name : String) (v : Value) (args : CallArgs) :
    Option (Exec Value) :=
  let no : Value := .bool false
  match name with
  | "length" | "count" => some do
    discard (({ args with positional := v :: args.positional } : CallArgs).take [] "len" .one)
    pure (.int (← lengthOf v))
  | "first" => some do
    discard (args.bind (parameters "do_first" ["environment", "seq"] []))
    first E v
  | "last" => some do
    discard (args.bind (parameters "do_last" ["environment", "seq"] []))
    last v
  | "random" => some do
    discard (args.bind (parameters "do_random" ["context", "seq"] []))
    picked v
  | "reverse" => some do
    discard (args.bind (parameters "do_reverse" ["value"] []))
    reversed E v
  | "list" => some do
    discard (args.bind (parameters "do_list" ["value"] []))
    newList (← collectWaiting E v)
  | "join" => some do
    match ← args.bind (parameters "do_join" ["eval_ctx", "value"] [("d", some (.str [])),
      ("attribute", some .none)]) with
    | [separator, path] => do
      let items ← collectWaiting E v
      let path ← pathOf path
      if path.isEmpty then joinItems items separator
      else do joinItems (← forEach items (getter path .none true)) separator
    | _ => pure v
  | "sort" => some do
    match ← args.bind (parameters "do_sort" ["environment", "value"] [("reverse", some no),
      ("case_sensitive", some no), ("attribute", some .none)]) with
    | [descending, sensitive, path] => do
      let sensitive ← truth sensitive
      let paths ← pathsOf path
      sortItems descending (multiGetter paths sensitive) (← collect E v)
    | _ => pure v
  | "dictsort" => some do
    match ← args.bind (parameters "do_dictsort" ["value"] [("case_sensitive", some no),
      ("by", some (.str "key")), ("reverse", some no)]) with
    | [sensitive, part, descending] => dictSorted E v sensitive part descending
    | _ => pure v
  | "min" => some do
    match ← args.bind (parameters "do_min" ["environment", "value"] [("case_sensitive", some no),
      ("attribute", some .none)]) with
    | [sensitive, path] => do extreme false sensitive path (← collect E v)
    | _ => pure v
  | "max" => some do
    match ← args.bind (parameters "do_max" ["environment", "value"] [("case_sensitive", some no),
      ("attribute", some .none)]) with
    | [sensitive, path] => do extreme true sensitive path (← collect E v)
    | _ => pure v
  | "sum" => some do
    match ← args.bind (parameters "do_sum" ["environment", "iterable"] [("attribute", some .none),
      ("start", some (.int 0))]) with
    | [path, start] => do
      let path ← pathOf path
      summed E path start (← collectWaiting E v)
    | _ => pure v
  | "groupby" => some do
    match ← args.bind (parameters "do_groupby" ["environment", "value"] [("attribute", none),
      ("default", some .none), ("case_sensitive", some no)]) with
    | [path, default, sensitive] => do grouped (← collectWaiting E v) path default sensitive
    | _ => pure v
  | "unique" => some do
    let values ← args.bind (parameters "do_unique" ["environment", "value"]
      [("case_sensitive", some no), ("attribute", some .none)])
    let items ← newList (← collectWaiting E v)
    onDemand "generator" false name items { positional := values }
  | "slice" => some do
    let values ← args.bind (parameters "do_slice" ["value"] [("slices", none),
      ("fill_with", some .none)])
    let items ← newList (← collectWaiting E v)
    onDemand "generator" false name items { positional := values }
  | "batch" => some do
    let values ← args.bind (parameters "do_batch" ["value"] [("linecount", none),
      ("fill_with", some .none)])
    onDemand "generator" false name v { positional := values }
  | "items" => some do
    discard (args.bind (parameters "do_items" ["value"] []))
    onDemand "generator" false name v {}
  | "map" | "select" | "reject" | "selectattr" | "rejectattr" => some do
    match args.keywords.find? fun (k, _) => k == ("context" : Text) || k == ("value" : Text) with
    | some (k, _) =>
      typeError ("do_" ++ (name : Text) ++ "() got multiple values for argument " ++ k.quoted)
    | none => onDemand "async_generator" true name v args
  | _ => none

end Filter

end Template

end Stencil
