import Stencil.Template.Method.Operand
import Stencil.Template.Method.Safe

/-!
# Classes as functions

What it means to call a class, and the methods that belong to classes themselves.

## Main definitions

- `Class.construct` — the value that a call of a class makes
- `Class.callOwn` — the methods that are called on a class without a value
-/

namespace Stencil

namespace Template

open Exec

namespace Class

/-- The single argument of a function that takes at most one, by position only. -/
def onlyArgument (name : Text) (args : CallArgs) : Exec (Option Value) := do
  let given : Given ← args.take [] name (.positions 0 1)
  pure (given.at? 0)

/-- An integer of a value, or of a text in a base. -/
def integerOf (args : CallArgs) : Exec Value := do
  let given : Given ← args.take [] "int" (.named ["", "base"] 0 0 2)
  match given.at? 0, given.at? 1 with
  | none, none => pure (.int 0)
  | none, some _ => typeError "int() missing string argument"
  | some v, none => do pure (.int (← toInteger v))
  | some v, some b => do
    let base ← asInteger b
    match v with
    | .str t _ | .safe t _ => do pure (.int (← textInteger base t))
    | .bytes t _ => do pure (.int (← textInteger base (t.map UInt8.toNat)))
    | _ => typeError "int() can't convert non-string with explicit base"

/-- The text of a value, or of bytes in an encoding. -/
def textOf (args : CallArgs) : Exec Value := do
  let given : Given ← args.take [] "str" (.named ["object", "encoding", "errors"] 0 0 3)
  match given.at? 0, given.drop 1 with
  | none, _ => pure (.str [])
  | some v, codec =>
    if codec.all Option.isNone then do pure (.str (← text v))
    else do
      discard (Strings.encodingArguments "str" codec)
      match v with
      | .bytes b _ => Strings.decode b codec
      | .str .. | .safe .. => typeError "decoding str is not supported"
      | v => do
        typeError ("decoding to str: need a bytes-like object, " ++ (← typeName v) ++ " found")

/-- Zero bytes, the bytes of a text in an encoding, or the bytes that a value yields. -/
def bytesOf (E : Engine) (args : CallArgs) : Exec Value := do
  let given : Given ← args.take [] "bytes" (.named ["source", "encoding", "errors"] 0 0 3)
  match given.at? 0, given.drop 1 with
  | none, _ => pure (.bytes [])
  | some v, codec =>
    if codec.all Option.isNone then
      match v with
      | .str .. | .safe .. => typeError "string argument without an encoding"
      | v => match index? v with
        | some n => do
          if n < 0 then fail .badValue "negative count"
          else pure (.bytes (List.replicate (← repeatCount 1 n) 0))
        | none => do pure (.bytes (← NumberMethod.byteValues E v))
    else do
      discard (Strings.encodingArguments "bytes" codec)
      match v.asText? with
      | some t => Strings.encode t codec
      | none => typeError "encoding without a string argument"

/-- A range of integers. -/
def rangeOf (args : CallArgs) : Exec Value := do
  match (← args.take [] "range" (.positions 1 3)).filterMap id with
  | [stop] => do pure (.range 0 (← asInteger stop) 1)
  | [start, stop] => do
    let a ← asInteger start
    pure (.range a (← asInteger stop) 1)
  | start :: stop :: step :: _ => do
    let a ← asInteger start
    let b ← asInteger stop
    match ← asInteger step with
    | 0 => fail .badValue "range() arg 3 must not be zero"
    | c => pure (.range a b c)
  | [] => pure .none

/-- A complex number of two real ones. -/
def complexOf (args : CallArgs) : Exec Value := do
  let given : Given ← args.take [] "complex" (.named ["real", "imag"] 0 0 2)
  let part (v : Option Value) : Exec Complex64 := do
    match v with
    | none => pure (.ofReal 0.0)
    | some v => match ← asComplex? v with
      | some z => pure z
      | none => do
        typeError ("complex() first argument must be a string or a number, not '" ++
          (← typeName v) ++ "'")
  let re ← part (given.at? 0)
  let im ← part (given.at? 1)
  let z := re.add ⟨-im.im, im.re⟩
  pure (.complex z.re z.im)

/-- The value that a call of a class makes. -/
def construct (E : Engine) (c : Class) (args : CallArgs) : Exec Value := do
  let valuesOf (name : Text) : Exec (List Value) := do
    match ← onlyArgument name args with
    | some v => collect E v
    | none => pure []
  let fixed (v : Value) : Exec Value := do
    if args.positional.isEmpty && args.keywords.isEmpty then pure v
    else typeError (c.name ++ " takes no arguments")
  match c with
  | .range => rangeOf args
  | .dict => do DictMethod.ofEntries (← DictMethod.new E "dict" args)
  | .namespace => do
    let entries ← keepPairs (← DictMethod.new E "dict" args)
    let es ← onHeap fun h => Entries.insertAll h #[] entries
    pure (.ref (← alloc (.namespace es)))
  | .cycler => match args.keywords, args.positional with
    | (n, _) :: _, _ =>
      typeError ("Cycler.__init__() got an unexpected keyword argument " ++ n.quoted)
    | [], [] => fail .runtime "at least one item has to be provided"
    | [], items => do
      let items ← keepAll items
      pure (.ref (← alloc (.cycler items.toArray 0)))
  | .joiner => do
    let values ← args.bind {
      function := "Joiner.__init__", hidden := ["self"], formals := [("sep", some (.str ", "))] }
    let separator ← keep (values.headD .none)
    pure (.ref (← alloc (.joiner separator false)))
  | .str => textOf args
  | .safe => do
    match args.positional with
    | v :: _ => do pure (.safe (← text v))
    | [] => pure (.safe [])
  | .bytes => bytesOf E args
  | .int => integerOf args
  | .bool => do
    match ← onlyArgument "bool" args with
    | some v => do pure (.bool (← truth v))
    | none => pure (.bool false)
  | .float => do
    match ← onlyArgument "float" args with
    | some v => do pure (.float (← toReal v))
    | none => pure (.float 0.0)
  | .complex => complexOf args
  | .list => do newList (← valuesOf "list")
  | .tuple => do newTuple (← valuesOf "tuple")
  | .set => do newSet (← valuesOf "set")
  | .type => match args.positional with
    | [v] => do pure (.kind (v.classOf (← machine).heap))
    | _ => typeError "type() takes 1 or 3 arguments"
  | .nothing => fixed .none
  | .notImplemented => fixed .notImplemented
  | .undefined => pure (.undefined false [])
  | .strictUndefined | .refusing => pure (.undefined true [])
  | c => typeError ("cannot create '" ++ c.name ++ "' instances")

/-- A method that belongs to a class itself, whose arguments have been matched. -/
def applyOwn (E : Engine) (c : Class) (name : Text) (given : Given) : Exec Value := do
  match c, name.toName with
  | .dict, "fromkeys" => DictMethod.fromKeys E given
  | .bytes, "fromhex" => Strings.fromHex (given.get 0)
  | .bytes, "maketrans" => Strings.byteTable given
  | .safe, "escape" => SafeMethod.escapedValue (given.get 0)
  | .float, "fromhex" => NumberMethod.fromHex (given.get 0)
  | .int, "from_bytes" => do pure (.int (← NumberMethod.fromBytes E given))
  | .bool, "from_bytes" => do pure (.bool ((← NumberMethod.fromBytes E given) ≠ 0))
  | _, "maketrans" => Strings.textTable given
  | _, _ => typeError ("'" ++ name ++ "' is not available")

/-- Call a method that belongs to a class itself. -/
def callOwn (E : Engine) (c : Class) (name : Text) (args : CallArgs) : Exec Value := do
  let key := name.toName
  match c.member? key with
  | none =>
    if key = "mro" then do
      discard (args.take "type" name .nothing)
      newList (c.lineage.map .kind)
    else typeError ("'" ++ name ++ "' is not available")
  | some (owner, convention) =>
    let given : Given ← match convention with
      | .written formals leading => do
        let values ← args.bind {
          function := owner.name ++ "." ++ name
          hidden := ["cls"]
          formals := formals.map fun f => (Text.ofString f.name, none)
          leading := leading + 1 }
        pure (values.map some)
      | _ => args.take owner.name name convention
    c.applyOwn E name given

end Class

end Template

end Stencil
