import Stencil.Template.Filter.Text
import Stencil.Text.Link

/-!
# Filters for addresses

## Main definitions

- `Filter.urlEncode` — values as parts of an address
- `Filter.linkAddresses` — texts with links in the place of addresses
-/

namespace Stencil

namespace Template

open Exec

namespace Filter

/-- A byte that stands for itself in an address. -/
def isUrlByte (extra : List Nat) (b : Nat) : Bool :=
  isAsciiLetter b || isAsciiDigit b || [95, 46, 45, 126].contains b || extra.contains b

/-- The text of a value as a part of an address; in a query, blanks become plus signs. -/
def urlQuoted (inQuery : Bool) (v : Value) : Exec Text := do
  let bytes : List Nat ← match v with
    | .bytes b _ => pure (b.map UInt8.toNat)
    | v => do
      let t ← text v
      let b ← ofExcept (Encoding.encoded "utf-8" .refuse t)
      pure (b.map UInt8.toNat)
  pure (bytes.flatMap fun b =>
    if isUrlByte (if inQuery then [] else [47]) b then [b]
    else if inQuery && b == 32 then [43]
    else 37 :: Text.padLeft 2 48 ((Text.inBase 16 b).map fun c => if 97 ≤ c then c - 32 else c))

/-- A text as a part of an address; entries and other pairs as a query. -/
def urlEncode (E : Engine) (v : Value) : Exec Text := do
  let query (pairs : List (Value × Value)) : Exec Text := do
    let parts ← forEach pairs fun (k, x) => do
      pure ((← urlQuoted true k) ++ "=" ++ (← urlQuoted true x))
    pure (Text.join "&" parts)
  let entries? ← match v with
    | .ref id => match ← fetch id with
      | .dict es => pure (some es.toList)
      | _ => pure none
    | _ => pure none
  let plain ← match v with
    | .str .. | .safe .. | .blocks _ => pure true
    | v => do pure (!(← isIterable v))
  match entries? with
  | some es => query es
  | none =>
    if plain then urlQuoted false v
    else
      let pairs ← forEach (← collect E v) fun item => do
        match ← unpack E 2 item with
        | [k, x] => pure (k, x)
        | _ => pure (.none, .none)
      query pairs

/-- Whether a text can be the scheme of addresses. -/
def isScheme (t : Text) : Bool :=
  let name := t.takeWhile fun c => isWordCharacter c || [46, 43, 45].contains c
  2 ≤ name.length && match t.drop name.length with
    | [58] | [58, 47] | [58, 47, 47] => true
    | _ => false

/-- The words that tell how a page is related to those that it links to. -/
def relationOf (E : Engine) (rel nofollow : Value) : Exec Text := do
  let words ← if ← truth rel then do
      match rel.asText? with
      | some t => pure t.words
      | none => do
        let parts ← collect E (← invoke E rel "split" [])
        forEach parts text
    else pure []
  let own : List Text := if ← truth nofollow then ["nofollow", "noopener"] else ["noopener"]
  let words : List Text := words ++ own
  pure (Text.join " " (words.eraseDups.mergeSort fun a b => Text.compare a b != .gt))

/-- A value as the scheme of addresses. -/
def schemeOf (s : Value) : Exec Text := do
  match s.asText? with
  | none => do
    typeError ("expected string or bytes-like object, got '" ++ (← typeName s) ++ "'")
  | some t =>
    if isScheme t then pure t
    else fail .filterArgument ((← quoted s) ++ " is not a valid URI scheme prefix.")

def schemesOf (E : Engine) (schemes : Value) : Exec (List Text) := do
  match schemes with
  | .none => pure []
  | s => do forEach (← collect E s) schemeOf

/-- The attribute that tells where a link opens. -/
def aimOf (target : Value) : Exec Text := do
  if ← truth target then do
    pure ((" target=\"" : Text) ++ (← SafeMethod.escaped target) ++ "\"")
  else pure []

/-- A text whose links are shown up to a limit. `styled` is the text with its links shown in some way. -/
def limited (limit : Value) (styled : (Text → Text) → Text) : Exec Text := do
  match limit, index? limit with
  | .none, _ => pure (styled id)
  | _, some n =>
    let shown (t : Text) : Text :=
      if n < t.length then sliceItems t.toArray (sliceSpan t.length none (some n) 1) ++ "..." else t
    pure (styled shown)
  | l, none => do
    let plain := styled id
    -- whether a link is so long that it has to be cut, which no such limit can do
    let cuts (isLong : Nat → Bool) : Bool :=
      styled (fun t => if isLong t.length then 0 :: t else t) != plain
    let isCut ← match l with
      | .float x _ => pure (cuts fun n => Binary64.compareInt? x n == some .lt)
      | l =>
        if cuts fun _ => true then ordered .gt (.int 0) l else pure false
    if isCut then typeError "slice indices must be integers or None or have an __index__ method"
    else pure plain

/-- A text with links in the place of addresses. -/
def linkAddresses (E : Engine) (v limit nofollow target rel schemes : Value) : Exec Value := do
  let relation ← relationOf E rel nofollow
  let schemes ← schemesOf E schemes
  let escaped ← SafeMethod.escaped v
  let aim ← aimOf target
  let attributes := (" rel=\"" : Text) ++ Markup.escape relation ++ "\"" ++ aim
  let result ← limited limit fun trim => Link.inText { trim, attributes, schemes } escaped
  pure (SafeMethod.made (← escaping) result)

/-- The filters for addresses. -/
def ofUrl? (E : Engine) (name : String) (v : Value) (args : CallArgs) : Option (Exec Value) :=
  match name with
  | "urlencode" => some do
    discard (args.bind (parameters "do_urlencode" ["value"] []))
    pure (.str (← urlEncode E v))
  | "urlize" => some do
    match ← args.bind (parameters "do_urlize" ["eval_ctx", "value"] [
      ("trim_url_limit", some .none), ("nofollow", some (.bool false)), ("target", some .none),
      ("rel", some .none), ("extra_schemes", some .none)]) with
    | [limit, nofollow, target, rel, schemes] =>
      linkAddresses E v limit nofollow target rel schemes
    | _ => pure v
  | _ => none

end Filter

end Template

end Stencil
