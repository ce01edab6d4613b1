import Stencil.Template.Filter.Text

/-!
# Values laid out on lines

The quoted form of a value, with the items of containers on lines of their own where it would be too
long for one line.

## Main definitions

- `Filter.flat` — the form on one line, keys in order
- `Filter.pretty` — the form on as many lines as it needs
-/

namespace Stencil

namespace Template

open Exec

namespace Filter

/-- How long a line may be. -/
def lineLimit : Nat := 80

/-- The order of items on lines: by value, or by class where values have no order. -/
def laidOutBefore (a b : Value) : Exec Bool := do
  match ← attempt (less a b) with
  | .ok holds => pure holds
  | .error f =>
    if f.kind = .wrongType then do
      let h := (← machine).heap
      pure (Text.compare (a.classOf h).fullName (b.classOf h).fullName == .lt)
    else raise f

def sortedEntries (es : Entries) : Exec (List (Value × Value)) :=
  sortBy (fun a b => laidOutBefore a.1 b.1) es.toList

/-- The form of a value on one line. -/
def flat : Nat → Value → Exec Text
  | 0, _ => fail .recursion "maximum recursion depth exceeded"
  | fuel + 1, v => do
    match v with
    | .ref id => match ← fetch id with
      | .dict es => do
        let parts ← forEach (← sortedEntries es) fun (k, x) => do
          pure ((← flat fuel k) ++ ": " ++ (← flat fuel x))
        pure ("\x7b" ++ Text.join ", " parts ++ "\x7d")
      | .list items => do
        pure ("[" ++ Text.join ", " (← forEach items.toList (flat fuel)) ++ "]")
      | .tuple items [] => match items.toList with
        | [x] => do pure ("(" ++ (← flat fuel x) ++ ",)")
        | vs => do pure ("(" ++ Text.join ", " (← forEach vs (flat fuel)) ++ ")")
      | _ => quoted v
    | v => quoted v

/-- Words with the blanks behind them. -/
def wordParts : Nat → Text → List Text
  | 0, _ => []
  | _, [] => []
  | fuel + 1, t =>
    let word := t.takeWhile fun c => !isSpace c
    let rest := t.drop word.length
    let blanks := rest.takeWhile isSpace
    (word ++ blanks) :: wordParts fuel (rest.drop blanks.length)

/-- The quoted parts of a long line of a text. `less` is the room that is kept behind the last part of
the last line. -/
def lineParts (room less : Int) (isLast : Bool) : Text → List Text → List Text
  | current, [] => if current.isEmpty then [] else [current.quoted]
  | current, part :: rest =>
    let candidate := current ++ part
    let room := if isLast && rest.isEmpty then room - less else room
    if room < candidate.quoted.length then
      if current.isEmpty then lineParts room less isLast part rest
      else current.quoted :: lineParts room less isLast part rest
    else lineParts room less isLast candidate rest

/-- A long text as quoted parts on lines of their own. -/
def prettyText (t : Text) (indent allowance level : Nat) : Text :=
  let top := level = 1
  let (indent, allowance) := if top then (indent + 1, allowance + 1) else (indent, allowance)
  let room : Int := (lineLimit : Int) - indent
  let lines : List Text := (Text.linesWithEnds t).map fun (l, e) => l ++ e
  let chunks := lines.zipIdx.flatMap fun (l, n) =>
    let isLast := n + 1 = lines.length
    let limit := if isLast then room - allowance else room
    if ((Text.quoted l).length : Int) ≤ limit then [Text.quoted l]
    else lineParts room allowance isLast [] (wordParts (l.length + 1) l)
  match chunks with
  | [_] => Text.quoted (lines.getLastD [])
  | chunks =>
    let body := Text.join ("\n" ++ Text.repeated indent " ") chunks
    if top then "(" ++ body ++ ")" else body

/-- The quoted parts of long bytes, four of which stay together. `rest` has a four for each. -/
def byteParts (room less : Int) (isEven : Bool) : Bytes → List Bytes → List Text
  | current, [] => if current.isEmpty then [] else [quotedBytes current]
  | current, part :: rest =>
    let candidate := current ++ part
    let room := if rest.isEmpty && !isEven then room - less else room
    if room < (quotedBytes candidate).length then
      if current.isEmpty then byteParts room less isEven part rest
      else quotedBytes current :: byteParts room less isEven part rest
    else byteParts room less isEven candidate rest

/-- Bytes in pieces of four. -/
def fours : Bytes → List Bytes
  | a :: b :: c :: d :: rest => [a, b, c, d] :: fours rest
  | [] => []
  | rest => [rest]

/-- Long bytes as quoted parts on lines of their own. -/
def prettyBytes (b : Bytes) (indent allowance level : Nat) : Text :=
  let top := level = 1
  let (indent, allowance) := if top then (indent + 1, allowance + 1) else (indent, allowance)
  let parts := byteParts ((lineLimit : Int) - indent) allowance (b.length % 4 = 0) [] (fours b)
  let body := Text.join ("\n" ++ Text.repeated indent " ") parts
  if top then "(" ++ body ++ ")" else body

/-- The form of a value that starts behind `indent` characters and is followed by `allowance` more. -/
def pretty : Nat → Nat → Nat → Nat → Value → Exec Text
  | 0, _, _, _, _ => fail .recursion "maximum recursion depth exceeded"
  | fuel + 1, indent, allowance, level, v => do
    let whole ← flat nestingLimit v
    if whole.length + indent + allowance ≤ lineLimit then pure whole
    else
      let items (allowance : Nat) (vs : List Value) : Exec Text := do
        let parts ← forEach vs.zipIdx fun (v, n) =>
          pretty fuel (indent + 1) (if n + 1 = vs.length then allowance else 1) (level + 1) v
        pure (Text.join (",\n" ++ Text.repeated (indent + 1) " ") parts)
      match v with
      | .str [] _ => pure whole
      | .str t _ => pure (prettyText t indent allowance (level + 1))
      | .bytes b _ =>
        pure (if b.length ≤ 4 then whole else prettyBytes b indent allowance (level + 1))
      | .ref id => match ← fetch id with
        | .list vs => do pure ("[" ++ (← items (allowance + 1) vs.toList) ++ "]")
        | .tuple vs [] => match vs.toList with
          | [x] => do pure ("(" ++ (← items (allowance + 2) [x]) ++ ",)")
          | vs => do pure ("(" ++ (← items (allowance + 1) vs) ++ ")")
        | .set vs => do
          if vs.isEmpty then pure whole
          else
            let sorted ← sortBy laidOutBefore vs.toList
            pure ("\x7b" ++ (← items (allowance + 1) sorted) ++ "\x7d")
        | .dict es => do
          let sorted ← sortedEntries es
          let parts ← forEach sorted.zipIdx fun ((k, x), n) => do
            let key ← flat nestingLimit k
            let after := if n + 1 = sorted.length then allowance + 1 else 1
            pure (key ++ ": " ++ (← pretty fuel (indent + key.length + 3) after (level + 1) x))
          pure ("\x7b" ++ Text.join (",\n" ++ Text.repeated (indent + 1) " ") parts ++ "\x7d")
        | _ => pure whole
      | _ => pure whole

end Filter

end Template

end Stencil
