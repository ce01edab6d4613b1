import Stencil.Encoding.Name
import Stencil.Template.Braces
import Stencil.Template.Iteration
import Stencil.Text.Letters

/-!
# Methods of texts and byte strings

Texts and byte strings have most of their methods in common. They differ in what they take as a part
of themselves, and in how they word refusals.

## Main definitions

- `Flavour` — texts or byte strings
- `Strings.call` — the methods by name, for a receiver and arguments that have been matched already

## Design notes

A method that changes nothing gives back its receiver, not a copy.
-/

namespace Stencil

namespace Template

open Exec

/-- The two kinds of strings. -/
inductive Flavour where
  | text
  | binary
  deriving DecidableEq, Repr

namespace Flavour

/-- A string of this kind. -/
def made : Flavour → Text → Value
  | text, t => .str t
  | binary, t => .bytes (t.map UInt8.ofNat)

/-- The code points or bytes of a string of this kind. -/
def content? : Flavour → Value → Option Text
  | text, v => v.asText?
  | binary, .bytes b _ => some (b.map UInt8.toNat)
  | binary, _ => none

def isBlank : Flavour → CodePoint → Bool
  | text => isSpace
  | binary => fun c => c = 32 || (9 ≤ c && c ≤ 13)

end Flavour

namespace Strings

/-- The arguments of a method; those left out are missing. -/
abbrev Given := List (Option Value)

def Given.at? (given : Given) (n : Nat) : Option Value :=
  (given[n]?).join

/-- An argument, or nothing. -/
def Given.get (given : Given) (n : Nat) : Value :=
  (given.at? n).getD .none

/-- A receiver: its kind, its content, and the string itself. -/
structure Receiver where
  flavour : Flavour
  content : Text
  self : Value

namespace Receiver

/-- A result; a result that is the receiver's content is the receiver. -/
def give (r : Receiver) (t : Text) : Value :=
  if t == r.content then r.self else r.flavour.made t

def isText (r : Receiver) : Bool :=
  r.flavour = .text

end Receiver

/-- How messages speak of an argument that is refused. -/
def shownType (v : Value) : Exec Text := do
  match v with
  | .none => pure "None"
  | v => typeName v

/-- The content of an argument that must be a byte string. -/
def buffer (v : Value) : Exec Text := do
  match Flavour.binary.content? v with
  | some t => pure t
  | none => typeError (("a bytes-like object is required, not '" : Text) ++ (← typeName v) ++ "'")

/-- The content of an argument of the receiver's kind; `refuse` says what a text demands. -/
def part (r : Receiver) (refuse : Text → Text) (v : Value) : Exec Text := do
  match r.flavour with
  | .binary => buffer v
  | .text => match v.asText? with
    | some t => pure t
    | none => do typeError (refuse (← typeName v))

/-- An argument with a place of its own in the message about it. -/
def argument (r : Receiver) (place : Text) (v : Value) : Exec Text := do
  let shown ← shownType v
  part r (fun _ => place ++ " must be str, not " ++ shown) v

def mustBeText (t : Text) : Text :=
  ("must be str, not " : Text) ++ t

/-! ### Searching -/

/-- The part of a text between bounds, with its start; none if it starts behind the end. -/
def span (t : Text) (start stop : Option Int) : Option (Nat × Text) :=
  let n : Int := t.length
  let clamp (i : Int) : Int := if i < 0 then max (i + n) 0 else i
  let a := clamp (start.getD 0)
  let b := min (clamp (stop.getD n)) n
  if n < a then none
  else if b < a then none
  else some (a.toNat, (t.take b.toNat).drop a.toNat)

/-- The part of the receiver that the second and third arguments select. -/
def searched (r : Receiver) (given : Given) : Exec (Option (Nat × Text)) := do
  let a ← sliceBound (given.get 1)
  let b ← sliceBound (given.get 2)
  pure (span r.content a b)

/-- What is searched for; byte strings also look for a single byte. -/
def needle (r : Receiver) (v : Value) : Exec Text := do
  match r.flavour with
  | .text => part r mustBeText v
  | .binary => match Flavour.binary.content? v, index? v with
    | some t, _ => pure t
    | none, some i =>
      if 0 ≤ i ∧ i < 256 then pure [i.toNat] else fail .badValue "byte must be in range(0, 256)"
    | none, none => do
      typeError (("argument should be integer or bytes-like object, not '" : Text) ++
        (← typeName v) ++ "'")

/-- Where a search finds its text. -/
def found (last : Bool) (needle : Text) : Option (Nat × Text) → Option Nat
  | none => none
  | some (start, part) =>
    (if last then Text.lastPosition? needle part else Text.position? needle part).map (start + ·)

/-- Find, index and count. -/
def search (r : Receiver) (name : String) (given : Given) : Exec Value := do
  let within ← searched r given
  let needle ← needle r (given.get 0)
  match name with
  | "count" => pure (.int (match within with
    | some (_, part) => Text.occurrences needle part
    | none => 0))
  | "find" | "rfind" => pure (.int (match found (name = "rfind") needle within with
    | some n => n
    | none => -1))
  | _ => match found (name = "rindex") needle within with
    | some n => pure (.int n)
    | none => fail .badValue (if r.isText then "substring not found" else "subsection not found")

/-- The items of a tuple. -/
def tupleItems? (v : Value) : Exec (Option (List Value)) := do
  match v with
  | .ref id => match ← fetch id with
    | .tuple items _ => pure (some items.toList)
    | _ => pure none
  | _ => pure none

/-- Whether a text starts or ends what is searched. -/
def isEdge (atEnd : Bool) (within : Option (Nat × Text)) (p : Text) : Bool :=
  match within with
  | none => false
  | some (_, part) => if atEnd then Text.endsWith part p else Text.startsWith part p

/-- Whether a text or one of several starts or ends the receiver. -/
def edge (r : Receiver) (atEnd : Bool) (given : Given) : Exec Value := do
  let name : Text := if atEnd then "endswith" else "startswith"
  let within ← searched r given
  let p := given.get 0
  match ← tupleItems? p with
  | some items =>
    let hit ← findIndex (fun v => do
      let p ← part r (fun t => ("tuple for " : Text) ++ name ++
        " must only contain str, not " ++ t) v
      pure (isEdge atEnd within p)) items
    pure (.bool hit.isSome)
  | none =>
    match r.flavour.content? p with
    | some p => pure (.bool (isEdge atEnd within p))
    | none => do
      let kind : Text := if r.isText then "str" else "bytes"
      typeError (name ++ " first arg must be " ++ kind ++ " or a tuple of " ++ kind ++ ", not " ++
        (← typeName p))

/-! ### Taking apart -/

/-- Split at blanks, at most `limit` times; what is left keeps its blanks at the far end. -/
def splitBlanks (isBlank : CodePoint → Bool) : Nat → Nat → Text → List Text
  | 0, _, _ => []
  | fuel + 1, limit, t =>
    match t.dropWhile isBlank with
    | [] => []
    | c :: rest =>
      match limit with
      | 0 => [c :: rest]
      | limit + 1 =>
        let word := (c :: rest).takeWhile (!isBlank ·)
        word :: splitBlanks isBlank fuel limit ((c :: rest).drop word.length)

/-- The words or parts that the receiver is split into. -/
def split (r : Receiver) (fromEnd : Bool) (given : Given) : Exec Value := do
  let t := r.content
  let limit ← match given.at? 1 with
    | some v => asSize v
    | none => pure (-1)
  let limit := if limit < 0 then t.length + 1 else min limit.toNat (t.length + 1)
  let parts ← match given.get 0 with
    | .none =>
      let isBlank := r.flavour.isBlank
      pure (if fromEnd then
          ((splitBlanks isBlank (t.length + 1) limit t.reverse).map List.reverse).reverse
        else splitBlanks isBlank (t.length + 1) limit t)
    | v =>
      let sep ← part r (fun t => ("must be str or None, not " : Text) ++ t) v
      if sep.isEmpty then fail .badValue "empty separator"
      else pure (if fromEnd then Text.splitAtMostFromEnd sep limit t
        else Text.splitAtMost sep limit t)
  newList (parts.map r.give)

/-- Both parts around a separator, and the separator. -/
def parts (r : Receiver) (last : Bool) (given : Given) : Exec Value := do
  let v := given.get 0
  let sep ← part r mustBeText v
  if sep.isEmpty then fail .badValue "empty separator"
  else
    let t := r.content
    let empty := r.flavour.made []
    match if last then Text.cutLast? sep t else Text.cut? sep t with
    | some (a, b) => newTuple [r.flavour.made a, v, r.flavour.made b]
    | none => newTuple (if last then [empty, empty, r.self] else [r.self, empty, empty])

/-- The lines of a byte string, each with its ending. -/
def byteLines (t : Text) : List (Text × Text) :=
  go [] t
where
  go (line : Text) : Text → List (Text × Text)
  | [] => if line.isEmpty then [] else [(line.reverse, [])]
  | 13 :: 10 :: rest => (line.reverse, [13, 10]) :: go [] rest
  | c :: rest =>
    if c = 10 ∨ c = 13 then (line.reverse, [c]) :: go [] rest else go (c :: line) rest

def splitLines (r : Receiver) (given : Given) : Exec Value := do
  let keep ← match given.at? 0 with
    | some v => asSmall v
    | none => pure 0
  let lines := if r.isText then Text.linesWithEnds r.content else byteLines r.content
  newList (lines.map fun (l, e) => r.give (if keep ≠ 0 then l ++ e else l))

/-! ### Putting together -/

/-- Replace tabs by blanks up to the next multiple of a width. -/
def expandTabs (width : Nat) (t : Text) : Text :=
  go 0 t
where
  go (column : Nat) : Text → Text
  | [] => []
  | c :: rest =>
    if c = 9 then
      let n := if width = 0 then 0 else width - column % width
      List.replicate n 32 ++ go (column + n) rest
    else c :: go (if c = 10 ∨ c = 13 then 0 else column + 1) rest

/-- A width that memory can hold. -/
def boundedWidth (v : Value) : Exec Nat := do
  let w ← asSize v
  if (lengthLimit : Int) < w then fail .memory [] else pure w.toNat

/-- The receiver padded to a width. -/
def padded (r : Receiver) (name : Text) (pad : Nat → CodePoint → Text → Text) (given : Given) :
    Exec Value := do
  let width ← boundedWidth (given.get 0)
  let fill ← match given.at? 1, r.flavour with
    | none, _ => pure 32
    | some v, .text => match v.asText? with
      | some [c] => pure c
      | some _ => typeError "The fill character must be exactly one character long"
      | none => do
        typeError (("The fill character must be a unicode character, not " : Text) ++ (← typeName v))
    | some v, .binary => match v with
      | .bytes [b] _ => pure b.toNat
      | v => do
        typeError (name ++ "() argument 2 must be a byte string of length 1, not " ++ (← typeName v))
  pure (r.give (pad width fill r.content))

/-- The receiver without characters at its ends, blanks by default. -/
def stripped (r : Receiver) (name : String) (given : Given) : Exec Value := do
  let drops ← match given.get 0 with
    | .none => pure r.flavour.isBlank
    | v => do
      let set ← part r (fun _ => (name : Text) ++ " arg must be None or str") v
      pure set.contains
  pure (r.give (match name with
    | "lstrip" => Text.trimLeft drops r.content
    | "rstrip" => Text.trimRight drops r.content
    | _ => Text.trim drops r.content))

/-- The receiver between the strings of a sequence. -/
def join (E : Engine) (r : Receiver) (given : Given) : Exec Value := do
  let v := given.get 0
  if !(← isIterable v) then typeError "can only join an iterable"
  else
    let items ← collect E v
    let texts ← go 0 items
    match r.flavour, items with
    | .text, [.str ..] => pure (items.headD .none)
    | _, _ => pure (r.flavour.made (Text.join r.content texts))
where
  go (n : Nat) : List Value → Exec (List Text)
  | [] => pure []
  | v :: rest => do
    let t ← match r.flavour.content? v with
      | some t => pure t
      | none => do
        let kind : Text := if r.isText then "expected str instance, " else "expected a bytes-like object, "
        typeError (("sequence item " : Text) ++ Text.ofNat n ++ ": " ++ kind ++ (← typeName v) ++
          " found")
    pure (t :: (← go (n + 1) rest))

/-- The receiver with occurrences of a string replaced. -/
def replace (r : Receiver) (given : Given) : Exec Value := do
  let old ← argument r "replace() argument 1" (given.get 0)
  let new ← argument r "replace() argument 2" (given.get 1)
  let limit ← match given.at? 2 with
    | some v => asSize v
    | none => pure (-1)
  let t := r.content
  let limit := if limit < 0 then t.length + 1 else min limit.toNat (t.length + 1)
  pure (r.give (Text.replaceAtMost limit old new t))

/-- Zeros in front of a text, behind its sign. -/
def zeroFill (width : Nat) (t : Text) : Text :=
  let zeros := List.replicate (width - t.length) 48
  match t with
  | c :: rest => if c = 43 ∨ c = 45 then c :: (zeros ++ rest) else zeros ++ t
  | [] => zeros

/-- The receiver without a part at one of its ends. -/
def removed (r : Receiver) (atEnd : Bool) (given : Given) : Exec Value := do
  let name : Text := if atEnd then "removesuffix" else "removeprefix"
  let p ← argument r (name ++ "() argument") (given.get 0)
  let t := r.content
  pure (r.give (
    if atEnd then if Text.endsWith t p then t.take (t.length - p.length) else t
    else if Text.startsWith t p then t.drop p.length else t))

/-! ### Characters -/

def asciiUpper (t : Text) : Text :=
  t.map fun c => if 97 ≤ c && c ≤ 122 then c - 32 else c

def asciiLower (t : Text) : Text :=
  t.map fun c => if 65 ≤ c && c ≤ 90 then c + 32 else c

def asciiSwapped (t : Text) : Text :=
  t.map fun c => if isAsciiLetter c then if c ≤ 90 then c + 32 else c - 32 else c

/-- Every ASCII letter that does not follow one as a capital, all others small. -/
def asciiTitle (t : Text) : Text :=
  go false t
where
  go (inWord : Bool) : Text → Text
  | [] => []
  | c :: rest =>
    (if inWord then asciiLower [c] else asciiUpper [c]) ++ go (isAsciiLetter c) rest

/-- Whether all characters have a property, and there is one. -/
def allHave (p : CodePoint → Bool) (t : Text) : Bool :=
  !t.isEmpty && t.all p

def isIdentifier : Text → Bool
  | [] => false
  | c :: rest => isIdentifierStart c && rest.all isIdentifierContinue

/-- The questions about a string. -/
def question? (r : Receiver) (name : String) : Option Bool :=
  let t := r.content
  match r.flavour, name with
  | _, "isascii" => some t.isAscii
  | .text, "isalnum" => some (allHave isAlphanumeric t)
  | .text, "isalpha" => some (allHave isAlphabetic t)
  | .text, "isdecimal" => some (allHave isDecimal t)
  | .text, "isdigit" => some (allHave isDigit t)
  | .text, "isnumeric" => some (allHave isNumeric t)
  | .text, "isprintable" => some (t.all isPrintable)
  | .text, "isidentifier" => some (isIdentifier t)
  | .text, "islower" => some t.isLower
  | .text, "isupper" => some t.isUpper
  | .text, "istitle" => some t.isTitle
  | .binary, "isalnum" => some (allHave (fun c => isAsciiLetter c || isAsciiDigit c) t)
  | .binary, "isalpha" => some (allHave isAsciiLetter t)
  | .binary, "isdigit" => some (allHave isAsciiDigit t)
  | .binary, "islower" => some (asciiLower t == t && t.any isAsciiLetter)
  | .binary, "isupper" => some (asciiUpper t == t && t.any isAsciiLetter)
  | .binary, "istitle" => some (asciiTitle t == t && t.any isAsciiLetter)
  | flavour, "isspace" => some (allHave flavour.isBlank t)
  | _, _ => none

/-- The forms of a string in other letters. -/
def form? (r : Receiver) (name : String) : Option Text :=
  let t := r.content
  match r.flavour, name with
  | .text, "upper" => some t.upper
  | .text, "lower" => some t.lower
  | .text, "title" => some t.title
  | .text, "capitalize" => some t.capitalize
  | .text, "casefold" => some t.fold
  | .text, "swapcase" => some t.swapCase
  | .binary, "upper" => some (asciiUpper t)
  | .binary, "lower" => some (asciiLower t)
  | .binary, "title" => some (asciiTitle t)
  | .binary, "capitalize" => some (asciiUpper (t.take 1) ++ asciiLower (t.drop 1))
  | .binary, "swapcase" => some (asciiSwapped t)
  | _, _ => none

/-- What stands for a character under a table: nothing is changed if the table does not have it. -/
def translated (table : Value) (c : CodePoint) : Exec Text := do
  match ← attempt (subscript table (.int c)) with
  | .error f =>
    if [Kind.missingKey, .badIndex, .lookup].contains f.kind then pure [c] else raise f
  | .ok .none => pure []
  | .ok v => match v.asText?, index? v with
    | some t, _ => pure t
    | none, some i =>
      if 0 ≤ i ∧ i < 0x110000 then pure [i.toNat]
      else fail .badValue "character mapping must be in range(0x110000)"
    | none, none => typeError "character mapping must return integer, None or str"

/-- A table for the translation of texts. -/
def textTable (given : Given) : Exec Value := do
  match given.at? 1 with
  | none => match given.get 0 with
    | .ref id => match ← fetch id with
      | .dict es => do
        let entries ← forEach es.toList fun (k, v) => do
          match k.asText?, k with
          | some [c], _ => pure (Value.int c, v)
          | some _, _ => fail .badValue "string keys in translate table must be of length 1"
          | none, .int .. | none, .bool _ => pure (k, v)
          | none, _ => typeError "keys in translate table must be strings or integers"
        let es ← onHeap fun h => Entries.insertAll h #[] entries
        newDict es.toList
      | _ => typeError "if you give only one argument to maketrans it must be a dict"
    | _ => typeError "if you give only one argument to maketrans it must be a dict"
  | some y =>
    let second (n : Nat) (v : Value) : Exec Text := do
      match v.asText? with
      | some t => pure t
      | none => do
        typeError ("maketrans() argument " ++ Text.ofNat n ++ " must be str, not " ++ (← shownType v))
    let new ← second 2 y
    let dropped ← match given.at? 2 with
      | some z => second 3 z
      | none => pure []
    match (given.get 0).asText? with
    | none =>
      typeError "first maketrans argument must be a string if there is a second argument"
    | some old =>
      if old.length ≠ new.length then
        fail .badValue "the first two maketrans arguments must have equal length"
      else
        let entries := (old.zip new).map (fun (a, b) => (Value.int (a : Nat), Value.int (b : Nat))) ++
          dropped.map fun (c : Nat) => (Value.int c, Value.none)
        let es ← onHeap fun h => Entries.insertAll h #[] entries
        newDict es.toList

/-! ### Encodings -/

/-- The name of an encoding and the rule for what it does not have. -/
def encodingArguments (function : Text) (given : Given) : Exec (Text × Replacement) := do
  let textOf (n : Nat) (name default : Text) : Exec Text := do
    match given.at? n with
    | none => pure default
    | some v => match v.asText? with
      | some t => pure t
      | none => do
        typeError (function ++ "() argument '" ++ name ++ "' must be str, not " ++ (← shownType v))
  let name ← textOf 0 "encoding" "utf-8"
  let rule ← textOf 1 "errors" "strict"
  ofExcept (Encoding.nameChecked name)
  ofExcept (Encoding.nameChecked rule)
  pure (name, .ofName rule)

/-- The bytes of a text. -/
def encode (t : Text) (given : Given) : Exec Value := do
  let (name, rule) ← encodingArguments "encode" given
  pure (.bytes (← ofExcept (Encoding.encoded name rule t)))

/-- The text of bytes. -/
def decode (b : Bytes) (given : Given) : Exec Value := do
  let (name, rule) ← encodingArguments "decode" given
  pure (.str (← ofExcept (Encoding.decoded name rule b)))

/-- A separator between hexadecimal digits: one ASCII character, or one byte. -/
def digitSeparator? (v : Option Value) : Exec (Option CodePoint) := do
  let single (t : Text) : Exec (Option CodePoint) := match t with
    | [c] => if c < 128 then pure (some c) else fail .badValue "sep must be ASCII."
    | _ => fail .badValue "sep must be length 1."
  match v with
  | none => pure none
  | some v => match v.asText?, v with
    | some t, _ => single t
    | none, .bytes b _ => single (b.map UInt8.toNat)
    | none, _ =>
      if (← lengthOf v) = 1 then typeError "sep must be str or bytes."
      else single []

/-- Bytes as hexadecimal digits, with a separator between groups that are counted from one end. -/
def hexadecimal (b : Bytes) (given : Given) : Exec Value := do
  let group ← match given.at? 1 with
    | some v => asSmall v
    | none => pure 1
  let sep ← digitSeparator? (given.at? 0)
  let digits : List Text := b.map fun x => Text.hex 2 x.toNat
  let between (digits : List Text) (c : CodePoint) (size : Nat) : Text :=
    (digits.zipIdx.map fun (d, n) =>
      if 0 < n ∧ n % size = 0 then c :: d else d).flatten
  match sep with
  | none => pure (.str digits.flatten)
  | some c =>
    let size := group.natAbs
    if size = 0 then pure (.str digits.flatten)
    else if group < 0 then pure (.str (between digits c size))
    else
      let mirrored := between (digits.reverse.map List.reverse) c size
      pure (.str mirrored.reverse)

/-- The value of a hexadecimal digit. -/
def hexDigit? (c : CodePoint) : Option Nat :=
  if isAsciiDigit c then some (c - 48)
  else if 97 ≤ c ∧ c ≤ 102 then some (c - 87)
  else if 65 ≤ c ∧ c ≤ 70 then some (c - 55)
  else none

/-- Bytes from pairs of hexadecimal digits with blanks between them. -/
def fromHex (v : Value) : Exec Value := do
  match v.asText? with
  | none => do typeError (("fromhex() argument must be str, not " : Text) ++ (← shownType v))
  | some t => do pure (.bytes (← go 0 t))
where
  misplaced (n : Nat) : Exec Bytes :=
    fail .badValue ("non-hexadecimal number found in fromhex() arg at position " ++ Text.ofNat n)
  go (n : Nat) : Text → Exec Bytes
  | [] => pure []
  | c :: rest =>
    if Flavour.binary.isBlank c then go (n + 1) rest
    else match hexDigit? c, rest with
      | none, _ => misplaced n
      | some _, [] => misplaced (n + 1)
      | some a, d :: rest => match hexDigit? d with
        | some b => do pure (UInt8.ofNat (a * 16 + b) :: (← go (n + 2) rest))
        | none => misplaced (n + 1)

/-- A table with a place for every byte; none stands for the one that changes nothing. -/
def byteMap? (v : Value) : Exec (Option Text) := do
  match v with
  | .none => pure none
  | v => do
    let t ← buffer v
    if t.length ≠ 256 then fail .badValue "translation table must be 256 characters long"
    else pure (some t)

/-- Bytes under a table, without those to be dropped. -/
def translatedBytes (r : Receiver) (given : Given) : Exec Value := do
  let table ← byteMap? (given.get 0)
  let dropped ← match given.at? 1 with
    | some v => buffer v
    | none => pure []
  let kept := r.content.filter fun c => !dropped.contains c
  pure (r.give (match table with
    | some t => kept.map fun c => t.getD c 0
    | none => kept))

/-- A table for the translation of byte strings. -/
def byteTable (given : Given) : Exec Value := do
  let old ← buffer (given.get 0)
  let new ← buffer (given.get 1)
  if old.length ≠ new.length then
    fail .badValue "maketrans arguments must have same length"
  else
    let changed := (old.zip new).reverse
    pure (Flavour.binary.made ((List.range 256).map fun c => (changed.lookup c).getD c))

/-- Call a method of a text or of a byte string. -/
def call (E : Engine) (r : Receiver) (name : String) (given : Given) : Exec Value := do
  match question? r name, form? r name with
  | some b, _ => pure (.bool b)
  | none, some t => pure (r.flavour.made t)
  | none, none => match name with
    | "center" => padded r name Text.center given
    | "ljust" => padded r name Text.padRight given
    | "rjust" => padded r name Text.padLeft given
    | "zfill" => do pure (r.give (zeroFill (← boundedWidth (given.get 0)) r.content))
    | "strip" | "lstrip" | "rstrip" => stripped r name given
    | "removeprefix" => removed r false given
    | "removesuffix" => removed r true given
    | "startswith" => edge r false given
    | "endswith" => edge r true given
    | "count" | "find" | "rfind" | "index" | "rindex" => search r name given
    | "split" => split r false given
    | "rsplit" => split r true given
    | "splitlines" => splitLines r given
    | "partition" => parts r false given
    | "rpartition" => parts r true given
    | "replace" => replace r given
    | "join" => join E r given
    | "expandtabs" => do
      let width ← match given.at? 0 with
        | some v => asSmall v
        | none => pure 8
      pure (r.give (expandTabs width.toNat r.content))
    | "maketrans" => if r.isText then textTable given else byteTable given
    | "translate" => match r.flavour with
      | .text => do
        let texts ← forEach r.content (translated (given.get 0))
        pure (.str texts.flatten)
      | .binary => translatedBytes r given
    | "encode" => encode r.content given
    | "decode" => decode (r.content.map UInt8.ofNat) given
    | "hex" => hexadecimal (r.content.map UInt8.ofNat) given
    | "fromhex" => fromHex (given.get 0)
    | "format_map" => Braces.format (.ofMapping none (given.get 0)) r.content
    | "__bytes__" => pure r.self
    | "__getnewargs__" => newTuple [r.self]
    | _ => typeError ("'" ++ (name : Text) ++ "' is not available")

end Strings

end Template

end Stencil
