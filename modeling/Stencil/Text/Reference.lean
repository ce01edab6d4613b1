import Stencil.Text.Reference.Table

/-!
# Character references

The names and numbers by which HTML refers to characters.

## Main definitions

- `Reference.ofName?`, `Reference.ofNumber` — what a name or a number refers to
- `Reference.resolve` — a text with its references replaced
- `Reference.longNumber?` — a number with more digits than are read
-/

namespace Stencil

namespace Reference

/-- Numbers of control characters that stand for something else. -/
def reassigned : List (Nat × CodePoint) := [
  (0, 65533), (13, 13), (128, 8364), (129, 129), (130, 8218), (131, 402), (132, 8222),
  (133, 8230), (134, 8224), (135, 8225), (136, 710), (137, 8240), (138, 352), (139, 8249),
  (140, 338), (141, 141), (142, 381), (143, 143), (144, 144), (145, 8216), (146, 8217),
  (147, 8220), (148, 8221), (149, 8226), (150, 8211), (151, 8212), (152, 732), (153, 8482),
  (154, 353), (155, 8250), (156, 339), (157, 157), (158, 382), (159, 376)]

/-- Numbers of control characters and non-characters, which stand for nothing. -/
def voidRanges : List (Nat × Nat) := [
  (1, 8), (11, 11), (14, 31), (127, 159), (64976, 65007), (65534, 65535), (131070, 131071),
  (196606, 196607), (262142, 262143), (327678, 327679), (393214, 393215), (458750, 458751),
  (524286, 524287), (589822, 589823), (655358, 655359), (720894, 720895), (786430, 786431),
  (851966, 851967), (917502, 917503), (983038, 983039), (1048574, 1048575), (1114110, 1114111)]

/-- The members of a table. -/
def members (table : String) : List Text :=
  (Text.splitOn [32] ((Text.ofString table).map fun c => if c = Text.newline then 32 else c)).filter
    (!·.isEmpty)

/-- The value of a hexadecimal number in capital letters. -/
def hexadecimal (t : Text) : Nat :=
  t.foldl (fun n c => n * 16 + if c ≤ 57 then c - 48 else c - 55) 0

/-- What a name stands for. -/
def lookup? (name : Text) : Option Text :=
  (members entries).findSome? fun entry => match Text.splitOn [61] entry with
    | [known, numbers] =>
      if known == name then some ((Text.splitOn [43] numbers).map hexadecimal) else none
    | _ => none

/-- What a name stands for. Few names count without a semicolon. -/
def ofName? (name : Text) (closed : Bool) : Option Text :=
  if closed || (members openNames).contains name then lookup? name else none

/-- What a number refers to. -/
def ofNumber (n : Nat) : Text :=
  match reassigned.lookup n with
  | some c => [c]
  | none =>
    if isSurrogate n ∨ 0x10FFFF < n then [0xFFFD]
    else if voidRanges.any (fun (a, b) => a ≤ n && n ≤ b) then []
    else [n]

/-- A character that can be part of a name. -/
def isNamePoint (c : CodePoint) : Bool :=
  !([9, 10, 12, 32, 60, 38, 35, 59].contains c)

/-- The longest beginning of a name that counts without a semicolon, with the rest of it. -/
def longestOpen? (name : Text) : Option (Text × Text) :=
  (List.range (name.length + 1)).reverse.findSome? fun n =>
    if n ≤ 1 then none
    else (ofName? (name.take n) false).map fun t => (t, name.drop n)

def digitsOf (base : Nat) (t : Text) : Text × Nat :=
  let isDigit (c : CodePoint) : Bool :=
    isAsciiDigit c || (base == 16 && ((97 ≤ c && c ≤ 102) || (65 ≤ c && c ≤ 70)))
  let ds := t.takeWhile isDigit
  (ds, ds.foldl (fun n c =>
    n * base + (if c ≤ 57 then c - 48 else if c ≤ 70 then c - 55 else c - 87)) 0)

/-- The text for the reference behind an ampersand, and how much of the text it takes. -/
def atHead (t : Text) : Option (Text × Nat) :=
  let numbered (base skipped : Nat) (t : Text) : Option (Text × Nat) :=
    let (ds, n) := digitsOf base t
    if ds.isEmpty then none
    else
      let closed := (t.drop ds.length).head? = some 59
      some (ofNumber n, skipped + ds.length + if closed then 1 else 0)
  match t with
  | 35 :: 120 :: rest => numbered 16 2 rest
  | 35 :: 88 :: rest => numbered 16 2 rest
  | 35 :: rest => numbered 10 1 rest
  | _ =>
    let name := (t.takeWhile isNamePoint).take 32
    let closed := (t.drop name.length).head? = some 59
    match ofName? name closed with
    | some t => some (t, name.length + if closed then 1 else 0)
    | none => (longestOpen? name).map fun (t, rest) => (t, name.length - rest.length)

/-- Replace all references; `skip` code points belong to a reference that was replaced already. -/
def resolveFrom : Nat → Text → Text
  | _, [] => []
  | skip + 1, _ :: rest => resolveFrom skip rest
  | 0, c :: rest =>
    if c = 38 then
      match atHead rest with
      | some (t, taken) => t ++ resolveFrom taken rest
      | none => c :: resolveFrom 0 rest
    else c :: resolveFrom 0 rest

def resolve (t : Text) : Text :=
  resolveFrom 0 t

/-- The number of digits of the first decimal number that has more than `limit`, if there is one. -/
def longNumber? (limit : Nat) : Text → Option Nat
  | [] => none
  | 38 :: 35 :: rest =>
    let n := (rest.takeWhile isAsciiDigit).length
    if limit < n then some n else longNumber? limit rest
  | _ :: rest => longNumber? limit rest

end Reference

end Stencil
