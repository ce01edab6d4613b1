import Stencil.Text.Property

/-!
# Texts

A text is a list of code points. Unlike `String` it may hold a lone surrogate, which template
literals can spell and which only an encoder refuses.

## Main definitions

- `Text` — lists of code points, with a coercion from string literals
- `Text.cut?`, `Text.splitOn`, `Text.splitBlanks`, `Text.lines` — ways to take a text apart
- `Text.replace` — replacement of up to a number of occurrences
- `Text.trim`, `Text.trimLeft`, `Text.trimRight` — removal of a class of code points at the ends
- `Text.compare` — the order by code point
-/

namespace Stencil

/-- A Unicode code point, surrogates included. -/
abbrev CodePoint := Nat

/-- A sequence of code points. -/
abbrev Text := List CodePoint

namespace Text

def ofString (s : String) : Text :=
  s.toList.map Char.toNat

instance : Coe String Text := ⟨ofString⟩

/-- The text as a `String`; a surrogate, which `String` cannot hold, becomes NUL. -/
def toName (t : Text) : String :=
  String.ofList (t.map Char.ofNat)

def ofNat (n : Nat) : Text :=
  ofString n.repr

/-- Decimal digits, with a minus sign in front of a negative number. -/
def ofInt : Int → Text
  | .ofNat n => ofNat n
  | .negSucc n => 45 :: ofNat (n + 1)

def newline : CodePoint := 10

def join (separator : Text) (parts : List Text) : Text :=
  separator.intercalate parts

def startsWith (t p : Text) : Bool :=
  p.isPrefixOf t

def endsWith (t s : Text) : Bool :=
  s.isSuffixOf t

/-- The `n`-fold repetition of a text. -/
def repeated (n : Nat) (t : Text) : Text :=
  (List.replicate n t).flatten

def trimLeft (p : CodePoint → Bool) (t : Text) : Text :=
  t.dropWhile p

def trimRight (p : CodePoint → Bool) (t : Text) : Text :=
  (t.reverse.dropWhile p).reverse

def trim (p : CodePoint → Bool) (t : Text) : Text :=
  trimRight p (trimLeft p t)

/-- The parts before and after the first occurrence of `sep`. -/
def cut? (sep : Text) : Text → Option (Text × Text)
  | [] => if sep.isEmpty then some ([], []) else none
  | c :: rest =>
    if sep.isPrefixOf (c :: rest) then some ([], (c :: rest).drop sep.length)
    else (cut? sep rest).map fun (before, after) => (c :: before, after)

/-- The parts before and after the last occurrence of `sep`. -/
def cutLast? (sep : Text) (t : Text) : Option (Text × Text) :=
  (cut? sep.reverse t.reverse).map fun (after, before) => (before.reverse, after.reverse)

/-- Where `needle` first occurs. -/
def position? (needle t : Text) : Option Nat :=
  (cut? needle t).map (·.1.length)

/-- Where `needle` last occurs. -/
def lastPosition? (needle t : Text) : Option Nat :=
  (cutLast? needle t).map (·.1.length)

def includes (t needle : Text) : Bool :=
  (cut? needle t).isSome

/-- Cut at the first `limit` occurrences of `sep`. -/
def splitAtMost (sep : Text) : Nat → Text → List Text
  | 0, t => [t]
  | limit + 1, t =>
    match cut? sep t with
    | none => [t]
    | some (before, after) => before :: splitAtMost sep limit after

/-- Cut at every occurrence of `sep`. -/
def splitOn (sep t : Text) : List Text :=
  splitAtMost sep (t.length + 1) t

/-- Cut at the last `limit` occurrences of `sep`. -/
def splitAtMostFromEnd (sep : Text) (limit : Nat) (t : Text) : List Text :=
  ((splitAtMost sep.reverse limit t.reverse).map List.reverse).reverse

/-- The words of a text, with white space between them; after `limit` words the rest is one. -/
def splitBlanks : Nat → Text → List Text
  | limit, t => go (t.length + 1) limit t
where
  go : Nat → Nat → Text → List Text
  | 0, _, _ => []
  | fuel + 1, limit, t =>
    match t.dropWhile isSpace with
    | [] => []
    | c :: rest =>
      match limit with
      | 0 => [trimRight isSpace (c :: rest)]
      | limit + 1 =>
        let word := (c :: rest).takeWhile (!isSpace ·)
        word :: go fuel limit ((c :: rest).drop word.length)

def splitBlanksFromEnd (limit : Nat) (t : Text) : List Text :=
  ((splitBlanks limit t.reverse).map List.reverse).reverse

def words (t : Text) : List Text :=
  splitBlanks (t.length + 1) t

/-- The number of disjoint occurrences of a needle; an empty one occurs at every seam. -/
def occurrences (needle t : Text) : Nat :=
  if needle.isEmpty then t.length + 1 else (splitOn needle t).length - 1

/-- Put `new` in place of the first `limit` occurrences of `old`. An empty `old` occurs before every
code point and at the end. -/
def replaceAtMost (limit : Nat) (old new t : Text) : Text :=
  if old.isEmpty then
    let seams := min limit (t.length + 1)
    let spread := (t.take seams).flatMap fun c => new ++ [c]
    if seams = t.length + 1 then spread ++ new else spread ++ t.drop seams
  else
    join new (splitAtMost old limit t)

def replace (old new t : Text) : Text :=
  replaceAtMost (t.length + 1) old new t

/-- A code point that ends a line. -/
def isLineBreak (c : CodePoint) : Bool :=
  (10 ≤ c && c ≤ 13) || (28 ≤ c && c ≤ 30) || c == 0x85 || c == 0x2028 || c == 0x2029

/-- The lines of a text, each with its ending. A carriage return and a line feed end one line. -/
def linesWithEnds (t : Text) : List (Text × Text) :=
  go [] t
where
  go (line : Text) : Text → List (Text × Text)
  | [] => if line.isEmpty then [] else [(line.reverse, [])]
  | 13 :: 10 :: rest => (line.reverse, [13, 10]) :: go [] rest
  | c :: rest =>
    if isLineBreak c then (line.reverse, [c]) :: go [] rest else go (c :: line) rest

def lines (t : Text) : List Text :=
  (linesWithEnds t).map (·.1)

/-- The order by code point, a proper prefix first. -/
def compare : Text → Text → Ordering
  | [], [] => .eq
  | [], _ => .lt
  | _, [] => .gt
  | a :: s, b :: t => match Ord.compare a b with
    | .eq => compare s t
    | order => order

/-- Pad with blanks on the left to a width. -/
def padLeft (width : Nat) (fill : CodePoint) (t : Text) : Text :=
  List.replicate (width - t.length) fill ++ t

def padRight (width : Nat) (fill : CodePoint) (t : Text) : Text :=
  t ++ List.replicate (width - t.length) fill

/-- Blanks on both sides to a width; of an odd number of blanks the larger half goes left when the
width is odd too. -/
def center (width : Nat) (fill : CodePoint) (t : Text) : Text :=
  let blanks := width - t.length
  let left := blanks / 2 + (blanks % 2) * (width % 2)
  List.replicate left fill ++ t ++ List.replicate (blanks - left) fill

/-- Digits in a base up to sixteen, lower case. -/
def inBase (base : Nat) (n : Nat) : Text :=
  (Nat.toDigits base n).map Char.toNat

/-- Lower case hexadecimal digits, at least `width` of them. -/
def hex (width n : Nat) : Text :=
  padLeft width 48 (inBase 16 n)

def isAscii (t : Text) : Bool :=
  t.all (· < 128)

end Text

end Stencil
