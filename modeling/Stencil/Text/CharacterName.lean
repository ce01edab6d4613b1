import Stencil.Text.CharacterName.Table

/-!
# Character names

Characters by their names in the Unicode standard, small and capital letters alike.

## Main definitions

- `CharacterName.find?` — the character of a name
- `CharacterName.syllable?`, `CharacterName.numbered?`, `CharacterName.listed?` — characters whose names
  spell their sound, have their number, or are in the table
-/

namespace Stencil

namespace CharacterName

/-- The blanks and line breaks between words. -/
def separated (t : Text) : List Text :=
  (Text.splitOn [32] (t.map fun c => if c = Text.newline then 32 else c)).filter (!·.isEmpty)

/-- The word of a code, by the position of the code in the order of all codes. -/
def coded (known : Array Text) (n : Nat) : Text :=
  known.getD n []

/-- How far the reader of the table has come. The words of the entry are kept last first. -/
structure Reader where
  point : CodePoint := 0
  name : List Text := []
  /-- The first letter of a code of two. -/
  lead : Option Nat := none
  /-- The word that is being spelled out, last character first. -/
  spelled : Text := []
  /-- The number behind an `@`. -/
  address : Option Nat := none

namespace Reader

/-- The reader with the word that is being spelled out as a part of the name. -/
def endWord (r : Reader) : Reader :=
  if r.spelled.isEmpty then r else { r with name := r.spelled.reverse :: r.name, spelled := [] }

/-- The reader at an entry that shares `count` words with the one before. -/
def startEntry (r : Reader) (count : Nat) : Reader :=
  { point := r.address.getD (r.point + 1), name := r.name.drop (r.name.length - count) }

/-- Letters below this one are codes of their own. -/
def singleCodes : Nat := 10

/-- The reader behind a small letter. -/
def readCode (known : Array Text) (r : Reader) (letter : Nat) : Reader :=
  let r := r.endWord
  match r.lead with
  | some lead =>
    let n := singleCodes + (lead - singleCodes) * 26 + letter
    { r with name := coded known n :: r.name, lead := none }
  | none =>
    if letter < singleCodes then { r with name := coded known letter :: r.name }
    else { r with lead := some letter }

/-- The value of a hexadecimal digit. -/
def digit (c : CodePoint) : Nat :=
  if c ≤ 57 then c - 48 else c - 55

end Reader

/-- The character of a name that is given by its words, last first. -/
def search (known : Array Text) (marks : Text) (name : List Text) : Reader → Text → Option CodePoint
  | r, [] => if r.endWord.name == name then some r.point else none
  | r, c :: rest =>
    if c = Text.newline then search known marks name r rest
    else match marks.findIdx? (· == c), r.address with
      | some count, address =>
        let r := r.endWord
        if r.name == name && address.isNone then some r.point
        else search known marks name (r.startEntry count) rest
      | none, some n =>
        search known marks name { r with address := some (n * 16 + Reader.digit c) } rest
      | none, none =>
        if c = 64 then
          let r := r.endWord
          if r.name == name then some r.point
          else search known marks name { r with address := some 0 } rest
        else if c = 32 then search known marks name r.endWord rest
        else if 97 ≤ c then search known marks name (r.readCode known (c - 97)) rest
        else search known marks name { r with spelled := c :: r.spelled } rest

/-- Small ASCII letters as capital ones. -/
def capitals (name : Text) : Text :=
  name.map fun c => if 97 ≤ c ∧ c ≤ 122 then c - 32 else c

/-- The character of a name in the table. -/
def listed? (name : Text) : Option CodePoint :=
  let known := (separated words).toArray
  let parts := Text.splitOn [32] name
  if parts.any List.isEmpty then none
  else search known countMarks parts.reverse {} entries

/-- The number that a text of hexadecimal digits, capital letters among them, stands for. -/
def hexadecimal? (t : Text) : Option Nat :=
  if !t.isEmpty && t.all fun c => (48 ≤ c && c ≤ 57) || (65 ≤ c && c ≤ 70) then
    some (t.foldl (fun n c => n * 16 + Reader.digit c) 0)
  else none

/-- What a name has behind a beginning. -/
def behind? (beginning name : Text) : Option Text :=
  if beginning.isPrefixOf name then some (name.drop beginning.length) else none

/-- The unified ideographs. -/
def ideographs : List (Nat × Nat) := [
  (0x3400, 0x4DBF), (0x4E00, 0x9FFF), (0x20000, 0x2A6DF), (0x2A700, 0x2B738), (0x2B740, 0x2B81D),
  (0x2B820, 0x2CEA1), (0x2CEB0, 0x2EBE0), (0x30000, 0x3134A)]

/-- Other characters that are named by their numbers. -/
def numberedRanges : List (String × List (Nat × Nat)) := [
  ("CJK COMPATIBILITY IDEOGRAPH-", [(0xF900, 0xFA6D), (0xFA70, 0xFAD9), (0x2F800, 0x2FA1D)]),
  ("KHITAN SMALL SCRIPT CHARACTER-", [(0x18B00, 0x18CD5)]),
  ("NUSHU CHARACTER-", [(0x1B170, 0x1B2FB)])]

def isWithin (ranges : List (Nat × Nat)) (c : CodePoint) : Bool :=
  ranges.any fun (first, last) => first ≤ c && c ≤ last

/-- The character of a name that ends in the character's number. -/
def numbered? (name : Text) : Option CodePoint :=
  numberedRanges.findSome? fun (beginning, ranges) => do
    let digits ← behind? beginning name
    let c ← hexadecimal? digits
    if isWithin ranges c && digits.head? != some 48 then some c else none

/-- The parts of syllables: first consonants, vowels, and last consonants. -/
def syllableParts : List Text × List Text × List Text := (
  ["G", "GG", "N", "D", "DD", "R", "M", "B", "BB", "S", "SS", "", "J", "JJ", "C", "K", "T", "P",
    "H"],
  ["A", "AE", "YA", "YAE", "EO", "E", "YEO", "YE", "O", "WA", "WAE", "OE", "YO", "U", "WEO", "WE",
    "WI", "YU", "EU", "YI", "I"],
  ["", "G", "GG", "GS", "N", "NJ", "NH", "D", "L", "LG", "LM", "LB", "LS", "LT", "LP", "LH", "M", "B",
    "BS", "S", "SS", "NG", "J", "C", "K", "T", "P", "H"])

/-- The longest of some beginnings of a text: its position and the rest of the text. -/
def longest? (beginnings : List Text) (t : Text) : Option (Nat × Text) :=
  let fitting := beginnings.zipIdx.filter fun (b, _) => b.isPrefixOf t
  (fitting.foldl (fun best (b, n) => match best with
    | some (a, m) => if a.length < b.length then some (b, n) else some (a, m)
    | none => some (b, n)) none).map fun ((b, n) : Text × Nat) => (n, t.drop b.length)

/-- The syllable that is spelled out. -/
def syllable? (sound : Text) : Option CodePoint := do
  let (firsts, vowels, lasts) := syllableParts
  let (first, rest) ← longest? firsts sound
  let (vowel, rest) ← longest? vowels rest
  let (last, rest) ← longest? lasts rest
  if rest.isEmpty then
    some (0xAC00 + (first * vowels.length + vowel) * lasts.length + last)
  else none

/-- The selector of a variation, by its number. -/
def selector? (name : Text) : Option CodePoint := do
  let digits ← behind? "VS" name
  if digits.isEmpty || !digits.all isAsciiDigit || digits.head? == some 48 then none
  else
    let n := digits.foldl (fun n c => n * 10 + (c - 48)) 0
    if n ≤ 16 then some (0xFE00 + n - 1)
    else if n ≤ 256 then some (0xE0100 + n - 17)
    else none

/-- The character of a further name. -/
def alias? (name : Text) : Option CodePoint :=
  (Text.splitOn [59] (Text.ofString aliases)).findSome? fun entry =>
    match Text.splitOn [61] (entry.filter (· ≠ Text.newline)) with
    | [number, known] => if known == name then hexadecimal? number else none
    | _ => none

/-- The character of a name. The names of unified ideographs and syllables are in capitals. -/
def find? (name : Text) : Option CodePoint :=
  match behind? "HANGUL SYLLABLE " name, behind? "CJK UNIFIED IDEOGRAPH-" name with
  | some sound, _ => syllable? sound
  | none, some digits => do
    let c ← hexadecimal? digits
    if (digits.length = 4 ∨ digits.length = 5) ∧ isWithin ideographs c then some c else none
  | none, none =>
    let name := capitals name
    (numbered? name).or ((selector? name).or ((alias? name).or (listed? name)))

end CharacterName

end Stencil
