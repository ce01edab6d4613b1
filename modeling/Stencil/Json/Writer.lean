import Stencil.Json.Reader

/-!
# Writing JSON

The ASCII form of a JSON value: all other characters are escaped by their UTF-16 units.

## Main definitions

- `Json.Layout` — the separators
- `Json.write` — the text of a value
-/

namespace Stencil

namespace Json

/-- The texts between items, and between the name and the value of a member. -/
structure Layout where
  itemSeparator : Text
  nameSeparator : Text

/-- No blanks. -/
def compact : Layout := ⟨",", ":"⟩

/-- A blank after each comma and each colon. -/
def spaced : Layout := ⟨", ", ": "⟩

def writePoint (c : CodePoint) : Text :=
  match c with
  | 34 => "\\\""
  | 92 => "\\\\"
  | 10 => "\\n"
  | 13 => "\\r"
  | 9 => "\\t"
  | 12 => "\\f"
  | 8 => "\\b"
  | c =>
    if 32 ≤ c && c < 127 then [c]
    else if c < 0x10000 then "\\u" ++ Text.hex 4 c
    else "\\u" ++ Text.hex 4 (0xD800 + (c - 0x10000) / 1024) ++
      "\\u" ++ Text.hex 4 (0xDC00 + (c - 0x10000) % 1024)

def writeString (t : Text) : Text :=
  34 :: t.flatMap writePoint ++ [34]

def writeFloat (x : Float) : Text :=
  if Binary64.isNaN x then "NaN"
  else if Binary64.isInfinite x then if Binary64.isNegative x then "-Infinity" else "Infinity"
  else Decimal.showFloat x

mutual

def write (layout : Layout) : Json → Text
  | null => "null"
  | bool true => "true"
  | bool false => "false"
  | int i => Text.ofInt i
  | float x => writeFloat x
  | str t => writeString t
  | arr items => "[" ++ Text.join layout.itemSeparator (writeItems layout items) ++ "]"
  | obj members =>
    "\x7b" ++ Text.join layout.itemSeparator (writeMembers layout members) ++ "\x7d"

def writeItems (layout : Layout) : List Json → List Text
  | [] => []
  | j :: rest => write layout j :: writeItems layout rest

def writeMembers (layout : Layout) : List (Text × Json) → List Text
  | [] => []
  | (name, j) :: rest =>
    (writeString name ++ layout.nameSeparator ++ write layout j) :: writeMembers layout rest

end

end Json

end Stencil
