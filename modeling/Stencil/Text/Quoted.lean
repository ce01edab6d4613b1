import Stencil.Text.Basic

/-!
# Quoted forms

How texts and byte strings are shown inside lists and messages: between quotes, with everything that
could not be read back written as an escape.

## Main definitions

- `Text.quoted` — the quoted form of a text
- `quotedBytes` — the quoted form of a byte string
-/

namespace Stencil

abbrev Bytes := List UInt8

/-- Single quotes, unless the text holds a single quote and no double quote. -/
def quoteMark (t : Text) : CodePoint :=
  if t.contains 39 && !t.contains 34 then 34 else 39

/-- The escape of a code point between the given quotes. -/
def quotedPoint (quote c : CodePoint) : Text :=
  if c = quote ∨ c = 92 then [92, c]
  else if c = 9 then "\\t"
  else if c = 10 then "\\n"
  else if c = 13 then "\\r"
  else if isPrintable c then [c]
  else if c < 0x100 then "\\x" ++ Text.hex 2 c
  else if c < 0x10000 then "\\u" ++ Text.hex 4 c
  else "\\U" ++ Text.hex 8 c

/-- The text between quotes, as a literal that reads back. -/
def Text.quoted (t : Text) : Text :=
  let quote := quoteMark t
  quote :: t.flatMap (quotedPoint quote) ++ [quote]

/-- Bytes between quotes behind a `b`; all but printable ASCII is escaped. -/
def quotedBytes (b : Bytes) : Text :=
  let t : Text := b.map UInt8.toNat
  let quote := quoteMark t
  let point (c : CodePoint) : Text :=
    if c < 128 then quotedPoint quote c else "\\x" ++ Text.hex 2 c
  98 :: quote :: t.flatMap point ++ [quote]

end Stencil
