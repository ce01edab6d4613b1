import Stencil.Text.Basic

/-!
# Markup

Escaping of texts for HTML, and the removal of tags.

## Main definitions

- `Markup.escape` — the five special characters become character references
- `Markup.withoutTags` — tags and comments removed, and blanks collapsed
-/

namespace Stencil

namespace Markup

/-- What stands for a code point in escaped text. -/
def escapePoint (c : CodePoint) : Text :=
  if c = 38 then "&amp;"
  else if c = 60 then "&lt;"
  else if c = 62 then "&gt;"
  else if c = 34 then "&#34;"
  else if c = 39 then "&#39;"
  else [c]

/-- Escape the characters that have a meaning in HTML text and attribute values. -/
def escape (t : Text) : Text :=
  t.flatMap escapePoint

/-- Remove the parts between an opening and a closing mark, marks included, as long as there are any. -/
def without (opening closing : Text) : Nat → Text → Text
  | 0, t => t
  | fuel + 1, t =>
    match Text.position? opening t with
    | none => t
    | some start =>
      match Text.cut? closing (t.drop start) with
      | none => t
      | some (_, after) => without opening closing fuel (t.take start ++ after)

/-- The text of a piece of HTML, with its character references as they are. -/
def withoutTags (t : Text) : Text :=
  let t := without "<!--" "-->" t.length t
  let t := without "<" ">" t.length t
  Text.join " " (Text.words t)

end Markup

end Stencil
