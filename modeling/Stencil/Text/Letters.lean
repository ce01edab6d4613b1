import Stencil.Text.Basic
import Stencil.Text.Case

/-!
# Case of texts

Case conversion of whole texts and the questions that depend on all letters of a text.

## Main definitions

- `Text.upper`, `Text.lower`, `Text.title`, `Text.capitalize`, `Text.fold`, `Text.swapCase`
- `Text.isUpper`, `Text.isLower`, `Text.isTitle`
-/

namespace Stencil

namespace Text

def upper (t : Text) : Text :=
  t.flatMap upperOf

def fold (t : Text) : Text :=
  t.flatMap foldOf

/-- Whether the nearest code point that the rule for a final sigma does not look through is cased. -/
def meetsCased (t : Text) : Bool :=
  match t.dropWhile isCaseIgnorable with
  | [] => false
  | c :: _ => isCased c

/-- The lower case form of a code point between `before` (nearest first) and `after`: a capital sigma
becomes a final one at the end of a word. -/
def lowerWithin (before : Text) (c : CodePoint) (after : Text) : Text :=
  if c = 0x3A3 then [if meetsCased before && !meetsCased after then 0x3C2 else 0x3C3]
  else lowerOf c

def lower (t : Text) : Text :=
  go [] t
where
  go (before : Text) : Text → Text
  | [] => []
  | c :: rest => lowerWithin before c rest ++ go (c :: before) rest

/-- Every letter that does not follow a letter in title form, all others in lower case. -/
def title (t : Text) : Text :=
  go [] false t
where
  go (before : Text) (inWord : Bool) : Text → Text
  | [] => []
  | c :: rest =>
    (if inWord then lowerWithin before c rest else titleOf c) ++ go (c :: before) (isCased c) rest

/-- The first code point in title form, all others in lower case. -/
def capitalize : Text → Text
  | [] => []
  | c :: rest => titleOf c ++ lower.go [c] rest

def swapCase (t : Text) : Text :=
  go [] t
where
  go (before : Text) : Text → Text
  | [] => []
  | c :: rest =>
    (if isUppercase c then lowerWithin before c rest
     else if isLowercase c then upperOf c
     else [c]) ++ go (c :: before) rest

/-- Some letter is upper case, and none is lower or title case. -/
def isUpper (t : Text) : Bool :=
  t.any isUppercase && !t.any fun c => isLowercase c || isTitlecase c

def isLower (t : Text) : Bool :=
  t.any isLowercase && !t.any fun c => isUppercase c || isTitlecase c

/-- Capitals start words and small letters continue them, and there is a word. -/
def isTitle (t : Text) : Bool :=
  go false false t
where
  go (inWord found : Bool) : Text → Bool
  | [] => found
  | c :: rest =>
    if isUppercase c || isTitlecase c then if inWord then false else go true true rest
    else if isLowercase c then if inWord then go true true rest else false
    else go false found rest

end Text

end Stencil
