import Stencil.Text.Property
import Stencil.Text.Basic

/-!
# Wrapping text

A line is cut into chunks at blanks, behind hyphens and around dashes, and the chunks are put together
again in lines of a greatest width.

## Main definitions

- `Wrap.chunks` — the chunks of a line
- `Wrap.lines?`, `Wrap.wrap?` — the lines that chunks are put together in
-/

namespace Stencil

namespace Wrap

def isBlank (c : CodePoint) : Bool :=
  c = 32 || (9 ≤ c && c ≤ 13)

def isLetter (c : CodePoint) : Bool :=
  isWordCharacter c && !isDecimal c

/-- A character that can stand in front of a dash. -/
def meetsDash (c : CodePoint) : Bool :=
  isWordCharacter c || [33, 34, 39, 38, 46, 44, 63].contains c

def startsWord : Text → Bool
  | c :: _ => isWordCharacter c
  | [] => false

/-- The number of hyphens at the head of a text. -/
def hyphens (t : Text) : Nat :=
  (t.takeWhile (· = 45)).length

/-- Whether a dash of two or more hyphens stands at the head of a text, with a word behind it. -/
def startsDash (t : Text) : Bool :=
  let n := hyphens t
  2 ≤ n && startsWord (t.drop n)

/-- Whether letters follow, perhaps with a hyphen between the first two. -/
def startsCompound : Text → Bool
  | a :: 45 :: b :: _ => isLetter a && isLetter b
  | a :: b :: _ => isLetter a && isLetter b
  | _ => false

/-- Whether a word may be cut behind a hyphen; `before` is what stands in front of it, nearest first. -/
def mayCut (before after : Text) : Bool :=
  startsCompound after && match before with
    | a :: 45 :: c :: _ => (meetsDash a && isLetter c) || false
    | a :: b :: _ => isLetter a && isLetter b
    | _ => false

/-- The length of the part of a word up to the first place where it may end. -/
def wordLength (before : Text) : Text → Nat
  | [] => 0
  | c :: rest =>
    let here := c :: before
    let ends := match rest with
      | [] => true
      | d :: _ => isBlank d
    -- a hyphen belongs to the part in front of it
    match rest with
    | 45 :: after =>
      if mayCut here after then 2
      else if ends || (meetsDash c && startsDash rest) then 1
      else wordLength here rest + 1
    | _ => if ends then 1 else wordLength here rest + 1

/-- The chunks of a line: blanks, dashes and words, which may be cut behind hyphens. -/
def chunks : Nat → Text → Text → List Text
  | 0, _, _ => []
  | _, _, [] => []
  | fuel + 1, before, t@(c :: _) =>
    let n :=
      if isBlank c then (t.takeWhile isBlank).length
      else if startsDash t && (match before with | b :: _ => meetsDash b | [] => false) then hyphens t
      else wordLength before t
    let n := max n 1
    t.take n :: chunks fuel ((t.take n).reverse ++ before) (t.drop n)

/-- The chunks of a line that is cut at blanks only. -/
def words : Nat → Text → List Text
  | 0, _ => []
  | _, [] => []
  | fuel + 1, t@(c :: _) =>
    let part := t.takeWhile fun d => isBlank d == isBlank c
    part :: words fuel (t.drop part.length)

/-- How lines are made up. -/
structure Style where
  width : Int
  /-- Whether the width is a number of characters, at which a chunk can be cut. -/
  isWhole : Bool := true
  /-- Whether a chunk that is longer than a line is cut, and whether that is done behind hyphens. -/
  breaksWords : Bool
  atHyphens : Bool

/-- The chunks that fit on a line, and the others. -/
def fill (room : Int) : List Text → List Text × List Text
  | [] => ([], [])
  | c :: rest =>
    if (c.length : Int) ≤ room then
      let (line, others) := fill (room - c.length) rest
      (c :: line, others)
    else ([], c :: rest)

/-- Where to cut a chunk that does not fit into the room that is left. -/
def cutAt (s : Style) (room : Nat) (chunk : Text) : Nat :=
  let hyphen := Text.lastPosition? "-" (chunk.take room)
  match hyphen with
  | some n =>
    if s.atHyphens && room < chunk.length && 0 < n && (chunk.take n).any (· ≠ 45) then n + 1 else room
  | none => room

def isBlankText (t : Text) : Bool :=
  t.all isSpace

/-- The lines that chunks are put together in. Blanks around a line are dropped, except those that the
first line starts with. None if a chunk has to be cut at a width that is not whole. -/
def lines? (s : Style) : Nat → Bool → List Text → Option (List Text)
  | 0, _, _ => some []
  | _, _, [] => some []
  | fuel + 1, first, c :: rest => do
    let left := if !first && isBlankText c then rest else c :: rest
    let (line, others) := fill s.width left
    let used : Nat := (line.map List.length).foldl (· + ·) 0
    let (line, others) ← match others with
      | long :: more =>
        if s.width < long.length then
          if s.breaksWords then
            if !s.isWhole && 1 ≤ s.width then none
            else
              let n := cutAt s (if s.width < 1 then 1 else s.width - used).toNat long
              some (line ++ [long.take n], long.drop n :: more)
          else if line.isEmpty then some ([long], more)
          else some (line, others)
        else some (line, others)
      | [] => some (line, others)
    let line := match line.reverse with
      | last :: before => if isBlankText last then before.reverse else line
      | [] => []
    if line.isEmpty then lines? s fuel first others
    else
      let rest ← lines? s fuel false others
      some (line.flatten :: rest)

/-- A line wrapped; none if its words cannot be cut at the width. -/
def wrap? (s : Style) (cutsHyphens : Bool) (t : Text) : Option (List Text) :=
  let parts := if cutsHyphens then chunks (t.length + 1) [] t else words (t.length + 1) t
  lines? s (2 * t.length + 2) true parts

end Wrap

end Stencil
