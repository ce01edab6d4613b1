import Stencil.Text.Normal.Table

/-!
# Normal forms

The composed compatibility form of a text: texts that only differ in how their characters are encoded
have the same one.

## Main definitions

- `Normal.decompose` — every character taken apart
- `Normal.arrange` — marks in the order of their classes
- `Normal.compose` — characters put together again
- `Normal.form` — the normal form of a text
-/

namespace Stencil

namespace Normal

def hexadecimal (t : Text) : Nat :=
  t.foldl (fun n c => n * 16 + if c ≤ 57 then c - 48 else c - 55) 0

/-- The entries of a table: the first and the last character, and the numbers behind them. -/
def read (table : String) : List (CodePoint × CodePoint × Text) :=
  (Text.splitOn [32] ((Text.ofString table).map fun c => if c = Text.newline then 32 else c)).filterMap
    fun entry => match Text.splitOn [61] entry with
      | [characters, numbers] =>
        let parts := (Text.splitOn [43] numbers).map hexadecimal
        match (Text.splitOn [45] characters).map hexadecimal with
        | [first, last] => some (first, last, parts)
        | [first] => some (first, first, parts)
        | _ => none
      | _ => none

def decompositions : List (CodePoint × CodePoint × Text) :=
  read decompositionTable

def compositions : List (CodePoint × CodePoint × Text) :=
  read compositionTable

def classes : List (CodePoint × CodePoint × Text) :=
  read classTable

/-! ### Syllables -/

/-- The first syllable, the first of each kind of its parts, and how many vowels and last parts there
are; the last part may be left out. -/
def syllableBase : CodePoint := 0xAC00
def leadBase : CodePoint := 0x1100
def vowelBase : CodePoint := 0x1161
def tailBase : CodePoint := 0x11A7
def leadCount : Nat := 19
def vowelCount : Nat := 21
def tailCount : Nat := 28

def isSyllable (c : CodePoint) : Bool :=
  syllableBase ≤ c && c < syllableBase + leadCount * vowelCount * tailCount

/-- The parts of a syllable. -/
def syllableParts (c : CodePoint) : Text :=
  let n := c - syllableBase
  let lead := leadBase + n / (vowelCount * tailCount)
  let vowel := vowelBase + n % (vowelCount * tailCount) / tailCount
  if n % tailCount = 0 then [lead, vowel] else [lead, vowel, tailBase + n % tailCount]

/-- The syllable of two parts, of which the first may be a syllable without a last part. -/
def syllable? (a b : CodePoint) : Option CodePoint :=
  if leadBase ≤ a ∧ a < leadBase + leadCount ∧ vowelBase ≤ b ∧ b < vowelBase + vowelCount then
    some (syllableBase + ((a - leadBase) * vowelCount + (b - vowelBase)) * tailCount)
  else if isSyllable a ∧ (a - syllableBase) % tailCount = 0 ∧ tailBase < b ∧ b < tailBase + tailCount then
    some (a + (b - tailBase))
  else none

/-! ### The form -/

/-- A character taken apart. -/
def partsOf (c : CodePoint) : Text :=
  if c < 0x80 then [c]
  else if isSyllable c then syllableParts c
  else match decompositions.find? fun (first, last, _) => first ≤ c && c ≤ last with
    | some (first, _, [target]) => [target + (c - first)]
    | some (_, _, parts) => parts
    | none => [c]

/-- Every character taken apart. -/
def decompose (t : Text) : Text :=
  t.flatMap partsOf

/-- The combining class of a character; zero if it starts anew. -/
def classOf (c : CodePoint) : Nat :=
  if c < 0x300 then 0
  else match classes.find? fun (first, last, _) => first ≤ c && c ≤ last with
    | some (_, _, parts) => parts.headD 0
    | none => 0

/-- Put a character behind marks that are in order, before those of higher class. The marks are in
reverse. -/
def place (c : CodePoint) (k : Nat) : List (CodePoint × Nat) → List (CodePoint × Nat)
  | [] => [(c, k)]
  | (d, j) :: before =>
    if k ≠ 0 ∧ k < j then (d, j) :: place c k before else (c, k) :: (d, j) :: before

/-- Characters with their classes, marks in the order of their classes. -/
def arrange (t : Text) : List (CodePoint × Nat) :=
  (t.foldl (fun done c => place c (classOf c) done) []).reverse

/-- The character that two characters make up. -/
def pair? (a b : CodePoint) : Option CodePoint :=
  match syllable? a b with
  | some c => some c
  | none => (compositions.find? fun (_, _, parts) => parts == [a, b]).map (·.1)

/-- Put characters together. `starter` is the last character that started anew, `marks` are those behind
it that stayed, in reverse. -/
def compose (starter : Option CodePoint) (marks : List (CodePoint × Nat)) :
    List (CodePoint × Nat) → Text
  | [] => starter.toList ++ (marks.reverse.map (·.1))
  | (c, k) :: rest =>
    let blocked : Bool := match marks with
      | (_, j) :: _ => k ≤ j
      | [] => false
    let joined := match starter with
      | some s => if blocked then none else pair? s c
      | none => none
    match joined with
    | some both => compose (some both) marks rest
    | none =>
      if k = 0 then starter.toList ++ (marks.reverse.map (·.1) ++ compose (some c) [] rest)
      else compose starter ((c, k) :: marks) rest

/-- The normal form. -/
def form (t : Text) : Text :=
  if t.isAscii then t else compose none [] (arrange (decompose t))

end Normal

end Stencil
