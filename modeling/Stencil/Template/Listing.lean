import Stencil.Template.Fault

/-!
# Listings

What runs an executable template reads it as a listing, line by line, and refuses a listing that is
nested too deeply or contradicts itself. The lines themselves are not kept: to tell what is refused and
where, it is enough to count them while they are written.

## Main definitions

- `Listing` — how far a listing has been written, and what was found wrong with it
- `Listing.breakLine`, `Listing.write`, `Listing.lines` — writing
- `Listing.open`, `Listing.enclose` — brackets, loops and other constructs that nest
- `Listing.defect?` — the defect that is reported
-/

namespace Stencil

namespace Template

/-- How far a listing has been written. -/
structure Listing where
  /-- The number of the line that was written last. -/
  line : Nat := 0
  /-- The line breaks in front of what is written next. -/
  owed : Nat := 1
  /-- How far the lines are indented. -/
  indentation : Nat := 0
  /-- How many loops and attempts of the current function are around. -/
  enclosing : Nat := 0
  /-- How many names were made up. -/
  names : Nat := 0
  /-- What is wrong, with lines, latest first. -/
  defects : List (Defect × Nat) := []
  deriving Inhabited

namespace Listing

def indentationLimit : Nat := 99
def bracketLimit : Nat := 200
def enclosingLimit : Nat := 20

/-- Note that something is wrong on the current line. -/
def note (l : Listing) (d : Defect) : Listing :=
  { l with defects := (d, l.line) :: l.defects }

/-- Let what comes next start a new line, behind as many blank ones. -/
def breakLine (l : Listing) (blank : Nat := 0) : Listing :=
  { l with owed := max l.owed (blank + 1) }

/-- Write a part of a line that goes on inside brackets. -/
def goOn (l : Listing) : Listing :=
  { l with line := l.line + l.owed, owed := 0 }

/-- Write the beginning of a line. -/
def write (l : Listing) : Listing :=
  let l := l.goOn
  if indentationLimit < l.indentation then l.note .indentation else l

/-- Write so many lines. -/
def lines (l : Listing) : Nat → Listing
  | 0 => l
  | n + 1 => (l.breakLine.write).lines n

def indent (l : Listing) : Listing :=
  { l with indentation := l.indentation + 1 }

def outdent (l : Listing) : Listing :=
  { l with indentation := l.indentation - 1 }

/-- Reach a depth of brackets. -/
def reach (l : Listing) (brackets : Nat) : Listing :=
  if bracketLimit < brackets then l.note .brackets else l

/-- Begin a loop or an attempt on the current line. -/
def enclose (l : Listing) : Listing :=
  let l := { l with enclosing := l.enclosing + 1 }
  if enclosingLimit < l.enclosing then l.note .enclosure else l

def leave (l : Listing) : Listing :=
  { l with enclosing := l.enclosing - 1 }

/-- Make up a name. -/
def makeName (l : Listing) : Listing :=
  { l with names := l.names + 1 }

/-- The defect that is reported: of those that are found first, the one that stands first. -/
def defect? (l : Listing) : Option (Defect × Nat) :=
  let found := l.defects.reverse
  (List.range (Defect.stages)).findSome? fun stage => found.find? fun (d, _) => d.stage = stage

end Listing

end Template

end Stencil
