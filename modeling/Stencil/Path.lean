import Stencil.Text.Basic

/-!
# Paths

Paths are texts with `/` between their parts. Two normal forms are in use: the lexical one, which
resolves `..` against the part before it, and the file form, which only drops empty and `.` parts.

## Main definitions

- `Path.join` — a path relative to another one
- `Path.normalize` — the lexical normal form
- `Path.absolute` — the lexical normal form, relative to a working directory
- `Path.fileForm` — the path under which a file is opened and reported
-/

namespace Stencil

namespace Path

def slash : CodePoint := 47

def isAbsolute (p : Text) : Bool :=
  p.head? == some slash

/-- `b` relative to `a`; an absolute `b` stands alone. -/
def join (a b : Text) : Text :=
  if isAbsolute b then b
  else if a.isEmpty || a.getLast? == some slash then a ++ b
  else a ++ slash :: b

/-- The parts of a path that are neither empty nor a single dot. -/
def parts (p : Text) : List Text :=
  (Text.splitOn [slash] p).filter fun part => !part.isEmpty && part != [46]

/-- What stands behind the last slash. -/
def lastPart (p : Text) : Text :=
  (p.reverse.takeWhile (· ≠ slash)).reverse

/-- The slashes an absolute path starts with: two stay two, any other number becomes one. -/
def root (p : Text) : Text :=
  match p with
  | 47 :: 47 :: 47 :: _ => [slash]
  | 47 :: 47 :: _ => [slash, slash]
  | 47 :: _ => [slash]
  | _ => []

def parent : Text := [46, 46]

/-- Resolve the `..` parts against the parts before them, nearest part first in `seen`. At the root
`..` stays at the root. -/
def resolveParents (rooted : Bool) (seen : List Text) : List Text → List Text
  | [] => seen.reverse
  | part :: rest =>
    if part = parent then
      match seen with
      | [] => resolveParents rooted (if rooted then [] else [parent]) rest
      | last :: before =>
        if last = parent then resolveParents rooted (part :: seen) rest
        else resolveParents rooted before rest
    else resolveParents rooted (part :: seen) rest

/-- The lexical normal form of a path. -/
def normalize (p : Text) : Text :=
  let start := root p
  let body := Text.join [slash] (resolveParents (!start.isEmpty) [] (parts p))
  if (start ++ body).isEmpty then [46] else start ++ body

/-- The normal form of a path read from a working directory. -/
def absolute (workingDirectory p : Text) : Text :=
  normalize (if isAbsolute p then p else join workingDirectory p)

/-- The path a file is opened under: empty and `.` parts are dropped and `..` stays. -/
def fileForm (p : Text) : Text :=
  let text := root p ++ Text.join [slash] (parts p)
  if text.isEmpty then [46] else text

end Path

end Stencil
