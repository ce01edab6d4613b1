import Stencil.Encoding.Codec
import Stencil.Failure
import Stencil.Path

/-!
# File trees

Directories, regular files and symbolic links as a value, and the way a path leads through them.

## Main definitions

- `FileTree` — the entries by their place below the root, and the working directory
- `FileTree.walk` — where a path leads, symbolic links followed
- `FileTree.read`, `FileTree.write` — the content of a file, and a tree with a file replaced
- `FileTree.Refusal` — the reasons why a file cannot be opened
-/

namespace Stencil

namespace FileTree

/-- What stands at a place. -/
inductive Entry where
  | file (content : Bytes)
  | directory
  | link (target : Text)
  deriving DecidableEq

/-- Why a file cannot be opened. -/
inductive Refusal where
  | missing
  | isDirectory
  | notDirectory
  | tooManyLinks
  | nameTooLong
  | denied
  deriving DecidableEq, Repr

namespace Refusal

def number : Refusal → Nat
  | missing => 2
  | isDirectory => 21
  | notDirectory => 20
  | tooManyLinks => 40
  | nameTooLong => 36
  | denied => 13

def text : Refusal → String
  | missing => "No such file or directory"
  | isDirectory => "Is a directory"
  | notDirectory => "Not a directory"
  | tooManyLinks => "Too many levels of symbolic links"
  | nameTooLong => "File name too long"
  | denied => "Permission denied"

def kind : Refusal → Kind
  | missing => .fileNotFound
  | isDirectory => .isADirectory
  | notDirectory => .notADirectory
  | denied => .permission
  | _ => .os

/-- The failure to open the file of a path. -/
def failure (r : Refusal) (path : Text) : Failure :=
  .ofText r.kind ("[Errno " ++ Text.ofNat r.number ++ "] " ++ r.text ++ ": " ++ path.quoted)

end Refusal

end FileTree

/-- A tree of files. An entry's place is the list of names that leads to it from the root; the root
itself is a directory without an entry. -/
structure FileTree where
  entries : List (List Text × FileTree.Entry) := []
  workingDirectory : Text := "/"

namespace FileTree

def find? (t : FileTree) (place : List Text) : Option Entry :=
  if place.isEmpty then some .directory else t.entries.lookup place

/-- Put an entry at a place, in place of anything already there. -/
def put (t : FileTree) (place : List Text) (e : Entry) : FileTree :=
  { t with entries := t.entries.filter (·.1 != place) ++ [(place, e)] }

/-- The longest name of one entry, in bytes. -/
def nameLimit : Nat := 255

def nameBytes (name : Text) : Nat :=
  (name.map fun c => (Codec.utf8Bytes c).length).foldl (· + ·) 0

/-- How many symbolic links one path may go through. -/
def linkLimit : Nat := 40

/-- The longest path, in bytes. -/
def pathLimit : Nat := 4095

/-- The names that lead along the target of a link. Dots stay, and an empty name at the end says that
a directory is meant. -/
def linkNames (target : Text) : List Text :=
  (Text.splitOn [Path.slash] target).filter (!·.isEmpty) ++
    if target.getLast? = some Path.slash then [[]] else []

/-- Where names lead from a directory. The result is a place with its entry, or a place without one
in an existing directory. If the file is to be made unless it is there, a directory must not be
meant. -/
def walk (t : FileTree) (creating : Bool) (links : Nat) (here : List Text) (names : List Text) :
    Except Refusal (List Text × Option Entry) :=
  match names with
  | [] => .ok (here, t.find? here)
  | name :: rest =>
    if name.isEmpty ∨ name = [46] then walk t creating links here rest
    else if name = Path.parent then walk t creating links here.dropLast rest
    else if nameLimit < nameBytes name then .error .nameTooLong
    else
      let place := here ++ [name]
      let refuse (r : Refusal) : Except Refusal (List Text × Option Entry) :=
        .error (if creating && rest == [[]] then .isDirectory else r)
      match t.find? place with
      | none => if rest.isEmpty then .ok (place, none) else refuse .missing
      | some (.file content) =>
        if rest.isEmpty then .ok (place, some (.file content)) else refuse .notDirectory
      | some .directory => walk t creating links place rest
      | some (.link target) =>
        match links with
        | 0 => .error .tooManyLinks
        | links + 1 =>
          if target.isEmpty then .error .missing
          else walk t creating links (if Path.isAbsolute target then [] else here)
            (linkNames target ++ rest)
termination_by (links, names.length)

/-- Where a path leads, relative to the working directory. -/
def locate (t : FileTree) (creating : Bool) (path : Text) :
    Except Refusal (List Text × Option Entry) :=
  if pathLimit < nameBytes path then .error .nameTooLong
  else t.walk creating linkLimit [] (Path.parts
    (if Path.isAbsolute path then path else Path.join t.workingDirectory path))

/-- The content of the regular file that a path leads to. -/
def read (t : FileTree) (path : Text) : Except Refusal Bytes := do
  match ← t.locate false path with
  | (_, some (.file content)) => .ok content
  | (_, some .directory) => .error .isDirectory
  | (_, some (.link _)) => .error .tooManyLinks
  | (_, none) => .error .missing

/-- The tree after a file has been written: an existing file is replaced, a new one is made in an
existing directory. -/
def write (t : FileTree) (path : Text) (content : Bytes) : Except Refusal FileTree := do
  match ← t.locate true path with
  | (_, some .directory) => .error .isDirectory
  | (place, _) => .ok (t.put place (.file content))

/-- The tree after a file has been opened for appending. -/
def touch (t : FileTree) (path : Text) : Except Refusal FileTree := do
  match ← t.locate true path with
  | (_, some .directory) => .error .isDirectory
  | (place, none) => .ok (t.put place (.file []))
  | (_, some _) => .ok t

/-- Make the directory of some names, and those above it, as far as they are not there. -/
def makeDirectory (t : FileTree) (names : List Text) : FileTree :=
  ((List.range (names.length + 1)).map names.take).foldl (fun t above =>
    match t.walk false linkLimit [] above with
    | .ok (place, none) => t.put place .directory
    | _ => t) t

/-- Put an entry where names lead, and make the directories above it. Files are written through links.
-/
def plant (t : FileTree) (names : List Text) (e : Entry) : FileTree :=
  match e with
  | .directory => t.makeDirectory names
  | e =>
    let t := t.makeDirectory names.dropLast
    let direct : FileTree := match t.walk false linkLimit [] names.dropLast, names.getLast? with
      | .ok (place, some .directory), some name => t.put (place ++ [name]) e
      | _, _ => t
    match e, t.walk true linkLimit [] names with
    | .file _, .ok (_, some .directory) => t
    | .file _, .ok (place, _) => t.put place e
    | .file _, .error _ => t
    | _, _ => direct

/-- The tree without the entry at the path itself; a link there is not followed. -/
def remove (t : FileTree) (path : Text) : FileTree :=
  let names := Path.parts
    (if Path.isAbsolute path then path else Path.join t.workingDirectory path)
  match t.walk false linkLimit [] names.dropLast with
  | .ok (place, _) =>
    match names.getLast? with
    | some name => { t with entries := t.entries.filter (·.1 != place ++ [name]) }
    | none => t
  | .error _ => t

end FileTree

end Stencil
