import Stencil.Encoding.Name
import Stencil.Storage.FileTree

/-!
# Template sources in files

Reading template sources from a file tree, with every refusal classified.

## Main definitions

- `LocalStorage.resolve` — the path a template is read from
- `LocalStorage.read` — its bytes, or the storage problem with the refusal as its cause
-/

namespace Stencil

namespace LocalStorage

/-- The file form of a path, relative to a base directory if there is one. -/
def resolve (base : Option Text) (path : Text) : Text :=
  match base with
  | some base => Path.fileForm (Path.join (Path.fileForm base) (Path.fileForm path))
  | none => Path.fileForm path

/-- A file that is not there, or is a directory, is a template that is not there; any other refusal
is a failure to read. -/
def classify (r : FileTree.Refusal) (path : Text) : Failure :=
  let problem : Problem := match r with
    | .missing =>
      { kind := .notFound, text := some ("Template not found: " ++ path), path := some path }
    | .isDirectory =>
      { kind := .notFound, text := some ("Template path is a directory: " ++ path),
        path := some path }
    | r =>
      { kind := .storage, text := some ("Unable to read template " ++ path ++ ": " ++ r.text),
        path := some path }
  .because problem (r.failure path)

/-- The failure of a path that no file can have: one that has no bytes, or one with a NUL. -/
def unusable? (path : Text) : Option Failure :=
  match Codec.encode .utf8 .loneBytes path with
  | .error fault => some (Encoding.encodeFailure .utf8 path fault)
  | .ok _ => if path.contains 0 then some (.ofText .badValue "embedded null byte") else none

/-- The file that a path is read from, if a file can have such a path. -/
def file (base : Option Text) (path : Text) : Except Failure Text :=
  let file := resolve base path
  match unusable? file with
  | some failure => .error failure
  | none => .ok file

/-- The answer to a read of a file, with a refusal classified. -/
def answer (file : Text) (content : Except FileTree.Refusal Bytes) : Except Failure Bytes :=
  content.mapError fun r => classify r file

/-- Read the file of a path. -/
def read (tree : FileTree) (base : Option Text) (path : Text) : Except Failure Bytes := do
  let file ← file base path
  answer file (tree.read file)

end LocalStorage

end Stencil
