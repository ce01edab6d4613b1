import Stencil.Encoding.Name
import Stencil.Path

/-!
# Template sources in memory

A map from normalized paths to bytes that counts its reads and can be told to fail.

## Main definitions

- `MemoryStorage` — the stored files, the counts and the failure that reads raise
- `MemoryStorage.countRead`, `MemoryStorage.serve` — the two halves of a read
- `MemoryStorage.Content` — what can be stored, with the bytes that are kept of it
- `MemoryStorage.perform`, `MemoryStorage.run` — what a storage replies to operations, and what it is after
  them

## Design notes

A read is counted when it starts and answered after a pause, so the two halves are separate: what is
stored or removed during the pause decides the answer.
-/

namespace Stencil

/-- Files by normalized path, latest first, with the number of reads of each path. -/
structure MemoryStorage where
  files : List (Text × Bytes) := []
  reads : List (Text × Nat) := []
  /-- The failure that every read raises, if one is set. -/
  failWith : Option Failure := none

namespace MemoryStorage

/-- Store content under a path, in place of anything already there. -/
def add (s : MemoryStorage) (path : Text) (content : Bytes) : MemoryStorage :=
  let key := Path.normalize path
  { s with files := (key, content) :: s.files.filter (·.1 != key) }

/-- Remove the file of a path, and say whether there was one. -/
def remove (s : MemoryStorage) (path : Text) : Bool × MemoryStorage :=
  let key := Path.normalize path
  ((s.files.lookup key).isSome, { s with files := s.files.filter (·.1 != key) })

def readCount (s : MemoryStorage) (path : Text) : Nat :=
  (s.reads.lookup (Path.normalize path)).getD 0

def totalReads (s : MemoryStorage) : Nat :=
  (s.reads.map (·.2)).foldl (· + ·) 0

/-- Add one to the count of a key. -/
def countKey (key : Text) : List (Text × Nat) → List (Text × Nat)
  | [] => [(key, 1)]
  | (k, n) :: rest => if k = key then (k, n + 1) :: rest else (k, n) :: countKey key rest

/-- Count a read at its start. -/
def countRead (s : MemoryStorage) (path : Text) : MemoryStorage :=
  { s with reads := countKey (Path.normalize path) s.reads }

/-- The report of a template that is not there. -/
def notFound (path : Text) : Failure :=
  { problem :=
    { kind := .notFound, text := some ("Template not found: " ++ path), path := some path } }

/-- Answer a read. -/
def serve (s : MemoryStorage) (path : Text) : Except Failure Bytes :=
  match s.failWith with
  | some failure => .error failure
  | none =>
    match s.files.lookup (Path.normalize path) with
    | some content => .ok content
    | none => .error (notFound path)

/-! ### Operations -/

/-- What can be stored under a path. Of a text, its bytes in UTF-8 are kept. -/
inductive Content where
  | bytes (content : Bytes)
  | text (content : Text)

/-- The bytes that are kept of what is to be stored. -/
def Content.encoded : Content → Except Failure Bytes
  | bytes content => .ok content
  | text content =>
    (Codec.encode .utf8 .refuse content).mapError fun fault => Encoding.encodeFailure .utf8 content fault

/-- What a storage can be asked for. A read is two operations: it is counted when it starts, and answered
when it ends. -/
inductive Operation where
  | add (path : Text) (content : Content)
  | remove (path : Text)
  | failing (failure : Option Failure)
  | startRead (path : Text)
  | endRead (path : Text)
  | readCount (path : Text)
  | totalReads

/-- What a storage replies to an operation. -/
inductive Reply where
  | nothing
  | found (there : Bool)
  | content (bytes : Bytes)
  | count (n : Nat)
  deriving DecidableEq

/-- The reply to an operation, and the storage after it. -/
def perform (s : MemoryStorage) : Operation → Except Failure Reply × MemoryStorage
  | .add path content =>
    match content.encoded with
    | .ok bytes => (.ok .nothing, s.add path bytes)
    | .error failure => (.error failure, s)
  | .remove path => (.ok (.found (s.remove path).1), (s.remove path).2)
  | .failing failure => (.ok .nothing, { s with failWith := failure })
  | .startRead path => (.ok .nothing, s.countRead path)
  | .endRead path => ((s.serve path).map .content, s)
  | .readCount path => (.ok (.count (s.readCount path)), s)
  | .totalReads => (.ok (.count s.totalReads), s)

/-- A storage after operations. -/
def run (s : MemoryStorage) (operations : List Operation) : MemoryStorage :=
  operations.foldl (fun s operation => (s.perform operation).2) s

/-- A storage with some files from the start. A later entry takes the place of an earlier one of the same
file. -/
def ofEntries (entries : List (Text × Content)) : Except Failure MemoryStorage :=
  entries.foldlM (fun s (path, content) => content.encoded.map (s.add path)) {}

/-- The normalized paths of the stored files in ascending order. -/
def paths (s : MemoryStorage) : List Text :=
  (s.files.map (·.1)).mergeSort fun a b => Text.compare a b != .gt

end MemoryStorage

end Stencil
