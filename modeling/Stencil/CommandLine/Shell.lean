import Stencil.Logging
import Stencil.Storage.FileTree

/-!
# Dealing with the world

What a program reads and writes, step by step, as data. The same steps can be taken on a file tree,
which is a value, or on real files.

## Main definitions

- `Shell` — the steps of a program up to its end
- `World` — a file tree with all that was written
- `Shell.run` — the steps taken on a world
-/

namespace Stencil

namespace CommandLine

/-- The steps of a program. It ends with a result, or with a failure that nothing has handled. -/
inductive Shell (α : Type) where
  | finish (outcome : Except Failure α)
  | readFile (path : Text) (next : Except FileTree.Refusal Bytes → Shell α)
  | writeFile (path : Text) (content : Bytes) (next : Except FileTree.Refusal Unit → Shell α)
  /-- Open a file for appending. -/
  | openLog (path : Text) (next : Except FileTree.Refusal Unit → Shell α)
  /-- Write to the output. -/
  | print (output : Bytes) (next : Shell α)
  /-- Write to the error stream. -/
  | complain (text : Text) (next : Shell α)
  /-- Write to the log. -/
  | log (c : Logging.Configuration) (r : LogRecord) (next : Shell α)

namespace Shell

variable {α β : Type}

def bind : Shell α → (α → Shell β) → Shell β
  | finish (.ok a), f => f a
  | finish (.error e), _ => finish (.error e)
  | readFile path next, f => readFile path fun r => (next r).bind f
  | writeFile path content next, f => writeFile path content fun r => (next r).bind f
  | openLog path next, f => openLog path fun r => (next r).bind f
  | print output next, f => print output (next.bind f)
  | complain text next, f => complain text (next.bind f)
  | log c r next, f => log c r (next.bind f)

instance : Monad Shell where
  pure a := finish (.ok a)
  bind := bind

def ofExcept (r : Except Failure α) : Shell α :=
  finish r

def fail (f : Failure) : Shell α :=
  finish (.error f)

def read (path : Text) : Shell (Except FileTree.Refusal Bytes) :=
  readFile path fun r => finish (.ok r)

def write (path : Text) (content : Bytes) : Shell (Except FileTree.Refusal Unit) :=
  writeFile path content fun r => finish (.ok r)

def touch (path : Text) : Shell (Except FileTree.Refusal Unit) :=
  openLog path fun r => finish (.ok r)

def put (output : Bytes) : Shell Unit :=
  print output (finish (.ok ()))

/-- Write a line to the error stream. -/
def complainLine (line : Text) : Shell Unit :=
  complain (line ++ [Text.newline]) (finish (.ok ()))

/-- Write those records to the log that pass. -/
def logAll (c : Logging.Configuration) (records : List LogRecord) : Shell Unit :=
  (records.filter (Logging.passes c)).foldr (fun r next => log c r next) (finish (.ok ()))

end Shell

/-- A file tree, and what a program has written beside it. -/
structure World where
  tree : FileTree
  output : Bytes := []
  errors : Text := []
  records : List LogRecord := []

namespace Shell

/-- Take the steps of a program on a world. -/
def run {α : Type} : Shell α → World → Except Failure α × World
  | finish outcome, w => (outcome, w)
  | readFile path next, w => (next (w.tree.read path)).run w
  | writeFile path content next, w =>
    match w.tree.write path content with
    | .ok tree => (next (.ok ())).run { w with tree }
    | .error r => (next (.error r)).run w
  | openLog path next, w =>
    match w.tree.touch path with
    | .ok tree => (next (.ok ())).run { w with tree }
    | .error r => (next (.error r)).run w
  | print output next, w => next.run { w with output := w.output ++ output }
  | complain text next, w => next.run { w with errors := w.errors ++ text }
  | log _ r next, w => next.run { w with records := w.records ++ [r] }

end Shell

end CommandLine

end Stencil
