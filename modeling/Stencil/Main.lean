import Std.Time
import Stencil.CommandLine.Run

/-!
# The program

The command line on real files and streams.

## Main definitions

- `CommandLine.Shell.perform` — the steps of a program, taken for real
- `main` — the program
-/

namespace Stencil

namespace CommandLine

/-- The reason behind an error of the system. -/
def refusalOf : IO.Error → FileTree.Refusal
  | .noFileOrDirectory .. => .missing
  | .permissionDenied .. => .denied
  | .inappropriateType _ 20 _ => .notDirectory
  | .inappropriateType .. => .isDirectory
  | .invalidArgument _ 36 _ => .nameTooLong
  | .invalidArgument _ 40 _ => .tooManyLinks
  | _ => .missing

/-- Try something that the system may refuse. -/
def attempt {α : Type} (action : IO α) : IO (Except FileTree.Refusal α) := do
  try
    pure (.ok (← action))
  catch e => pure (.error (refusalOf e))

/-- The time of day as the log shows it. -/
def timeText : IO Text := do
  let now ← Std.Time.PlainDateTime.now
  pure (Text.ofString (now.format "uuuu-MM-dd HH:mm:ss,SSS"))

def byteArray (b : Bytes) : ByteArray :=
  ⟨b.toArray⟩

/-- Take the steps of a program. -/
def Shell.perform {α : Type} : Shell α → IO (Except Failure α)
  | finish outcome => pure outcome
  | readFile path next => do
    let content ← attempt (IO.FS.readBinFile path.toName)
    (next (content.map fun b => b.toList)).perform
  | writeFile path content next => do
    let written ← attempt (IO.FS.writeBinFile path.toName (byteArray content))
    (next written).perform
  | openLog path next => do
    let opened ← attempt (IO.FS.Handle.mk path.toName .append)
    (next (opened.map fun _ => ())).perform
  | print output next => do
    let stream ← IO.getStdout
    stream.write (byteArray output)
    stream.flush
    next.perform
  | complain text next => do
    (← IO.getStderr).putStr text.toName
    next.perform
  | log c r next => do
    let line := (Logging.line (← timeText) c r).toName
    (← IO.getStderr).putStr line
    match c.file with
    | some path => (← IO.FS.Handle.mk path.toName .append).putStr line
    | none => pure ()
    next.perform

/-- The variables of the environment that settings ask for. -/
def readEnvironment : IO Environment := do
  let found ← Environment.names.mapM fun (name : String) => do
    pure ((← IO.getEnv name).map fun value => (Text.ofString name, Text.ofString value))
  pure (found.filterMap id)

end CommandLine

end Stencil

open Stencil CommandLine in
/-- The program: its arguments are those of the call. -/
def main (arguments : List String) : IO UInt32 := do
  let around : Surroundings := {
    environment := ← readEnvironment
    workingDirectory := Text.ofString (← IO.currentDir).toString }
  let steps := CommandLine.run around (arguments.map fun (s : String) => Text.ofString s)
  match ← steps.perform with
  | .ok code => pure (UInt32.ofNat code.number)
  | .error failure =>
    (← IO.getStderr).putStr failure.report.toName
    pure 1
