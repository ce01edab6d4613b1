import Stencil.Text.Quoted

/-!
# Flags and commands

The commands of the command line and the flags that each of them knows.

## Main definitions

- `Command` — what the program can be told to do
- `Flag` — the flags, with `Flag.names`, `Flag.takesValue` and `Flag.rival?`
- `Flag.known` — the flags of a command, or of the program itself
-/

namespace Stencil

namespace CommandLine

/-- What the program can be told to do. -/
inductive Command where
  | render
  | error
  deriving DecidableEq, Repr

namespace Command

def name : Command → String
  | render => "render"
  | error => "error"

def all : List Command := [render, error]

def ofName? (name : Text) : Option Command :=
  all.find? fun c => Text.ofString c.name == name

end Command

/-- The flags of the program and its commands. -/
inductive Flag where
  | help
  | debug
  | model
  | modelFile
  | baseDir
  | templatesDir
  | cacheSize
  | static
  | dynamic
  | output
  | message
  deriving DecidableEq, Repr

namespace Flag

/-- The spellings of a flag. -/
def names : Flag → List String
  | help => ["-h", "--help"]
  | debug => ["--debug"]
  | model => ["--model"]
  | modelFile => ["--model-file"]
  | baseDir => ["--base-dir"]
  | templatesDir => ["--templates-dir"]
  | cacheSize => ["--cache-size"]
  | static => ["--static"]
  | dynamic => ["--dynamic"]
  | output => ["--output", "-o"]
  | message => ["--message"]

/-- All spellings together, as reports name the flag. -/
def label (f : Flag) : Text :=
  Text.join "/" (f.names.map fun (s : String) => Text.ofString s)

/-- Whether a flag is followed by a value. -/
def takesValue : Flag → Bool
  | help | debug | static | dynamic => false
  | _ => true

/-- The flag that may not be given together with this one. -/
def rival? : Flag → Option Flag
  | model => some modelFile
  | modelFile => some model
  | static => some dynamic
  | dynamic => some static
  | _ => none

/-- The flags of a command, or of the program itself, in the order in which they are listed. -/
def known : Option Command → List Flag
  | none => [help, debug]
  | some .render =>
    [help, model, modelFile, baseDir, templatesDir, cacheSize, static, dynamic, output]
  | some .error => [help, message, model, modelFile, output]

/-- The spellings that are known, with their flags. -/
def spellings (level : Option Command) : List (Text × Flag) :=
  (known level).flatMap fun f => f.names.map fun (s : String) => (Text.ofString s, f)

end Flag

end CommandLine

end Stencil
