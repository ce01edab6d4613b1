import Stencil.Settings
import Stencil.Template.Lowering
import Stencil.Template.Parser

/-!
# Compiling templates

From the source of a template to its compiled form. In static mode the executable form is made at once;
in dynamic mode the source is only checked, and the executable form is made whenever the template is
rendered.

## Main definitions

- `Compiler` — the options of a compiler
- `Compiled` — a compiled template
- `Compiler.compile` — check or compile a source, with faults reported as compile problems
- `Compiler.materialize` — the executable form of a compiled template
-/

namespace Stencil

open Template

/-- The options of a compiler. -/
structure Compiler where
  static : Bool := false
  autoEscape : Bool := true
  strictUndefined : Bool := true
  spacing : Spacing := {}
  encoding : Text := "utf-8"
  deriving DecidableEq

/-- A compiled template. Statically compiled ones carry their executable form. -/
structure Compiled where
  name : Text
  source : Text
  static : Bool
  program : Option Program := none

namespace Compiled

def isExecutable (c : Compiled) : Bool :=
  c.program.isSome

/-- Compiled templates are the same if name, source and mode are. -/
def sameAs (a b : Compiled) : Bool :=
  a.name == b.name && a.source == b.source && a.static == b.static

end Compiled

namespace Compiler

/-- The compiler of templating settings. -/
def ofSettings (s : TemplatingSettings) : Compiler where
  static := s.staticallyCompile
  autoEscape := s.autoEscape
  strictUndefined := s.strictUndefined
  spacing := {
    trimBlocks := s.trimBlocks
    lstripBlocks := s.lstripBlocks
    keepTrailingNewline := s.keepTrailingNewline }
  encoding := s.encoding

def switches (c : Compiler) : Switches where
  strict := c.strictUndefined
  autoescape := .bool c.autoEscape

/-- The executable form of a source. -/
def program (c : Compiler) (name source : Text) : Except Fault Program := do
  Program.ofStatements c.switches name (← parse c.spacing source)

/-- The compile problem that a fault is reported as. Faults in the text of the template have a line. -/
def problem (name : Text) (f : Fault) : Problem :=
  if f.kind.isTemplateText then
    { kind := .compile, text := some ("Syntax error: " ++ f.message), template := some name,
      line := some f.line }
  else
    { kind := .compile, text := some ("Code generation failed: " ++ f.message),
      template := some name }

/-- Compile a text. -/
def compileText (c : Compiler) (name source : Text) : Except Failure Compiled :=
  let refused (f : Fault) : Failure := .because (problem name f) f.failure
  if c.static then
    match c.program name source with
    | .ok p => .ok { name, source, static := true, program := some p }
    | .error f => .error (refused f)
  else
    match parse c.spacing source with
    | .ok _ => .ok { name, source, static := false }
    | .error f => .error (refused f)

/-- Compile the bytes of a source. -/
def compile (c : Compiler) (name : Text) (source : Bytes) : Except Failure Compiled := do
  match ← Encoding.decode c.encoding .refuse source with
  | .ok text => compileText c name text
  | .error (reason, f) =>
    let text : Text := "Template is not valid " ++ c.encoding ++ ": " ++ reason
    throw (.because { kind := .compile, text := some text, template := some name } f)

/-- The executable form of a compiled template. One compiled dynamically takes the options of the
compiler that executes it. -/
def materialize (c : Compiler) (t : Compiled) : Except Failure Program :=
  match t.program with
  | some p => .ok p
  | none => (c.program t.name t.source).mapError Fault.failure

end Compiler

end Stencil
