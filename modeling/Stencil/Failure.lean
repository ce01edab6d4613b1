import Stencil.Text.Quoted

/-!
# Failures

What can go wrong, as data: a problem has a kind and a text, and a template problem also says which
template, line or storage path it is about. A failure is a problem with the chain of problems that
caused it, nearest first.

## Main definitions

- `Kind` — the kinds of problem, with `Kind.name` and `Kind.home`
- `Problem` and `Problem.message` — one problem and the text it is reported with
- `Failure` — a problem with its causes
- `Raised` — a failure that is not of the template family
- `Failure.report` — the chain as a stack trace shows it, the first cause first
-/

namespace Stencil

/-- The kinds of problem. -/
inductive Kind where
  /-- The root of this library's own kinds. -/
  | own
  | configuration
  /-- The root of the template family. -/
  | template
  | storage
  | notFound
  | compile
  | render
  | exception
  | badValue
  | missingKey
  | badIndex
  | wrongType
  | missingAttribute
  | unknownName
  | assertion
  | runtime
  | recursion
  | zeroDivision
  | overflow
  | memory
  | os
  | fileNotFound
  | isADirectory
  | notADirectory
  | permission
  | lookup
  | decoding
  | encoding
  | json
  | source
  | indentation
  | cancelled
  /-- A fault in the text of a template. -/
  | templateText
  /-- A fault in a template that its grammar allows. -/
  | templateMeaning
  /-- A fault of a running template. -/
  | templateRun
  | undefinedUse
  | templatesMissing
  | filterArgument
  deriving DecidableEq, Repr, Inhabited

namespace Kind

def name : Kind → String
  | own => "TemplarError"
  | configuration => "ConfigurationError"
  | template => "TemplateError"
  | storage => "StorageError"
  | notFound => "TemplateNotFoundError"
  | compile => "CompileError"
  | render => "RenderError"
  | exception => "Exception"
  | badValue => "ValueError"
  | missingKey => "KeyError"
  | badIndex => "IndexError"
  | wrongType => "TypeError"
  | missingAttribute => "AttributeError"
  | unknownName => "NameError"
  | assertion => "AssertionError"
  | runtime => "RuntimeError"
  | recursion => "RecursionError"
  | zeroDivision => "ZeroDivisionError"
  | overflow => "OverflowError"
  | memory => "MemoryError"
  | os => "OSError"
  | fileNotFound => "FileNotFoundError"
  | isADirectory => "IsADirectoryError"
  | notADirectory => "NotADirectoryError"
  | permission => "PermissionError"
  | lookup => "LookupError"
  | decoding => "UnicodeDecodeError"
  | encoding => "UnicodeEncodeError"
  | json => "JSONDecodeError"
  | source => "SyntaxError"
  | indentation => "IndentationError"
  | cancelled => "CancelledError"
  | templateText => "TemplateSyntaxError"
  | templateMeaning => "TemplateAssertionError"
  | templateRun => "TemplateRuntimeError"
  | undefinedUse => "UndefinedError"
  | templatesMissing => "TemplatesNotFound"
  | filterArgument => "FilterArgumentError"

def ofName? (s : String) : Option Kind :=
  [own, configuration, template, storage, notFound, compile, render, exception, badValue, missingKey, runtime,
    zeroDivision, os, lookup, cancelled].find? fun k => k.name == s

/-- Storage problems: a template that is not there, and any other failure to read one. -/
def isStorage : Kind → Bool
  | storage | notFound => true
  | _ => false

/-- The family of template problems, which say what template they are about. -/
def isTemplate : Kind → Bool
  | template | storage | notFound | compile | render => true
  | _ => false

/-- What a running template itself can fail with: no problem of the template family, and no
cancellation. -/
def isForeign : Kind → Bool
  | template | storage | notFound | compile | render | cancelled => false
  | _ => true

theorem isTemplate_of_isForeign {k : Kind} (foreign : k.isForeign = true) : k.isTemplate = false := by
  cases k <;> first | rfl | cases foreign

theorem ne_cancelled_of_isForeign {k : Kind} (foreign : k.isForeign = true) : k ≠ cancelled := by
  rintro rfl
  cases foreign

/-- The problems that the template language itself reports when it reads a template. -/
def isTemplateText : Kind → Bool
  | templateText | templateMeaning => true
  | _ => false

/-- The namespace that a qualified kind name starts with. -/
def home : Kind → String
  | own | configuration | template | storage | notFound | compile | render => "templar.exceptions"
  | cancelled => "asyncio.exceptions"
  | json => "json.decoder"
  | templateText | templateMeaning | templateRun | undefinedUse | templatesMissing
  | filterArgument => "jinja2.exceptions"
  | _ => "builtins"

end Kind

/-- One problem. `text` is what it was made with, if anything; the other fields belong to the
template family. -/
structure Problem where
  kind : Kind
  text : Option Text := none
  template : Option Text := none
  line : Option Int := none
  path : Option Text := none
  deriving DecidableEq, Inhabited

namespace Problem

/-- The place a template problem is about, if both the template and the line are known. An empty
name and line zero are unknown. -/
def place? (p : Problem) : Option (Text × Int) :=
  match p.template, p.line with
  | some t, some l => if t.isEmpty ∨ l = 0 then none else some (t, l)
  | _, _ => none

/-- A problem made from its parts. The key that a missing key problem is made with is quoted. -/
def ofParts (kind : Kind) (text template : Option Text) (line : Option Int) (path : Option Text) :
    Problem where
  kind
  text := if kind = .missingKey then text.map Text.quoted else text
  template
  line
  path

/-- The text a problem is reported with. A template problem ends in its place if that is known. -/
def message (p : Problem) : Text :=
  match p.text with
  | none => []
  | some text =>
    if p.kind.isTemplate then
      match p.place? with
      | some (template, line) => text ++ " in " ++ template ++ ":" ++ Text.ofInt line
      | none => text
    else text

def ofText (kind : Kind) (text : Text) : Problem :=
  { kind, text := some text }

/-- Kind and message on one line of a stack trace. -/
def traceLine (p : Problem) : Text :=
  let kind : Text :=
    if p.kind.home = "builtins" then p.kind.name else p.kind.home ++ "." ++ p.kind.name
  if p.message.isEmpty then kind ++ "\n" else kind ++ ": " ++ p.message ++ "\n"

end Problem

/-- A problem with the chain of problems that caused it, nearest first. -/
structure Failure where
  problem : Problem
  causes : List Problem := []
  deriving DecidableEq, Inhabited

namespace Failure

def ofText (kind : Kind) (text : Text) : Failure :=
  { problem := .ofText kind text }

def kind (f : Failure) : Kind :=
  f.problem.kind

def message (f : Failure) : Text :=
  f.problem.message

/-- A problem raised because of another failure. -/
def because (p : Problem) (f : Failure) : Failure :=
  { problem := p, causes := f.problem :: f.causes }

/-- The kind of the nearest cause. -/
def cause? (f : Failure) : Option Kind :=
  f.causes.head?.map (·.kind)

/-- What the one who waits for cancelled work is told. -/
def cancelled : Failure :=
  { problem := { kind := .cancelled } }

/-- All problems of the chain, the first cause first, as a stack trace without frames. -/
def report (f : Failure) : Text :=
  Text.join "\nThe above exception was the direct cause of the following exception:\n\n"
    ((f.problem :: f.causes).reverse.map Problem.traceLine)

end Failure

/-- A failure that is neither of the template family nor a cancellation. Templates raise no others: the
family is for what is reported about templates, and it is the request that is cancelled. -/
structure Raised where
  failure : Failure
  foreign : failure.kind.isForeign = true
  deriving DecidableEq

namespace Raised

instance : Inhabited Raised := ⟨default, rfl⟩

def ofText (kind : Kind) (text : Text)
    (foreign : kind.isForeign = true := by exact Eq.refl true) : Raised :=
  ⟨.ofText kind text, foreign⟩

def kind (r : Raised) : Kind :=
  r.failure.kind

def message (r : Raised) : Text :=
  r.failure.message

/-- A failure that is raised because of another one. -/
def because (r cause : Raised) : Raised :=
  ⟨.because r.failure.problem cause.failure, r.foreign⟩

/-- A result that is known to fail only as a running template can. -/
def except {α : Type} : (result : Except Failure α) →
    (∀ f, result = .error f → f.kind.isForeign = true) → Except Raised α
  | .ok a, _ => .ok a
  | .error f, foreign => .error ⟨f, foreign f rfl⟩

end Raised

end Stencil
