import Stencil.Compiler
import Stencil.ErrorPage
import Stencil.Routine

/-!
# The render pipeline

A request looks its template up in the cache, reads and compiles it on a miss, and runs it against a
model. Templates may render other templates, which go through the same steps.

## Main definitions

- `Pipeline` — what the pipeline of a service is set up with
- `Pipeline.resolve` — the compiled template of a name
- `Pipeline.execute` — the output of a compiled template, nested templates included
- `Pipeline.renderFile`, `Pipeline.renderPage` — whole requests

## Design notes

Nested templates run on the machine of the template that asks for them, since both can reach the same
values. A helper can be handed on like any other value, so a template may render others by the helper of
another one. `execute` recurses on the number of templates that there is still room for.
-/

namespace Stencil

open Template

structure Pipeline where
  compiler : Compiler := {}
  templateDir : Text
  /-- The encoding of output. -/
  encoding : Text := "utf-8"
  /-- How deep templates may render each other. -/
  maxDepth : Int := 32
  singleFlight : Bool := false
  pageSource : Text := ErrorPage.source

namespace Pipeline

abbrev Request := Routine Compiled

/-- The pipeline of a service with the given settings. -/
def ofSettings (workingDirectory : Text) (s : Settings) (pageSource : Option Text) : Pipeline where
  compiler := .ofSettings s.templating
  templateDir := s.templateDir workingDirectory
  encoding := s.templating.encoding
  maxDepth := s.templating.maxRenderDepth
  singleFlight := s.templating.singleFlight
  pageSource := pageSource.getD ErrorPage.source

def templatePath (p : Pipeline) (name : Text) : Text :=
  Path.join p.templateDir name

/-! ### Finding templates -/

/-- Read, compile and keep a template. -/
def load (p : Pipeline) (name path : Text) : Request Compiled := do
  Routine.note (.fetching name path)
  Routine.count .fetch
  let source ← Routine.read path fun r => .finish r
  let compiled ← Routine.ofExcept (p.compiler.compile name source)
  Routine.note (.compiled name compiled.static)
  Routine.count .compile
  Routine.perform (.keep name compiled)
  pure compiled

/-- The compiled template of a name that is stored at a path. -/
def resolveAt (p : Pipeline) (name path : Text) : Request Compiled :=
  .lookup name fun
    | some compiled => do
      Routine.count .hit
      pure compiled
    | none => do
      Routine.count .miss
      if p.singleFlight then .share name path fun r => .finish r else p.load name path

/-- The compiled template of a name. -/
def resolve (p : Pipeline) (name : Text) : Request Compiled :=
  p.resolveAt name (p.templatePath name)

/-! ### Running templates -/

/-- A computation of a template on a machine, as a part of a request. -/
def onMachine {α : Type} (x : Exec α) (m : Machine) : Request (α × Machine) :=
  match x m with
  | .done (.ok a) m => pure (a, m)
  | .done (.error f) _ => .fail f.failure
  | .nested .. => .fail (.ofText .runtime "another template was asked for out of turn")

/-- The function that renders other templates as one template was given it: it knows the entries of that
template's model, and the names of the templates around it with its own. -/
structure Helper where
  model : List (Value × Value)
  chain : List Text
  deriving Inhabited

/-- What the templates of a request share: the machine, and the helpers that were given out so far. -/
structure Stage where
  machine : Machine
  helpers : List Helper := []

/-- Run a computation whose requests for other templates are answered by `answer`. -/
def follow {α : Type} (answer : HelperCall → Stage → Request (Value × Stage)) (helpers : List Helper) :
    Step α → Request (α × Stage)
  | .done (.ok a) m => pure (a, ⟨m, helpers⟩)
  | .done (.error f) _ => .fail f.failure
  | .nested call m resume =>
    (answer call ⟨m, helpers⟩).bind fun (v, s) => follow answer s.helpers (resume v s.machine)

/-- Problems with a template are reported as they are; any other failure of a running template, except
that it was cancelled, becomes a render problem. -/
def classify (template : Text) (f : Failure) : Failure :=
  if f.kind.isTemplate ∨ f.kind = .cancelled then f
  else
    .because { kind := .render, text := some ("Error rendering template: " ++ f.message),
               template := some template } f

/-- The name under which templates find the function that renders other templates. -/
def helperName : Text := "render"

/-- The variables of a template: its model, and the function that renders other templates. -/
def variablesOf (entries : List (Value × Value)) (helper : Nat) : Except Failure (List (Text × Value)) := do
  let named ← entries.mapM fun (k, v) =>
    match k.asText? with
    | some n => .ok (n, v)
    | none => .error (.ofText .wrongType "keywords must be strings")
  pure (named.filter (·.1 != helperName) ++ [(helperName, .render helper)])

/-- Why a value is no name of a template. -/
def refusedName (name : Value) : Exec Failure :=
  match name with
  | .bytes .. => pure (.ofText .wrongType "Can't mix strings and bytes in path components")
  | v => do
    pure (.ofText .wrongType ("join() argument must be str, bytes, or os.PathLike object, not '" ++
      (← Exec.typeName v) ++ "'"))

/-- The compiled template of a nested name. A safe name makes the path a safe text, in which the
directory is escaped. A value that is no text is looked up in the cache too, before it is refused. -/
def resolveValue (p : Pipeline) (name : Value) (m : Machine) : Request (Compiled × Machine) :=
  match name with
  | .str t _ => do pure (← p.resolve t, m)
  | .safe t _ => do
    let path := if Path.isAbsolute t then t else Path.join (Markup.escape p.templateDir) t
    pure (← p.resolveAt t path, m)
  | v => do
    let (shown, m) ← onMachine (do
      Exec.onHeap fun h => Value.hashable h v
      Exec.text v) m
    Routine.perform (.miss shown)
    Routine.count .miss
    let (refused, _) ← onMachine (refusedName v) m
    .fail refused

/-- The text of the names of a chain, each rendered by the one before it. -/
def chainText (chain : List Text) (last : Value) : Exec Text := do
  match last.asText? with
  | some t => pure (Text.join " -> " (chain ++ [t]))
  | none =>
    Exec.typeError ("sequence item " ++ Text.ofNat chain.length ++ ": expected str instance, " ++
      (← Exec.typeName last) ++ " found")

/-- A nested template that cannot be resolved is a render problem of the template that asks for it. -/
def nestedFailure (name : Text) (outer : Text) (f : Failure) : Failure :=
  if f.kind.isStorage ∨ f.kind = .compile then
    .because {
      kind := .render
      text := some ("Unable to resolve nested template '" ++ name ++ "' from '" ++ outer ++ "': " ++
        f.message)
      template := some name } f
  else f

/-- The entries of a nested template's model: those of the given model, or else those that the
enclosing template started with, overridden by the given values. -/
def nestedModel (parent : List (Value × Value)) (call : HelperCall) : Exec (List (Value × Value)) := do
  let base ← match call.model with
    | .none => pure parent
    | v => entriesOf standardEngine v
  let es ← Exec.onHeap fun h => Entries.insertAll h #[] base
  let es ← Exec.onHeap fun h => Entries.insertAll h es (call.values.map fun (n, v) => (.str n, v))
  pure es.toList

/-- A call of a helper whose template is already as deep as templates may nest. -/
def refuseCall {α : Type} (p : Pipeline) (helper : Helper) (call : HelperCall) (m : Machine) :
    Request α := do
  let (names, _) ← onMachine (chainText helper.chain call.name) m
  .fail { problem := {
    kind := .render
    text := some ("Maximum template nesting depth " ++ Text.ofInt p.maxDepth ++ " exceeded: " ++ names)
    template := call.name.asText? } }

/-- The template that a helper is called for, with a helper of its own. -/
def prepare (p : Pipeline) (helper : Helper) (call : HelperCall) (m : Machine) :
    Request ((Compiled × Helper) × Machine) := do
  let name := call.name.asText?.getD []
  let (compiled, m) ← (p.resolveValue call.name m).handle fun f =>
    .fail (nestedFailure name (helper.chain.getLastD []) f)
  let (entries, m) ← onMachine (nestedModel helper.model call) m
  pure ((compiled, ⟨entries, helper.chain ++ [name]⟩), m)

/-- Render another template by the helper that is called for it. How deep it may nest is told by the
template that the helper was given to, whichever template calls it. -/
def nested (p : Pipeline) (run : Compiled → Helper → Stage → Request (Text × Stage)) (call : HelperCall)
    (s : Stage) : Request (Value × Stage) :=
  let helper := s.helpers.getD call.helper default
  if p.maxDepth ≤ helper.chain.length then p.refuseCall helper call s.machine
  else do
    let ((compiled, own), m) ← p.prepare helper call s.machine
    let (output, s) ← run compiled own { s with machine := m }
    pure (.safe output, s)

/-- Run a compiled template that is given a helper of its own. Templates that it nests are run by
`run`. -/
def executeWith (p : Pipeline) (run : Compiled → Helper → Stage → Request (Text × Stage))
    (compiled : Compiled) (own : Helper) (s : Stage) : Request (Text × Stage) :=
  (do
    Routine.perform (.run compiled)
    let program ← Routine.ofExcept (p.compiler.materialize compiled)
    let given ← Routine.ofExcept (variablesOf own.model s.helpers.length)
    follow (p.nested run) (s.helpers ++ [own]) (program.render given s.machine)).handle fun f =>
      .fail (classify compiled.name f)

/-- The output of a compiled template that is given a helper of its own. There is `room` for so many
templates under way at once. -/
def execute (p : Pipeline) : Nat → Compiled → Helper → Stage → Request (Text × Stage)
  | 0 => fun compiled _ _ => do
    Routine.perform (.run compiled)
    .fail (classify compiled.name (.ofText .recursion "maximum recursion depth exceeded"))
  | room + 1 => p.executeWith (p.execute room)

/-- How many templates may be under way at once. Where each is nested by the helper of the one around it,
their depth ends them before. -/
def room (p : Pipeline) : Nat :=
  p.maxDepth.toNat + 150

/-! ### Requests -/

/-- A model that counts as false is no model. -/
def givenModel : Option Model → Model
  | none | some .none | some (.bool false) | some (.str []) | some (.safe []) | some (.bytes [])
  | some (.list []) | some (.tuple []) => .dict []
  | some (.int 0) => .dict []
  | some (.float x) => if x == 0.0 then .dict [] else .float x
  | some m => m

/-- Render a compiled template to bytes. -/
def render (p : Pipeline) (replacement : Replacement) (compiled : Compiled)
    (model : Option Model) : Request Bytes := do
  let start : Machine := { strict := p.compiler.strictUndefined }
  let (entries, m) ← onMachine (do
    let v ← Value.ofModel (givenModel model)
    let base ← entriesOf standardEngine v
    let es ← Exec.onHeap fun h => Entries.insertAll h #[] base
    pure es.toList) start
  let (output, _) ← p.execute p.room compiled ⟨entries, [compiled.name]⟩ { machine := m }
  Routine.count .render
  match Encoding.encode p.encoding replacement output with
  | .ok (.ok bytes) => pure bytes
  | .ok (.error (reason, f)) =>
    let text : Text := "Output cannot be encoded as " ++ p.encoding ++ ": " ++ reason
    .fail (.because { kind := .render, text := some text, template := some compiled.name } f)
  | .error f => .fail f

/-- Count a failure of the template family and report it. -/
def reported {α : Type} (r : Request α) (storage other : Failure → Notice) : Request α :=
  r.handle fun f =>
    if f.kind.isStorage then do
      Routine.count (.failure f.kind)
      Routine.note (storage f)
      .fail f
    else if f.kind.isTemplate then do
      Routine.count (.failure f.kind)
      Routine.note (other f)
      .fail f
    else .fail f

/-- Render the template of a name. -/
def renderFile (p : Pipeline) (name : Text) (model : Option Model) : Request Bytes :=
  reported (do
    let compiled ← p.resolve name
    Routine.note (.rendering compiled.name)
    p.render .refuse compiled model) (.loadFailed name) (.renderFailed name)

/-- Render the error page. It is compiled anew each time, and what the encoding does not have is
written as character references. -/
def renderPage (p : Pipeline) (model : Option Model) : Request Bytes :=
  reported (do
    let compiled ← Routine.ofExcept (p.compiler.compileText ErrorPage.name p.pageSource)
    Routine.note (.compiled compiled.name compiled.static)
    Routine.note (.rendering compiled.name)
    p.render (Replacement.ofName "xmlcharrefreplace") compiled model) .pageFailed .pageFailed

end Pipeline

end Stencil
