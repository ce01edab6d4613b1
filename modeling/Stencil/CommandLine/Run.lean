import Stencil.CommandLine.Arguments
import Stencil.CommandLine.Shell
import Stencil.CommandLine.Usage
import Stencil.Session

/-!
# Running the program

From the arguments of a call to its output and its exit code.

## Main definitions

- `ExitCode` — how a call ends
- `converse` — the steps of a single request that reads real files
- `run` — the steps of a call
-/

namespace Stencil

namespace CommandLine

/-- How a call ends. -/
inductive ExitCode where
  | success
  | notFound
  /-- A fault in a template. Arguments that are refused end with the same number. -/
  | template
  /-- There is nothing to do, or what there is cannot be set up. -/
  | usage
  deriving DecidableEq, Repr

def ExitCode.number : ExitCode → Nat
  | success => 0
  | notFound => 1
  | template => 2
  | usage => 3

/-- What surrounds a call. -/
structure Surroundings where
  environment : Environment
  workingDirectory : Text
  /-- What the log says about the time that a compilation took. -/
  elapsed : Text := "0.00ms"
  /-- How deep a model may be: what the program's own calls leave of the limit to recursion. -/
  modelDepth : Nat := 990

/-! ### Models -/

/-- Line ends of any kind become line feeds. -/
def unifyLineEnds : Text → Text
  | [] => []
  | 13 :: 10 :: rest => Text.newline :: unifyLineEnds rest
  | 13 :: rest => Text.newline :: unifyLineEnds rest
  | c :: rest => c :: unifyLineEnds rest

/-- The model that a JSON text stands for, or what is wrong with it. That it is too deep is a failure
which is not looked for. -/
def parseModel (depth : Nat) (t : Text) : Except Failure (Except Text (List (Text × Model))) :=
  match Json.read (some { digits := 4300, nesting := depth }) t with
  | .error (.tooDeep container) =>
    .error (.ofText .recursion (Json.Fault.message t (.tooDeep container)))
  | .error fault => .ok (.error (fault.message t))
  | .ok j => match Model.ofJson j with
    | .dict entries => .ok (.ok entries)
    | _ => .ok (.error "model must be a JSON object")

/-- The model in the content of a file. -/
def parseModelFile (depth : Nat) (content : Bytes) :
    Except Failure (Except Text (List (Text × Model))) :=
  match Encoding.decode "utf-8" .refuse content with
  | .error f => .ok (.error f.message)
  | .ok (.error (_, f)) => .ok (.error f.message)
  | .ok (.ok t) => parseModel depth (unifyLineEnds t)

/-- The model that the arguments give. Empty arguments count as not given. -/
def loadModel (depth : Nat) (g : Given) : Shell (Except Text (List (Text × Model))) :=
  match g.modelFile.filter (!·.isEmpty), g.model.filter (!·.isEmpty) with
  | some path, _ =>
    match LocalStorage.file none path with
    | .error f => pure (.error f.message)
    | .ok file => do
      match ← Shell.read file with
      | .ok content => Shell.ofExcept (parseModelFile depth content)
      | .error r => pure (.error (r.failure file).message)
  | none, some t => Shell.ofExcept (parseModel depth t)
  | none, none => pure (.ok [])

/-- What is wrong with the arguments of a command. -/
def problems (g : Given) (model : Except Text (List (Text × Model))) : List Text :=
  let modelProblem := match model with
    | .error e => [("Invalid model: " ++ e : Text)]
    | .ok _ => []
  let sizeProblem := match g.cacheSize with
    | some size => if size < 0 then [("--cache-size must be >= 0" : Text)] else []
    | none => []
  modelProblem ++ sizeProblem

/-! ### Services -/

/-- The settings of the environment, with what the arguments override. -/
def settings (env : Environment) (inv : Invocation) : Except Failure Settings := do
  let base ← Settings.ofEnvironment env
  let g := inv.given
  let chosen (t : Option Text) (default : Text) : Text := (t.filter (!·.isEmpty)).getD default
  Settings.validate { base with
    debug := inv.debug || base.debug
    layout := { baseDir := chosen g.baseDir base.layout.baseDir }
    templating := { base.templating with
      dir := chosen g.templatesDir base.templating.dir
      cacheSize := g.cacheSize.getD base.templating.cacheSize
      staticallyCompile := g.static.getD base.templating.staticallyCompile } }

/-- A service that has been set up. -/
structure Setup where
  pipeline : Pipeline
  deployment : Deployment
  logging : Logging.Configuration
  elapsed : Text

/-- Write what a deployment has reported to the log. -/
def logNotices (s : Setup) (d : Deployment) : Shell Unit :=
  Shell.logAll s.logging (d.notices.map fun n => n.record s.elapsed)

/-- Set up logging and the service. -/
def setUp (around : Surroundings) (s : Settings) : Shell Setup := do
  match Logging.logFile? around.workingDirectory s.logging with
  | some path =>
    let _ ← Shell.ofExcept (LocalStorage.file none path)
    match ← Shell.touch path with
    | .ok () => pure ()
    | .error r => Shell.fail (r.failure path)
  | none => pure ()
  let logging ← Shell.ofExcept (Logging.configuration around.workingDirectory s.logging s.debug)
  let pipeline := Pipeline.ofSettings around.workingDirectory s none
  let size := s.templating.cacheSize.toNat
  let deployment := Deployment.create [(pipeline, size)] none (.files {})
  let ready : Notice := .serviceReady pipeline.templateDir size pipeline.compiler.static
    pipeline.singleFlight
  Shell.logAll logging [Logging.announcement logging, ready.record around.elapsed]
  pure { pipeline, deployment, logging, elapsed := around.elapsed }

/-- The steps of a routine of the only request, on a deployment with one service. `load` loads a
template for it. -/
def converse {α : Type}
    (load : Text → Text → Deployment → Shell (Except Failure Compiled × Deployment)) :
    Routine Compiled α → Deployment → Shell (Except Failure α × Deployment)
  | .finish r, d => pure (r, d)
  | .lookup name next, d =>
    let (found, d) := d.lookup 0 name
    converse load (next found) d
  | .act a next, d => converse load next (d.act 0 a)
  | .read path next, d =>
    match LocalStorage.file none path with
    | .error f => converse load (next (.error f)) d
    | .ok file => .readFile file fun content =>
      let (answer, d) := d.fileAnswer path (LocalStorage.answer file content)
      converse load (next answer) d
  | .share name path next, d =>
    (load name path d).bind fun (loaded, d) => converse load (next loaded) d

/-- The steps of the only request. Its loads are shared with no one, and themselves share none. -/
def serve (s : Setup) (r : Request) : Shell (Except Failure Bytes × Deployment) :=
  let noLoad (_ _ : Text) (d : Deployment) : Shell (Except Failure Compiled × Deployment) :=
    pure (.error (.ofText .runtime "a load waits for no other load"), d)
  let load (name path : Text) (d : Deployment) : Shell (Except Failure Compiled × Deployment) :=
    converse noLoad (d.load 0 name path) d
  converse load (r.routine s.pipeline) s.deployment

/-- Render a request and log what happened. -/
def rendered (s : Setup) (r : Request) : Shell (Except Failure Bytes) := do
  let (outcome, d) ← serve s r
  logNotices s d
  pure outcome

/-! ### Commands -/

/-- Write output to the file that the arguments name, or else to the output of the program. -/
def writeOutput (g : Given) (output : Bytes) : Shell Unit := do
  match g.output.filter (!·.isEmpty) with
  | none => Shell.put output
  | some path =>
    let file ← Shell.ofExcept (LocalStorage.file none path)
    match ← Shell.write file output with
    | .ok () => pure ()
    | .error r => Shell.fail (r.failure file)

/-- Go on with settings that are valid, or report why they are not. -/
def withSettings (around : Surroundings) (inv : Invocation) (k : Settings → Shell ExitCode) :
    Shell ExitCode :=
  match settings around.environment inv with
  | .ok s => k s
  | .error f =>
    if f.kind = .configuration then do
      Shell.complainLine ("Configuration error: " ++ f.message)
      pure .usage
    else Shell.fail f

/-- Render a template. With `--debug`, a fault in it is shown on the error page too. -/
def renderCommand (around : Surroundings) (inv : Invocation)
    (model : List (Text × Model)) : Shell ExitCode :=
  withSettings around inv fun settings => do
    let setup ← setUp around settings
    let name := inv.given.name.getD []
    match ← rendered setup (.file name (some (.dict model))) with
    | .ok output =>
      writeOutput inv.given output
      pure .success
    | .error f =>
      if f.kind.isStorage then
        Shell.complainLine ("Template not found: " ++ f.message)
        pure .notFound
      else if f.kind = .compile ∨ f.kind = .render then
        Shell.complainLine ("Template error: " ++ f.message)
        if inv.debug then
          let page := ErrorPage.model f none f.report
          let output ← rendered setup (.page (some (.dict page)))
          writeOutput inv.given (← Shell.ofExcept output)
        pure .template
      else Shell.fail f

/-- The entries of a model with one of them replaced or added. -/
def withEntry (name : Text) (value : Model) : List (Text × Model) → List (Text × Model)
  | [] => [(name, value)]
  | (n, v) :: rest => if n = name then (n, value) :: rest else (n, v) :: withEntry name value rest

/-- Render the error page. -/
def errorCommand (around : Surroundings) (inv : Invocation)
    (model : List (Text × Model)) : Shell ExitCode :=
  let model := match inv.given.message.filter (!·.isEmpty) with
    | some message => withEntry "message" (.str message) model
    | none => model
  withSettings around inv fun settings => do
    let setup ← setUp around settings
    match ← rendered setup (.page (some (.dict model))) with
    | .ok output =>
      writeOutput inv.given output
      pure .success
    | .error f =>
      if f.kind = .compile ∨ f.kind = .render then
        Shell.complainLine ("Error page failed: " ++ f.message)
        pure .template
      else Shell.fail f

/-- Carry out a command once its arguments have been checked. -/
def execute (around : Surroundings) (inv : Invocation) (command : Command) :
    Shell ExitCode := do
  let model ← loadModel around.modelDepth inv.given
  match problems inv.given model, model with
  | [], .ok model =>
    match command with
    | .render => renderCommand around inv model
    | .error => errorCommand around inv model
  | found, _ =>
    Shell.complainLine "Validation errors:"
    for problem in found do
      Shell.complainLine ("  - " ++ problem)
    pure .usage

/-- Texts of the program itself as bytes. -/
def outputBytes (t : Text) : Bytes :=
  (t.flatMap Codec.utf8Bytes).map UInt8.ofNat

/-- The steps of a call with the given arguments. -/
def run (around : Surroundings) (arguments : List Text) : Shell ExitCode :=
  match Invocation.ofArguments arguments with
  | .error (.help level) => do
    Shell.put (outputBytes (helpText level))
    pure .success
  | .error (.refused level complaint) => do
    Shell.complain (usage level) (pure ())
    Shell.complainLine (programName level ++ ": error: " ++ complaint.message)
    pure .template
  | .ok inv =>
    match inv.command with
    | none => do
      Shell.put (outputBytes (helpText none))
      pure .usage
    | some command => execute around inv command

end CommandLine

end Stencil
