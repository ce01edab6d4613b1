import Stencil.Proofs.CommandLine.Outcomes
import Stencil.Proofs.Settings

/-!
# Exit codes

A call ends with an exit code that tells why: output was delivered, the template could not be read,
it has a fault, or the call did not ask for anything that can be done. Arguments that the parser refuses
end like a fault of a template.

## Main definitions

- `Task` — what a call is to do, once its arguments, its model and its settings are valid
- `Asks` — a call asks for a task
- `Delivered`, `Unreadable`, `Faulty`, `Refused`, `Invalid`, `Escaping` — why a call ends
- `Fit` — a call can be carried out
- `verdict` — how a call ends, from what it is given

## Main results

- `exit_code_tells` — each exit code with its reasons
-/

namespace Stencil

namespace CommandLine

open Shell

/-! ### What a call is to do -/

/-- The model that arguments give, or what is wrong with it. -/
def Given.readModel (g : Given) (depth : Nat) (tree : FileTree) :
    Except Failure (Except Text (List (Text × Model))) :=
  ((loadModel depth g).run { tree }).1

/-- The model of the error page, with the message that arguments give. -/
def Given.pageModel (g : Given) (model : List (Text × Model)) : List (Text × Model) :=
  match g.message.filter (!·.isEmpty) with
  | some message => withEntry "message" (.str message) model
  | none => model

/-- The files once the log has been opened. -/
def openedLog (around : Surroundings) (settings : Settings) (tree : FileTree) : FileTree :=
  match Logging.logFile? around.workingDirectory settings.logging with
  | some path => (tree.touch path).toOption.getD tree
  | none => tree

/-- What a call is to do, once its arguments, its model and its settings are valid. -/
structure Task where
  command : Command
  invocation : Invocation
  model : List (Text × Model)
  settings : Settings

namespace Task

variable (t : Task) (around : Surroundings)

def request : Request :=
  match t.command with
  | .render => .file (t.invocation.given.name.getD []) (some (.dict t.model))
  | .error => .page (some (.dict (t.invocation.given.pageModel t.model)))

def pipeline : Pipeline :=
  .ofSettings around.workingDirectory t.settings none

/-- The path of the template that is asked for. -/
def source : Text :=
  (t.pipeline around).templatePath (t.invocation.given.name.getD [])

/-- The files once the log has been opened. -/
def files (tree : FileTree) : FileTree :=
  openedLog around t.settings tree

/-- What the service of a call answers. -/
def outcome (tree : FileTree) : Except Failure Bytes :=
  let files := t.files around tree
  (alone files (loadAlone files) (t.request.routine (t.pipeline around))
    (newDeployment (t.pipeline around) t.settings.templating.cacheSize.toNat)).1

end Task

variable (around : Surroundings) (arguments : List Text)

/-- A call asks for a task. -/
structure Asks (tree : FileTree) (t : Task) : Prop where
  accepted : Invocation.ofArguments arguments = .ok t.invocation
  command : t.invocation.command = some t.command
  model : t.invocation.given.readModel around.modelDepth tree = .ok (.ok t.model)
  size : ∀ n, t.invocation.given.cacheSize = some n → 0 ≤ n
  settings : settings around.environment t.invocation = .ok t.settings

/-! ### Why a call ends -/

/-- Output is written to the file that the arguments name, or else to the output of the program. -/
def Given.Delivers (g : Given) (output : Bytes) (w w' : World) : Prop :=
  match g.output.filter (!·.isEmpty) with
  | none => w'.output = w.output ++ output ∧ w'.tree = w.tree
  | some path => ∃ file, LocalStorage.file none path = .ok file ∧
    w.tree.write file output = .ok w'.tree ∧ w'.output = w.output

/-- The output that was asked for has been delivered. -/
def Delivered (w w' : World) : Prop :=
  ∃ t output, Asks around arguments w.tree t ∧ t.outcome around w.tree = .ok output ∧
    t.invocation.given.Delivers output { w with tree := t.files around w.tree } w'

/-- The source of the template that was asked for cannot be read. -/
def Unreadable (w : World) : Prop :=
  ∃ t f, Asks around arguments w.tree t ∧ t.command = .render ∧
    LocalStorage.read (t.files around w.tree) none (t.source around) = .error f ∧
    f.kind.isStorage = true

/-- What was asked for cannot be compiled or run. -/
def Faulty (w : World) : Prop :=
  ∃ t f, Asks around arguments w.tree t ∧ t.outcome around w.tree = .error f ∧ Fault f

/-- The parser does not accept the arguments. -/
def Refused : Prop :=
  ∃ level complaint, Invocation.ofArguments arguments = .error (.refused level complaint)

/-- The arguments are accepted, but no command is given, or the model, the size of the cache or the
settings are not valid. -/
def Invalid (w : World) : Prop :=
  ∃ inv, Invocation.ofArguments arguments = .ok inv ∧
    (inv.command = none ∨
      ∃ m, inv.given.readModel around.modelDepth w.tree = .ok m ∧
        ((∃ e, m = .error e) ∨ (∃ n, inv.given.cacheSize = some n ∧ n < 0) ∨
          ∃ f, settings around.environment inv = .error f ∧ f.kind = .configuration))

/-- A model that is too deep, or a name that names no file, is not looked for. -/
def Escaping (w : World) (f : Failure) : Prop :=
  (∃ inv, Invocation.ofArguments arguments = .ok inv ∧ inv.command ≠ none ∧
    inv.given.readModel around.modelDepth w.tree = .error f) ∨
  ∃ t, Asks around arguments w.tree t ∧ t.command = .render ∧
    LocalStorage.file none (t.source around) = .error f

/-- A call can be carried out: it asks for no help, the log and the output can be written, and the line
number of a fault that is shown on a page can be shown. -/
structure Fit (w : World) : Prop where
  works : ∀ level, Invocation.ofArguments arguments ≠ .error (.help level)
  logged : ∀ t, Asks around arguments w.tree t → ∀ path,
    Logging.logFile? around.workingDirectory t.settings.logging = some path →
    (∃ file, LocalStorage.file none path = .ok file) ∧ ∃ tree, w.tree.touch path = .ok tree
  written : ∀ t, Asks around arguments w.tree t → ∀ path,
    t.invocation.given.output.filter (!·.isEmpty) = some path →
    ∃ file, LocalStorage.file none path = .ok file ∧
      ∀ output, ∃ tree, (t.files around w.tree).write file output = .ok tree
  short : ∀ t, Asks around arguments w.tree t → t.invocation.debug = true →
    ∀ f, t.outcome around w.tree = .error f →
    ∀ i, f.problem.line = some i → (Model.int i).isShort = true

variable {around arguments}

/-! ### One reason each -/

theorem Asks.unique {tree : FileTree} {t t' : Task} (asks : Asks around arguments tree t)
    (asks' : Asks around arguments tree t') : t = t' := by
  obtain ⟨command, inv, model, s⟩ := t
  obtain ⟨command', inv', model', s'⟩ := t'
  obtain rfl : inv = inv' := Except.ok.inj (asks.accepted.symm.trans asks'.accepted)
  obtain rfl : command = command' := Option.some.inj (asks.command.symm.trans asks'.command)
  obtain rfl : model = model' := Except.ok.inj (Except.ok.inj (asks.model.symm.trans asks'.model))
  obtain rfl : s = s' := Except.ok.inj (asks.settings.symm.trans asks'.settings)
  rfl

theorem Asks.coded {tree : FileTree} {t : Task} (asks : Asks around arguments tree t) :
    (t.pipeline around).Coded ∧ Encoding.isText (t.pipeline around).encoding = true := by
  obtain ⟨preset, valid⟩ := preset_of_settings asks.settings
  refine ⟨Pipeline.coded_ofSettings valid _ none, ?_⟩
  change Encoding.isText t.settings.templating.encoding = true
  rw [preset.encoding]
  decide +kernel

theorem Task.outcome_eq (around : Surroundings) (t : Task) {r : Request} (request : t.request = r)
    (tree : FileTree) : t.outcome around tree = (alone (t.files around tree) (loadAlone (t.files around tree))
      (r.routine (t.pipeline around))
      (newDeployment (t.pipeline around) t.settings.templating.cacheSize.toNat)).1 := by
  rw [Task.outcome, request]

/-- What a task comes to. -/
theorem Asks.outcome {w : World} {t : Task} (asks : Asks around arguments w.tree t) :
    (∃ output, t.outcome around w.tree = .ok output) ∨
    (t.command = .render ∧ ∃ f, t.outcome around w.tree = .error f ∧
      LocalStorage.read (t.files around w.tree) none (t.source around) = .error f) ∨
    ∃ f, t.outcome around w.tree = .error f ∧ Fault f := by
  obtain ⟨coded, isText⟩ := asks.coded
  have fails : FailsWith Fault (t.outcome around w.tree) →
      (∃ output, t.outcome around w.tree = .ok output) ∨
        ∃ f, t.outcome around w.tree = .error f ∧ Fault f := by
    intro fails
    cases is : t.outcome around w.tree with
    | ok output => exact .inl ⟨output, rfl⟩
    | error f => exact .inr ⟨f, rfl, fails f is⟩
  cases command : t.command with
  | render =>
    have request : t.request = .file (t.invocation.given.name.getD []) (some (.dict t.model)) := by
      rw [Task.request, command]
    obtain ⟨unreadable, readable⟩ := alone_file (t.files around w.tree) coded isText
      t.settings.templating.cacheSize.toNat (t.invocation.given.name.getD []) t.model
    have is := Task.outcome_eq around t request w.tree
    cases source : LocalStorage.read (t.files around w.tree) none (t.source around) with
    | error f => exact .inr (.inl ⟨rfl, f, is.trans (unreadable f source), rfl⟩)
    | ok b => exact (fails (is ▸ readable b source)).imp_right .inr
  | error =>
    have request : ∃ model, t.request = .page (some (.dict model)) := by
      rw [Task.request, command]
      exact ⟨_, rfl⟩
    obtain ⟨model, request⟩ := request
    have is := Task.outcome_eq around t request w.tree
    exact (fails (is ▸ alone_page coded isText model _)).imp_right .inr

/-! ### What the program does -/

theorem run_loadModel (depth : Nat) (g : Given) (w : World) :
    (loadModel depth g).run w = (g.readModel depth w.tree, w) := by
  rw [Given.readModel, loadModel]
  split
  · split
    · rfl
    · simp only [run_bind, Shell.read, Shell.run]
      cases w.tree.read _ <;> rfl
  · rfl
  · rfl

theorem run_writeOutput {g : Given} {w : World} (written : ∀ path,
    g.output.filter (!·.isEmpty) = some path → ∃ file, LocalStorage.file none path = .ok file ∧
      ∀ output, ∃ tree, w.tree.write file output = .ok tree) (output : Bytes) :
    ∃ w', (writeOutput g output).run w = (.ok (), w') ∧ g.Delivers output w w' := by
  rw [writeOutput]
  cases named : g.output.filter (!·.isEmpty) with
  | none =>
    refine ⟨{ w with output := w.output ++ output }, rfl, ?_⟩
    rw [Given.Delivers, named]
    exact ⟨rfl, rfl⟩
  | some path =>
    obtain ⟨file, usable, writes⟩ := written path named
    obtain ⟨tree, wrote⟩ := writes output
    have run : (Shell.write file output).run w = (.ok (.ok ()), { w with tree }) := by
      simp only [Shell.write, Shell.run, wrote]
    refine ⟨{ w with tree }, ?_, ?_⟩
    · dsimp only
      rw [usable]
      exact run_bind_ok run
    · rw [Given.Delivers, named]
      exact ⟨file, usable, wrote, rfl⟩

/-- Logging and the service are set up, and the log has been opened. -/
theorem run_setUp {s : Settings} (preset : s.Preset) {w : World} (logged : ∀ path,
    Logging.logFile? around.workingDirectory s.logging = some path →
      (∃ file, LocalStorage.file none path = .ok file) ∧ ∃ tree, w.tree.touch path = .ok tree) :
    ∃ setup w', (setUp around s).run w = (.ok setup, w') ∧
      setup.pipeline = .ofSettings around.workingDirectory s none ∧
      setup.deployment = newDeployment setup.pipeline s.templating.cacheSize.toNat ∧
      w'.tree = openedLog around s w.tree ∧ w'.output = w.output := by
  obtain ⟨c, configured⟩ := preset.configuration around.workingDirectory s.debug
  -- what remains once the log is there
  have rest (w : World) : ∃ setup w', (do
      let logging ← Shell.ofExcept (Logging.configuration around.workingDirectory s.logging s.debug)
      let pipeline := Pipeline.ofSettings around.workingDirectory s none
      let size := s.templating.cacheSize.toNat
      let deployment := Deployment.create [(pipeline, size)] none (.files {})
      let ready : Notice := .serviceReady pipeline.templateDir size pipeline.compiler.static
        pipeline.singleFlight
      Shell.logAll logging [Logging.announcement logging, ready.record around.elapsed]
      pure { pipeline, deployment, logging, elapsed := around.elapsed } : Shell Setup).Tells w setup w' ∧
      setup.pipeline = .ofSettings around.workingDirectory s none ∧
      setup.deployment = newDeployment setup.pipeline s.templating.cacheSize.toNat := by
    rw [configured]
    let p := Pipeline.ofSettings around.workingDirectory s none
    let ready : Notice := .serviceReady p.templateDir s.templating.cacheSize.toNat p.compiler.static
      p.singleFlight
    obtain ⟨w', told⟩ := tells_logAll c [Logging.announcement c, ready.record around.elapsed] w
    exact ⟨_, w', told.bind (tells_pure _ w'), rfl, rfl⟩
  rw [setUp]
  split
  · next path is =>
    obtain ⟨⟨file, named⟩, tree, touched⟩ := logged path is
    obtain ⟨setup, w', ⟨ran, same, output⟩, pipeline, deployment⟩ := rest { w with tree }
    refine ⟨setup, w', ?_, pipeline, deployment, ?_, output⟩
    · have run : (Shell.touch path).run w = (.ok (.ok ()), { w with tree }) := by
        simp only [Shell.touch, Shell.run, touched]
      rw [named]
      exact (run_bind_ok run).trans ran
    · rw [same, openedLog, is]
      change tree = (w.tree.touch path).toOption.getD w.tree
      rw [touched]
      rfl
  · next is =>
    obtain ⟨setup, w', ⟨ran, same, output⟩, pipeline, deployment⟩ := rest w
    exact ⟨setup, w', ran, pipeline, deployment, by rw [same, openedLog, is], output⟩

theorem tells_rendered (s : Setup) (r : Request) (w : World) : ∃ w', (rendered s r).Tells w
    (alone w.tree (loadAlone w.tree) (r.routine s.pipeline) s.deployment).1 w' := by
  obtain ⟨w', told⟩ := tells_logAll s.logging
    ((alone w.tree (loadAlone w.tree) (r.routine s.pipeline) s.deployment).2.notices.map fun n =>
      n.record s.elapsed) w
  exact ⟨w', Tells.bind ⟨run_serve s r w, rfl, rfl⟩ (told.bind (tells_pure _ w'))⟩

/-- Why a call ends as it does. -/
def Reason (around : Surroundings) (arguments : List Text) (w w' : World) :
    Except Failure ExitCode → Prop
  | .ok .success => Delivered around arguments w w'
  | .ok .notFound => Unreadable around arguments w
  | .ok .template => Refused arguments ∨ Faulty around arguments w
  | .ok .usage => Invalid around arguments w
  | .error f => Escaping around arguments w f

section

variable {w : World} {t : Task} (fit : Fit around arguments w) (asks : Asks around arguments w.tree t)

include fit asks

/-- The world after logging and the service have been set up, with what the service answers then. -/
theorem Fit.served : ∃ setup w₁, (setUp around t.settings).run w = (.ok setup, w₁) ∧
    setup.pipeline = t.pipeline around ∧
    (∃ w', (rendered setup t.request).Tells w₁ (t.outcome around w.tree) w') ∧
    w₁.tree = t.files around w.tree ∧ w₁.output = w.output := by
  obtain ⟨setup, w₁, ran, pipeline, deployment, tree, output⟩ :=
    run_setUp (preset_of_settings asks.settings).1 (fit.logged t asks)
  refine ⟨setup, w₁, ran, pipeline, ?_, tree, output⟩
  have tells := tells_rendered setup t.request w₁
  rw [deployment, pipeline, tree] at tells
  exact tells

/-- Output is delivered in a world that has the files and the output of the one in which it was asked
for. -/
theorem Fit.delivers {w₁ : World} (tree : w₁.tree = t.files around w.tree)
    (output : w₁.output = w.output) (bytes : Bytes) : ∃ w', (writeOutput t.invocation.given bytes).run w₁ = (.ok (), w') ∧
      t.invocation.given.Delivers bytes { w with tree := t.files around w.tree } w' := by
  obtain ⟨w', ran, delivers⟩ := run_writeOutput (w := w₁)
    (fun path is => tree ▸ fit.written t asks path is) bytes
  refine ⟨w', ran, ?_⟩
  rw [Given.Delivers] at delivers ⊢
  rw [tree, output] at delivers
  exact delivers

/-- With `--debug`, a fault is shown on a page, which is always there. -/
theorem Fit.shown {setup : Setup} (pipeline : setup.pipeline = t.pipeline around) {w₁ : World}
    (tree : w₁.tree = t.files around w.tree) {f : Failure} (fails : t.outcome around w.tree = .error f) :
    ∃ w', (do
      if t.invocation.debug then
        let page := ErrorPage.model f none f.report
        let output ← rendered setup (.page (some (.dict page)))
        writeOutput t.invocation.given (← Shell.ofExcept output)
      pure .template : Shell ExitCode).run w₁ = (.ok .template, w') := by
  cases debugging : t.invocation.debug with
  | false => exact ⟨w₁, rfl⟩
  | true =>
    obtain ⟨coded, isText⟩ := asks.coded
    have showable := ErrorPage.showable_model f none f.report (fit.short t asks debugging f fails)
    have mapping : Pipeline.givenModel (some (.dict (ErrorPage.model f none f.report))) =
        .dict (ErrorPage.model f none f.report) := rfl
    obtain ⟨v, bytes, _, page⟩ := Pipeline.renderPage_eq rfl coded.accepted isText mapping showable
    obtain ⟨w₂, told⟩ := tells_rendered setup
      (.page (some (.dict (ErrorPage.model f none f.report)))) w₁
    have same : (alone w₁.tree (loadAlone w₁.tree) (Request.routine setup.pipeline
        (.page (some (.dict (ErrorPage.model f none f.report))))) setup.deployment).1 = .ok bytes := by
      rw [pipeline, Request.routine, page]
      rfl
    rw [same] at told
    obtain ⟨w₃, ran, _⟩ := run_writeOutput (w := w₂)
      (fun path is => (told.2.1.trans tree) ▸ fit.written t asks path is) bytes
    exact ⟨w₃, (run_bind_ok told.1).trans (run_bind_ok ran)⟩

theorem Fit.run_render (command : t.command = .render) : ∃ ending w',
    (renderCommand around t.invocation t.model).run w = (ending, w') ∧
      Reason around arguments w w' ending := by
  obtain ⟨setup, w₁, ran, pipeline, ⟨w₂, told⟩, tree, output⟩ := fit.served asks
  have request : t.request = .file (t.invocation.given.name.getD []) (some (.dict t.model)) := by
    rw [Task.request, command]
  rw [request] at told
  have tree₂ := told.2.1.trans tree
  have output₂ := told.2.2.trans output
  obtain ⟨bytes, is⟩ | ⟨_, f, is, unreadable⟩ | ⟨f, is, fault⟩ := asks.outcome
  · obtain ⟨w', written, delivers⟩ := fit.delivers asks tree₂ output₂ bytes
    refine ⟨.ok .success, w', ?_, t, bytes, asks, is, delivers⟩
    rw [is] at told
    rw [renderCommand, withSettings, asks.settings]
    exact (run_bind_ok ran).trans ((run_bind_ok told.1).trans (run_bind_ok written))
  · rw [is] at told
    cases named : LocalStorage.file none (t.source around) with
    | ok file =>
      have storage := LocalStorage.storage_of_read named unreadable
      obtain ⟨w', complained⟩ := tells_complainLine ("Template not found: " ++ f.message) w₂
      refine ⟨.ok .notFound, w', ?_, t, f, asks, command, unreadable, storage⟩
      rw [renderCommand, withSettings, asks.settings]
      refine (run_bind_ok ran).trans ((run_bind_ok told.1).trans ?_)
      dsimp only
      rw [if_pos storage]
      exact run_bind_ok complained.1
    | error g =>
      obtain ⟨rfl, foreign⟩ := LocalStorage.foreign_of_read named unreadable
      refine ⟨.error g, w₂, ?_, .inr ⟨t, asks, command, named⟩⟩
      rw [renderCommand, withSettings, asks.settings]
      refine (run_bind_ok ran).trans ((run_bind_ok told.1).trans ?_)
      dsimp only
      rw [foreign.1, if_neg Bool.false_ne_true, if_neg foreign.2]
      rfl
  · obtain ⟨w₃, complained⟩ := tells_complainLine ("Template error: " ++ f.message) w₂
    obtain ⟨w', shown⟩ := fit.shown asks pipeline (complained.2.1.trans tree₂) is
    refine ⟨.ok .template, w', ?_, .inr ⟨t, f, asks, is, fault⟩⟩
    rw [is] at told
    rw [renderCommand, withSettings, asks.settings]
    refine (run_bind_ok ran).trans ((run_bind_ok told.1).trans ?_)
    dsimp only
    rw [fault.other, if_neg Bool.false_ne_true,
      if_pos (show f.kind = .compile ∨ f.kind = .render from fault)]
    exact (run_bind_ok complained.1).trans shown

theorem Fit.run_error (command : t.command = .error) : ∃ ending w',
    (errorCommand around t.invocation t.model).run w = (ending, w') ∧
      Reason around arguments w w' ending := by
  obtain ⟨setup, w₁, ran, pipeline, ⟨w₂, told⟩, tree, output⟩ := fit.served asks
  have request : t.request = .page (some (.dict (t.invocation.given.pageModel t.model))) := by
    rw [Task.request, command]
  rw [request] at told
  have tree₂ := told.2.1.trans tree
  have output₂ := told.2.2.trans output
  obtain ⟨bytes, is⟩ | ⟨other, _⟩ | ⟨f, is, fault⟩ := asks.outcome
  · obtain ⟨w', written, delivers⟩ := fit.delivers asks tree₂ output₂ bytes
    refine ⟨.ok .success, w', ?_, t, bytes, asks, is, delivers⟩
    rw [is] at told
    rw [errorCommand, withSettings, asks.settings]
    exact (run_bind_ok ran).trans ((run_bind_ok told.1).trans (run_bind_ok written))
  · rw [command] at other
    cases other
  · obtain ⟨w', complained⟩ := tells_complainLine ("Error page failed: " ++ f.message) w₂
    refine ⟨.ok .template, w', ?_, .inr ⟨t, f, asks, is, fault⟩⟩
    rw [is] at told
    rw [errorCommand, withSettings, asks.settings]
    refine (run_bind_ok ran).trans ((run_bind_ok told.1).trans ?_)
    dsimp only
    rw [if_pos (show f.kind = .compile ∨ f.kind = .render from fault)]
    exact run_bind_ok complained.1

end

/-- A call that is not accepted, or that is not valid, ends with what says so. -/
theorem Fit.run_execute {w : World} (fit : Fit around arguments w) {inv : Invocation} {command : Command}
    (accepted : Invocation.ofArguments arguments = .ok inv) (named : inv.command = some command) :
    ∃ ending w', (execute around inv command).run w = (ending, w') ∧
      Reason around arguments w w' ending := by
  rw [execute, run_bind, run_loadModel]
  cases read : inv.given.readModel around.modelDepth w.tree with
  | error f => exact ⟨.error f, w, rfl, .inl ⟨inv, accepted, by rw [named]; exact nofun, read⟩⟩
  | ok m =>
    -- what is wrong is listed, and nothing else is done
    have listed (why : Invalid around arguments w) (found : List Text) : ∃ ending w', (do
        Shell.complainLine "Validation errors:"
        for problem in found do
          Shell.complainLine ("  - " ++ problem)
        pure .usage : Shell ExitCode).run w = (ending, w') ∧ Reason around arguments w w' ending := by
      obtain ⟨w₁, told⟩ := tells_complainLine "Validation errors:" w
      obtain ⟨w', lines⟩ := tells_lines found (("  - " : Text) ++ ·) w₁
      exact ⟨.ok .usage, w', (run_bind_ok told.1).trans (run_bind_ok lines.1), why⟩
    dsimp only
    cases m with
    | error e =>
      have why : Invalid around arguments w := ⟨inv, accepted, .inr ⟨_, read, .inl ⟨e, rfl⟩⟩⟩
      obtain ⟨first, rest, is⟩ : ∃ first rest, problems inv.given (.error e) = first :: rest :=
        ⟨_, _, rfl⟩
      rw [is]
      exact listed why (first :: rest)
    | ok model =>
      by_cases size : ∀ n, inv.given.cacheSize = some n → 0 ≤ n
      · have fine : problems inv.given (.ok model) = [] := by
          rw [problems]
          cases given : inv.given.cacheSize with
          | none => rfl
          | some n => exact congrArg (_ ++ ·) (if_neg (Int.not_lt.mpr (size n given)))
        rw [fine]
        cases chosen : settings around.environment inv with
        | ok s =>
          have asks : Asks around arguments w.tree ⟨command, inv, model, s⟩ :=
            ⟨accepted, named, read, size, chosen⟩
          cases command with
          | render =>
            have ran := fit.run_render asks rfl
            exact ran
          | error =>
            have ran := fit.run_error asks rfl
            exact ran
        | error f =>
          have kind := settings_fails size chosen
          have why : Invalid around arguments w :=
            ⟨inv, accepted, .inr ⟨_, read, .inr (.inr ⟨f, chosen, kind⟩)⟩⟩
          obtain ⟨w', told⟩ := tells_complainLine ("Configuration error: " ++ f.message) w
          refine ⟨.ok .usage, w', ?_, why⟩
          have stops (k : Settings → Shell ExitCode) :
              (withSettings around inv k).run w = (.ok .usage, w') := by
            rw [withSettings, chosen]
            dsimp only
            rw [if_pos kind]
            exact run_bind_ok told.1
          cases command with
          | render => exact stops _
          | error => exact stops _
      · simp only [not_forall, Int.not_le] at size
        obtain ⟨n, given, negative⟩ := size
        have why : Invalid around arguments w :=
          ⟨inv, accepted, .inr ⟨_, read, .inr (.inl ⟨n, given, negative⟩)⟩⟩
        have found : problems inv.given (.ok model) = [("--cache-size must be >= 0" : Text)] := by
          simp only [problems, given]
          exact if_pos negative
        rw [found]
        exact listed why _

/-! ### One reason each -/

/-- How what a task comes to ends a call. -/
def verdictOf : Except Failure Bytes → Except Failure ExitCode
  | .ok _ => .ok .success
  | .error f =>
    if f.kind.isStorage then .ok .notFound
    else if f.kind = .compile ∨ f.kind = .render then .ok .template
    else .error f

/-- How a call ends, from what it is given. -/
def verdict (around : Surroundings) (arguments : List Text) (tree : FileTree) :
    Except Failure ExitCode :=
  match Invocation.ofArguments arguments with
  | .error (.help _) => .ok .success
  | .error (.refused _ _) => .ok .template
  | .ok inv =>
    match inv.command with
    | none => .ok .usage
    | some command =>
      match inv.given.readModel around.modelDepth tree with
      | .error f => .error f
      | .ok (.error _) => .ok .usage
      | .ok (.ok model) =>
        if inv.given.cacheSize.any (· < 0) then .ok .usage
        else match settings around.environment inv with
          | .error _ => .ok .usage
          | .ok s => verdictOf (Task.outcome ⟨command, inv, model, s⟩ around tree)

theorem Asks.verdict {tree : FileTree} {t : Task} (asks : Asks around arguments tree t) :
    verdict around arguments tree = verdictOf (t.outcome around tree) := by
  have size : t.invocation.given.cacheSize.any (· < 0) = false := by
    cases given : t.invocation.given.cacheSize with
    | none => rfl
    | some n => exact decide_eq_false (Int.not_lt.mpr (asks.size n given))
  rw [CommandLine.verdict, asks.accepted]
  dsimp only
  rw [asks.command]
  dsimp only
  rw [asks.model]
  dsimp only
  rw [size, if_neg Bool.false_ne_true, asks.settings]

theorem Invalid.verdict {w : World} (invalid : Invalid around arguments w) :
    verdict around arguments w.tree = .ok .usage := by
  obtain ⟨inv, accepted, why⟩ := invalid
  rw [CommandLine.verdict, accepted]
  dsimp only
  cases command : inv.command with
  | none => rfl
  | some command =>
    obtain none | ⟨m, read, why⟩ := why
    · cases command.symm.trans none
    · rw [read]
      cases m with
      | error e => rfl
      | ok model =>
        obtain ⟨_, wrong⟩ | ⟨n, is, negative⟩ | ⟨f, fails, _⟩ := why
        · cases wrong
        · dsimp only
          rw [is]
          exact if_pos (decide_eq_true negative)
        · dsimp only
          rw [fails, ite_self]

/-- The source of a template that cannot be read is why it is not rendered. -/
theorem Asks.outcome_of_unreadable {w : World} {t : Task} (asks : Asks around arguments w.tree t)
    (command : t.command = .render) {f : Failure}
    (unreadable : LocalStorage.read (t.files around w.tree) none (t.source around) = .error f) :
    t.outcome around w.tree = .error f := by
  obtain ⟨coded, isText⟩ := asks.coded
  have request : t.request = .file (t.invocation.given.name.getD []) (some (.dict t.model)) := by
    rw [Task.request, command]
  exact (Task.outcome_eq around t request w.tree).trans ((alone_file _ coded isText
    t.settings.templating.cacheSize.toNat _ t.model).1 f unreadable)

/-- Whatever the reason, a call ends as what it is given makes it end. -/
theorem Reason.verdict {w w' : World} {ending : Except Failure ExitCode}
    (reason : Reason around arguments w w' ending) : verdict around arguments w.tree = ending := by
  match ending, reason with
  | .ok .success, ⟨t, output, asks, is, _⟩ =>
    rw [asks.verdict, is]
    rfl
  | .ok .notFound, ⟨t, f, asks, command, unreadable, storage⟩ =>
    rw [asks.verdict, asks.outcome_of_unreadable command unreadable]
    exact if_pos storage
  | .ok .template, .inl ⟨level, complaint, refused⟩ =>
    rw [CommandLine.verdict, refused]
  | .ok .template, .inr ⟨t, f, asks, is, fault⟩ =>
    rw [asks.verdict, is, verdictOf, fault.other, if_neg Bool.false_ne_true]
    exact if_pos fault
  | .ok .usage, invalid => exact Invalid.verdict invalid
  | .error f, .inl ⟨inv, accepted, command, deep⟩ =>
    rw [CommandLine.verdict, accepted]
    dsimp only
    cases given : inv.command with
    | none => exact absurd given command
    | some c => rw [deep]
  | .error f, .inr ⟨t, asks, command, unnamed⟩ =>
    have unreadable : LocalStorage.read (t.files around w.tree) none (t.source around) = .error f := by
      rw [LocalStorage.read, unnamed]
      rfl
    obtain ⟨_, other, nor⟩ := LocalStorage.foreign_of_read unnamed unreadable
    rw [asks.verdict, asks.outcome_of_unreadable command unreadable, verdictOf, other,
      if_neg Bool.false_ne_true, if_neg nor]

end CommandLine

end Stencil
