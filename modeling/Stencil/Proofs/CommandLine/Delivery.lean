import Stencil.Proofs.CommandLine.ExitCodes
import Stencil.Proofs.CommandLine.Service
import Stencil.Proofs.Storage.Leads

/-!
# All of the output or none

A call writes what the service of its settings answers, or it writes nothing. Nothing is written before the
answer is there, and to write it is the last thing that a call does. Only `--debug` has a fault of a template
shown on the error page in place of the output.

## Main definitions

- `Task.Answers` — what the service that a task asks answers to a request
- `Logless` — the environment names no file for the log
- `Given.Receives` — output has got to where it should
- `Effect` — what a call does to files and output

## Main results

- `effect_of_run` — what each call does to files and output
- `all_or_nothing` — output is what the service answers, and there is nothing else
-/

namespace Stencil

namespace CommandLine

open Shell

/-- What the service that a task asks answers to a request, over these files. -/
def Task.Answers (t : Task) (around : Surroundings) (tree : FileTree) (r : Request)
    (o : Except Failure Bytes) : Prop :=
  ((Session.start (.create [(t.pipeline around, t.settings.templating.cacheSize.toNat)] none
    (.files tree))).run [.start 0 r]).Settles Deployment.host 0 o

/-- The request for the page that shows a failure. -/
def pageOf (f : Failure) : Request :=
  .page (some (.dict (ErrorPage.model f none f.report)))

/-- The environment names no file for the log. -/
def Logless (around : Surroundings) : Prop :=
  ∀ s, Settings.ofEnvironment around.environment = .ok s →
    Logging.logFile? around.workingDirectory s.logging = none

/-- Arguments with `--debug`. -/
def Debugging (arguments : List Text) : Prop :=
  ∃ inv, Invocation.ofArguments arguments = .ok inv ∧ inv.debug = true

/-- Files and output stay as they are. -/
def Kept (w w' : World) : Prop :=
  w'.tree = w.tree ∧ w'.output = w.output

/-- The file that output is to be written to cannot be written. -/
def Given.Undeliverable (g : Given) (output : Bytes) (w : World) : Prop :=
  ∃ path, g.output.filter (!·.isEmpty) = some path ∧
    ∀ file, LocalStorage.file none path = .ok file → ∃ r, w.tree.write file output = .error r

/-- Output has got to where it should: it is all that the file holds that arguments name, or else it has been
written to the output of the program. Only one of both has changed. -/
def Given.Receives (g : Given) (output : Bytes) (w w' : World) : Prop :=
  match g.output.filter (!·.isEmpty) with
  | none => w'.output = w.output ++ output ∧ w'.tree = w.tree
  | some path => ∃ file, LocalStorage.file none path = .ok file ∧ w'.tree.read file = .ok output ∧
    w.tree.write file output = .ok w'.tree ∧ w'.output = w.output

/-- How output is written: it gets to where it should and the call ends with a code, or it cannot be written,
and the call fails. -/
def Given.Writes (g : Given) (output : Bytes) (code : ExitCode) (w : World)
    (ending : Except Failure ExitCode) (w' : World) : Prop :=
  (ending = .ok code ∧ g.Receives output w w') ∨
    ((∃ f, ending = .error f) ∧ g.Undeliverable output w ∧ Kept w w')

variable {around : Surroundings} {arguments : List Text}

theorem Kept.trans {w w' w'' : World} (kept : Kept w w') (kept' : Kept w' w'') : Kept w w'' :=
  ⟨kept'.1.trans kept.1, kept'.2.trans kept.2⟩

theorem Kept.of_tells {α : Type} {x : Shell α} {w w' : World} {a : α} (tells : x.Tells w a w') : Kept w w' :=
  tells.2

/-- What is wrong with the arguments of a command is listed, and nothing else is done. -/
theorem kept_of_problems (found : List Text) (w : World) : ∃ w', (do
    Shell.complainLine "Validation errors:"
    for problem in found do
      Shell.complainLine ("  - " ++ problem)
    pure .usage : Shell ExitCode).run w = (.ok .usage, w') ∧ Kept w w' := by
  obtain ⟨w₁, told⟩ := tells_complainLine "Validation errors:" w
  obtain ⟨w', lines⟩ := tells_lines found (("  - " : Text) ++ ·) w₁
  exact ⟨w', (run_bind_ok told.1).trans (run_bind_ok lines.1), (Kept.of_tells told).trans (.of_tells lines)⟩

/-- Output is written as from any moment at which files and output were the same. -/
theorem Given.Writes.of_kept {g : Given} {output : Bytes} {code : ExitCode} {w w₁ w' : World}
    {ending : Except Failure ExitCode} (kept : Kept w w₁) (writes : g.Writes output code w₁ ending w') :
    g.Writes output code w ending w' := by
  obtain ⟨tree, text⟩ := kept
  obtain ⟨is, receives⟩ | ⟨fails, ⟨path, named, refused⟩, kept'⟩ := writes
  · refine .inl ⟨is, ?_⟩
    rw [Receives] at receives ⊢
    rwa [tree, text] at receives
  · refine .inr ⟨fails, ⟨path, named, ?_⟩, Kept.trans ⟨tree, text⟩ kept'⟩
    rwa [tree] at refused

/-- **Output is written** in one go: all of it or nothing. -/
theorem writes_writeOutput (g : Given) (output : Bytes) (code : ExitCode) (w : World) :
    ∃ ending w', (do writeOutput g output; pure code : Shell ExitCode).run w = (ending, w') ∧
      g.Writes output code w ending w' := by
  rw [writeOutput]
  cases named : g.output.filter (!·.isEmpty) with
  | none =>
    refine ⟨.ok code, { w with output := w.output ++ output }, rfl, .inl ⟨rfl, ?_⟩⟩
    rw [Given.Receives, named]
    exact ⟨rfl, rfl⟩
  | some path =>
    dsimp only
    cases usable : LocalStorage.file none path with
    | error f =>
      refine ⟨.error f, w, rfl, .inr ⟨⟨f, rfl⟩, ⟨path, named, fun file is => ?_⟩, rfl, rfl⟩⟩
      cases usable.symm.trans is
    | ok file =>
      cases wrote : w.tree.write file output with
      | error r =>
        refine ⟨.error (r.failure file), w, ?_, .inr ⟨⟨_, rfl⟩, ⟨path, named, fun file' is => ?_⟩, rfl, rfl⟩⟩
        · change (Shell.run (.writeFile file output _) w) = _
          simp only [Shell.run, wrote]
          rfl
        · obtain rfl := Except.ok.inj (usable.symm.trans is)
          exact ⟨r, wrote⟩
      | ok tree =>
        refine ⟨.ok code, { w with tree }, ?_, .inl ⟨rfl, ?_⟩⟩
        · change (Shell.run (.writeFile file output _) w) = _
          simp only [Shell.run, wrote]
          rfl
        · rw [Given.Receives, named]
          exact ⟨file, usable, FileTree.read_of_write wrote, wrote, rfl⟩

/-- The service that a task asks answers what the routine of the request comes to alone. -/
theorem Task.answers_iff (t : Task) (tree : FileTree) (r : Request) (o : Except Failure Bytes) :
    t.Answers around tree r o ↔ o = (alone tree (loadAlone tree) (r.routine (t.pipeline around))
      (newDeployment (t.pipeline around) t.settings.templating.cacheSize.toNat)).1 := by
  have settles := Session.settles_new (t.pipeline around) t.settings.templating.cacheSize.toNat tree r
  constructor
  · intro answers
    exact Scheduler.Settles.unique answers settles
  · rintro rfl
    exact settles

/-! ### What a call does -/

/-- The template that a call with `--debug` asks for has a fault. -/
structure Shows (around : Surroundings) (arguments : List Text) (w : World) (t : Task) (f : Failure) :
    Prop where
  asks : Asks around arguments w.tree t
  answers : t.Answers around w.tree t.request (.error f)
  debugging : t.invocation.debug = true
  render : t.command = .render
  fault : Fault f

/-- What a call does to files and output, by how far it comes. -/
inductive Effect (around : Surroundings) (arguments : List Text) (w : World) :
    Except Failure ExitCode → World → Prop
  /-- There is nothing that the call asks for. -/
  | idle {ending : Except Failure ExitCode} {w' : World} (none : ∀ t, ¬Asks around arguments w.tree t)
      (other : ending ≠ .ok .success) (kept : Kept w w') : Effect around arguments w ending w'
  | output {ending : Except Failure ExitCode} {w' : World} {t : Task} {output : Bytes}
      (asks : Asks around arguments w.tree t) (answers : t.Answers around w.tree t.request (.ok output))
      (writes : t.invocation.given.Writes output .success w ending w') : Effect around arguments w ending w'
  | failure {ending : Except Failure ExitCode} {w' : World} {t : Task} {f : Failure}
      (asks : Asks around arguments w.tree t) (answers : t.Answers around w.tree t.request (.error f))
      (unshown : ¬Shows around arguments w t f) (other : ending ≠ .ok .success) (kept : Kept w w') :
      Effect around arguments w ending w'
  | page {ending : Except Failure ExitCode} {w' : World} {t : Task} {f : Failure} {page : Bytes}
      (shows : Shows around arguments w t f) (answers : t.Answers around w.tree (pageOf f) (.ok page))
      (writes : t.invocation.given.Writes page .template w ending w') : Effect around arguments w ending w'
  | pageless {w' : World} {t : Task} {f g : Failure} (shows : Shows around arguments w t f)
      (answers : t.Answers around w.tree (pageOf f) (.error g)) (kept : Kept w w') :
      Effect around arguments w (.error g) w'

section

variable {w : World} {t : Task} (logless : Logless around) (asks : Asks around arguments w.tree t)

include logless asks

/-- Without a log file a service is set up, and it answers, before anything is written. -/
theorem Logless.served : ∃ setup w₁, (setUp around t.settings).run w = (.ok setup, w₁) ∧ Kept w w₁ ∧
    ∀ (r : Request) (w₂ : World), w₂.tree = w.tree → ∃ o w₃, t.Answers around w.tree r o ∧
      (rendered setup r).Tells w₂ o w₃ := by
  obtain ⟨base, from_, validated⟩ := ok_of_bind asks.settings
  have unlogged : Logging.logFile? around.workingDirectory t.settings.logging = none := by
    rw [(Settings.valid_of_validate validated).2]
    exact logless base from_
  obtain ⟨setup, w₁, ran, pipeline, deployment, tree, output⟩ :=
    run_setUp (preset_of_settings asks.settings).1 fun path is => by cases unlogged.symm.trans is
  rw [openedLog, unlogged] at tree
  refine ⟨setup, w₁, ran, ⟨tree, output⟩, fun r w₂ same => ?_⟩
  obtain ⟨w₃, told⟩ := tells_rendered setup r w₂
  rw [deployment, same, pipeline] at told
  exact ⟨_, w₃, (t.answers_iff w.tree r _).mpr rfl, told⟩

/-- What a call for a template does. -/
theorem Logless.effect_render (command : t.command = .render) : ∃ ending w',
    (renderCommand around t.invocation t.model).run w = (ending, w') ∧ Effect around arguments w ending w' := by
  obtain ⟨setup, w₁, ran, kept₁, serves⟩ := logless.served asks
  obtain ⟨o, w₂, answers, told⟩ := serves t.request w₁ kept₁.1
  have request : t.request = .file (t.invocation.given.name.getD []) (some (.dict t.model)) := by
    rw [Task.request, command]
  have kept₂ := kept₁.trans (.of_tells told)
  rw [request] at told
  rw [renderCommand, withSettings, asks.settings]
  dsimp only
  rw [run_bind_ok ran, run_bind_ok told.1]
  cases o with
  | ok output =>
    obtain ⟨ending, w', wrote, writes⟩ := writes_writeOutput t.invocation.given output .success w₂
    exact ⟨ending, w', wrote, .output asks answers (writes.of_kept kept₂)⟩
  | error f =>
    dsimp only
    by_cases storage : f.kind.isStorage = true
    · obtain ⟨w', complained⟩ := tells_complainLine ("Template not found: " ++ f.message) w₂
      have unshown : ¬Shows around arguments w t f := by
        intro shows
        rw [shows.fault.other] at storage
        cases storage
      rw [if_pos storage, run_bind_ok complained.1]
      exact ⟨_, _, rfl, .failure asks answers unshown (fun e => by cases e) (kept₂.trans (.of_tells complained))⟩
    rw [if_neg storage]
    by_cases fault : f.kind = .compile ∨ f.kind = .render
    · obtain ⟨w₃, complained⟩ := tells_complainLine ("Template error: " ++ f.message) w₂
      have kept₃ := kept₂.trans (.of_tells complained)
      rw [if_pos fault, run_bind_ok complained.1]
      cases debugging : t.invocation.debug with
      | false =>
        refine ⟨_, _, rfl, .failure asks answers (fun shows => ?_) (fun e => by cases e) kept₃⟩
        cases debugging.symm.trans shows.debugging
      | true =>
        -- the page is asked for in the same way
        have shows : Shows around arguments w t f := ⟨asks, answers, debugging, command, fault⟩
        obtain ⟨shown, w₄, answers', told'⟩ := serves (pageOf f) w₃ kept₃.1
        have kept₄ := kept₃.trans (.of_tells told')
        rw [if_pos rfl]
        cases shown with
        | error g => exact ⟨_, _, run_bind_ok told'.1, .pageless shows answers' kept₄⟩
        | ok page =>
          obtain ⟨ending, w', wrote, writes⟩ := writes_writeOutput t.invocation.given page .template w₄
          exact ⟨ending, w', (run_bind_ok told'.1).trans wrote, .page shows answers' (writes.of_kept kept₄)⟩
    · rw [if_neg fault]
      exact ⟨_, _, rfl, .failure asks answers (fun shows => fault shows.fault) (fun e => by cases e) kept₂⟩

/-- What a call for the error page does. -/
theorem Logless.effect_error (command : t.command = .error) : ∃ ending w',
    (errorCommand around t.invocation t.model).run w = (ending, w') ∧ Effect around arguments w ending w' := by
  obtain ⟨setup, w₁, ran, kept₁, serves⟩ := logless.served asks
  obtain ⟨o, w₂, answers, told⟩ := serves t.request w₁ kept₁.1
  have request : t.request = .page (some (.dict (t.invocation.given.pageModel t.model))) := by
    rw [Task.request, command]
  have kept₂ := kept₁.trans (.of_tells told)
  rw [request] at told
  rw [errorCommand, withSettings, asks.settings]
  dsimp only
  rw [run_bind_ok ran]
  cases o with
  | ok output =>
    obtain ⟨ending, w', wrote, writes⟩ := writes_writeOutput t.invocation.given output .success w₂
    exact ⟨ending, w', (run_bind_ok told.1).trans wrote, .output asks answers (writes.of_kept kept₂)⟩
  | error f =>
    have unshown : ¬Shows around arguments w t f := by
      intro shows
      cases command.symm.trans shows.render
    by_cases fault : f.kind = .compile ∨ f.kind = .render
    · obtain ⟨w', complained⟩ := tells_complainLine ("Error page failed: " ++ f.message) w₂
      refine ⟨.ok .template, w', (run_bind_ok told.1).trans ?_,
        .failure asks answers unshown (fun e => by cases e) (kept₂.trans (.of_tells complained))⟩
      dsimp only
      rw [if_pos fault]
      exact run_bind_ok complained.1
    · refine ⟨.error f, w₂, (run_bind_ok told.1).trans ?_, .failure asks answers unshown (fun e => by cases e) kept₂⟩
      dsimp only
      rw [if_neg fault]
      rfl

end

/-- What a call does whose arguments are accepted. -/
theorem Logless.effect_execute {w : World} (logless : Logless around) {inv : Invocation} {command : Command}
    (accepted : Invocation.ofArguments arguments = .ok inv) (named : inv.command = some command) :
    ∃ ending w', (execute around inv command).run w = (ending, w') ∧
      Effect around arguments w ending w' := by
  have same {t : Task} (asks : Asks around arguments w.tree t) : t.invocation = inv :=
    Except.ok.inj (asks.accepted.symm.trans accepted)
  rw [execute, run_bind, run_loadModel]
  cases read : inv.given.readModel around.modelDepth w.tree with
  | error f =>
    refine ⟨.error f, w, rfl, .idle (fun t asks => ?_) (fun e => by cases e) ⟨rfl, rfl⟩⟩
    cases read.symm.trans (same asks ▸ asks.model)
  | ok m =>
    have listed (none : ∀ t, ¬Asks around arguments w.tree t) (found : List Text) : ∃ ending w', (do
        Shell.complainLine "Validation errors:"
        for problem in found do
          Shell.complainLine ("  - " ++ problem)
        pure .usage : Shell ExitCode).run w = (ending, w') ∧ Effect around arguments w ending w' := by
      obtain ⟨w', ran, kept⟩ := kept_of_problems found w
      exact ⟨.ok .usage, w', ran, .idle none (fun e => by cases e) kept⟩
    dsimp only
    cases m with
    | error e =>
      refine listed (fun t asks => ?_) (problems inv.given (.error e))
      cases read.symm.trans (same asks ▸ asks.model)
    | ok model =>
      by_cases size : ∀ n, inv.given.cacheSize = some n → 0 ≤ n
      · have fine : problems inv.given (.ok model) = [] := by
          rw [problems]
          cases given : inv.given.cacheSize with
          | none => rfl
          | some n => exact congrArg (_ ++ ·) (if_neg (Int.not_lt.mpr (size n given)))
        rw [fine]
        cases chosen : settings around.environment inv with
        | ok s =>
          have asks : Asks around arguments w.tree ⟨command, inv, model, s⟩ :=
            ⟨accepted, named, read, size, chosen⟩
          cases command with
          | render =>
            have ran := logless.effect_render asks rfl
            exact ran
          | error =>
            have ran := logless.effect_error asks rfl
            exact ran
        | error f =>
          obtain ⟨w', told⟩ := tells_complainLine ("Configuration error: " ++ f.message) w
          have none (t : Task) : ¬Asks around arguments w.tree t := by
            intro asks
            cases chosen.symm.trans (same asks ▸ asks.settings)
          have stops (k : Settings → Shell ExitCode) :
              (withSettings around inv k).run w = (.ok .usage, w') := by
            rw [withSettings, chosen]
            dsimp only
            rw [if_pos (settings_fails size chosen)]
            exact run_bind_ok told.1
          refine ⟨.ok .usage, w', ?_, .idle none (fun e => by cases e) (.of_tells told)⟩
          cases command with
          | render => exact stops _
          | error => exact stops _
      · have none (t : Task) : ¬Asks around arguments w.tree t := by
          intro asks
          exact size (same asks ▸ asks.size)
        simp only [not_forall, Int.not_le] at size
        obtain ⟨n, given, negative⟩ := size
        have found : problems inv.given (.ok model) = [("--cache-size must be >= 0" : Text)] := by
          simp only [problems, given]
          exact if_pos negative
        rw [found]
        exact listed none _

/-- **What each call does** to files and output, if it is no request for help. -/
theorem effect_of_run {w : World} (logless : Logless around)
    (asked : Refused arguments ∨ ∃ inv, Invocation.ofArguments arguments = .ok inv ∧ inv.command ≠ none) :
    ∃ ending w', (run around arguments).run w = (ending, w') ∧ Effect around arguments w ending w' := by
  obtain ⟨level, complaint, refused⟩ | ⟨inv, accepted, commanded⟩ := asked
  · rw [run, refused]
    refine ⟨.ok .template, _, rfl, .idle (fun t asks => ?_) (fun e => by cases e) ⟨rfl, rfl⟩⟩
    cases refused.symm.trans asks.accepted
  · obtain ⟨command, named⟩ := Option.ne_none_iff_exists'.mp commanded
    rw [run, accepted]
    dsimp only
    rw [named]
    exact logless.effect_execute accepted named

/-! ### All or nothing -/

/-- A fault that is shown has a page, if its line number is not too long for a text. -/
theorem Shows.exists_page {w : World} {t : Task} {f : Failure} (shows : Shows around arguments w t f)
    (short : ∀ i, f.problem.line = some i → (Model.int i).isShort = true) :
    ∃ page, t.Answers around w.tree (pageOf f) (.ok page) := by
  obtain ⟨coded, isText⟩ := shows.asks.coded
  have mapping : Pipeline.givenModel (some (.dict (ErrorPage.model f none f.report))) =
      .dict (ErrorPage.model f none f.report) := rfl
  obtain ⟨v, bytes, _, page⟩ := Pipeline.renderPage_eq rfl coded.accepted isText mapping
    (ErrorPage.showable_model f none f.report short)
  refine ⟨bytes, (t.answers_iff w.tree _ _).mpr ?_⟩
  rw [pageOf, Request.routine, page]
  rfl

/-- **All of the output or none.** Where no log file is named, a call that asks for a command, or whose
arguments are refused, ends as follows. If it ends with success, what the service of its settings answers has
got to where it should. If it ends otherwise, files and output are as they were, unless it asked with
`--debug` for a template that has a fault: then the page of this fault is written in the same way, and the call
ends as for a fault. There is such a page, if the line number of the fault has a text. -/
theorem all_or_nothing {w : World} (logless : Logless around)
    (asked : Refused arguments ∨ ∃ inv, Invocation.ofArguments arguments = .ok inv ∧ inv.command ≠ none) :
    ∃ ending w', (run around arguments).run w = (ending, w') ∧
      (ending = .ok .success → ∃ t output, Asks around arguments w.tree t ∧
        t.Answers around w.tree t.request (.ok output) ∧ t.invocation.given.Receives output w w') ∧
      (¬Debugging arguments → ending ≠ .ok .success → Kept w w') ∧
      (ending ≠ .ok .success → Kept w w' ∨ ∃ t f, Shows around arguments w t f) ∧
      ∀ t f, Shows around arguments w t f →
        (∀ page, t.Answers around w.tree (pageOf f) (.ok page) →
          t.invocation.given.Writes page .template w ending w') ∧
        ((∀ i, f.problem.line = some i → (Model.int i).isShort = true) →
          ∃ page, t.Answers around w.tree (pageOf f) (.ok page)) := by
  obtain ⟨ending, w', ran, effect⟩ := effect_of_run logless asked
  have answer {t : Task} {r : Request} {o o' : Except Failure Bytes} (answers : t.Answers around w.tree r o)
      (answers' : t.Answers around w.tree r o') : o = o' :=
    Scheduler.Settles.unique answers answers'
  have one {t t' : Task} {f f' : Failure} (asks : Asks around arguments w.tree t)
      (answers : t.Answers around w.tree t.request (.error f)) (shows : Shows around arguments w t' f') :
      t = t' ∧ f = f' := by
    obtain rfl := asks.unique shows.asks
    exact ⟨rfl, Except.error.inj (answer answers shows.answers)⟩
  refine ⟨ending, w', ran, ?_⟩
  cases effect with
  | idle none other kept =>
    refine ⟨fun is => absurd is other, fun _ _ => kept, fun _ => .inl kept, fun t f shows => ?_⟩
    exact absurd shows.asks (none t)
  | @output _ _ t output asks answers writes =>
    refine ⟨fun is => ?_, fun _ other => ?_, fun other => ?_, fun t' f shows => ?_⟩
    · obtain ⟨-, receives⟩ | ⟨⟨f, fails⟩, -⟩ := writes
      · exact ⟨t, output, asks, answers, receives⟩
      · cases fails.symm.trans is
    · obtain ⟨is, -⟩ | ⟨-, -, kept⟩ := writes
      · exact absurd is other
      · exact kept
    · obtain ⟨is, -⟩ | ⟨-, -, kept⟩ := writes
      · exact absurd is other
      · exact .inl kept
    · obtain rfl := asks.unique shows.asks
      cases answer answers shows.answers
  | failure asks answers unshown other kept =>
    refine ⟨fun is => absurd is other, fun _ _ => kept, fun _ => .inl kept, fun t f shows => ?_⟩
    obtain ⟨rfl, rfl⟩ := one asks answers shows
    exact absurd shows unshown
  | @page _ _ t f page shows answers writes =>
    refine ⟨fun is => ?_, fun quiet _ => ?_, fun _ => .inr ⟨t, f, shows⟩, fun t' f' shows' => ?_⟩
    · obtain ⟨is', -⟩ | ⟨⟨g, fails⟩, -⟩ := writes
      · cases is'.symm.trans is
      · cases fails.symm.trans is
    · exact absurd ⟨_, shows.asks.accepted, shows.debugging⟩ quiet
    · obtain ⟨rfl, rfl⟩ := one shows.asks shows.answers shows'
      refine ⟨fun page' answers' => ?_, shows.exists_page⟩
      obtain rfl := Except.ok.inj (answer answers answers')
      exact writes
  | @pageless _ t f g shows answers kept =>
    refine ⟨(fun e => by cases e), fun _ _ => kept, fun _ => .inl kept, fun t' f' shows' => ?_⟩
    obtain ⟨rfl, rfl⟩ := one shows.asks shows.answers shows'
    refine ⟨fun page' answers' => ?_, shows.exists_page⟩
    cases answer answers answers'

/-- A call for a template leaves the file alone that its output is meant for, unless there is output. -/
theorem all_or_nothing_replaced :
    let around : Surroundings := { environment := [], workingDirectory := "/" }
    let arguments : List Text := ["render", "x", "-o", "/out"]
    let w : World := { tree := { entries := [([("out" : Text)], .file [1, 2])] } }
    Logless around ∧ (∃ inv, Invocation.ofArguments arguments = .ok inv ∧ inv.command ≠ none) ∧
      ¬Debugging arguments ∧ ∃ ending w', (run around arguments).run w = (ending, w') ∧
        (ending ≠ .ok .success → Kept w w') := by
  intro around arguments w
  have accepted : Invocation.ofArguments arguments =
      .ok ⟨false, some .render, { name := some "x", output := some "/out", flags := [.output] }⟩ := by
    decide +kernel
  have logless : Logless around := by
    intro s is
    obtain rfl := Except.ok.inj is
    rfl
  have quiet : ¬Debugging arguments := by
    rintro ⟨inv, is, debugging⟩
    obtain rfl := Except.ok.inj (accepted.symm.trans is)
    cases debugging
  have asked : ∃ inv, Invocation.ofArguments arguments = .ok inv ∧ inv.command ≠ none :=
    ⟨_, accepted, Option.some_ne_none _⟩
  obtain ⟨ending, w', ran, -, kept, -⟩ := all_or_nothing (w := w) logless (.inr asked)
  exact ⟨logless, asked, quiet, ending, w', ran, kept quiet⟩

end CommandLine

end Stencil
