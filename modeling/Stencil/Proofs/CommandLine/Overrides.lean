import Stencil.Proofs.CommandLine.Delivery

/-!
# What the command line overrides

A call that gives a setting itself does not ask the environment for it, as long as the environment has a preset to
offer. The preset is built before anything is overridden, so a size that is no size, or a directory without a name,
ends the call although it would not be used.

## Main definitions

- `Given.Overrides` — a variable whose setting a call gives itself
- `Given.Agree` — environments that differ in such variables only
- `Given.Spoiled` — an environment without a preset because of such a variable
- `Invocation.overriding` — settings with what a call overrides

## Main results

- `Settings.validate_alike` — settings with the same faults are refused alike
- `settings_of_agree` — environments that agree give a call the same settings
- `overrides_decide` — calls in environments that agree do the same
-/

namespace Stencil

/-! ### Validation -/

/-- **Settings with the same faults** are refused alike, or not at all. -/
theorem Settings.validate_alike {s s' : Settings}
    (size : s.templating.cacheSize = s'.templating.cacheSize ∨
      0 ≤ s.templating.cacheSize ∧ 0 ≤ s'.templating.cacheSize)
    (depth : s.templating.maxRenderDepth = s'.templating.maxRenderDepth)
    (dir : s.templating.dir.isEmpty = s'.templating.dir.isEmpty)
    (encoding : s.templating.encoding = s'.templating.encoding) :
    (∃ f, s.validate = .error f ∧ s'.validate = .error f) ∨ s.validate = .ok s ∧ s'.validate = .ok s' := by
  simp only [validate, ← depth, ← dir, ← encoding]
  have small : s.templating.cacheSize < 0 ↔ s'.templating.cacheSize < 0 := by
    obtain same | large := size
    · rw [same]
    · omega
  by_cases negative : s.templating.cacheSize < 0
  · have same : s.templating.cacheSize = s'.templating.cacheSize :=
      size.resolve_right fun large => Int.not_le.mpr negative large.1
    rw [← same, if_pos negative, if_pos negative]
    cases shown s.templating.cacheSize <;> exact .inl ⟨_, rfl, rfl⟩
  rw [if_neg negative, if_neg (small.not.mp negative)]
  by_cases shallow : s.templating.maxRenderDepth < 1
  · rw [if_pos shallow, if_pos shallow]
    cases shown s.templating.maxRenderDepth <;> exact .inl ⟨_, rfl, rfl⟩
  rw [if_neg shallow, if_neg shallow]
  cases s.templating.dir.isEmpty
  · cases knowsEncoding s.templating.encoding with
    | error f => exact .inl ⟨f, rfl, rfl⟩
    | ok known =>
      cases known
      · exact .inl ⟨_, rfl, rfl⟩
      · exact .inr ⟨rfl, rfl⟩
  · exact .inl ⟨_, rfl, rfl⟩

namespace CommandLine

/-! ### Variables and their settings -/

namespace Given

variable (g : Given)

/-- A text that is given and not empty. -/
def Filled (t : Option Text) : Prop :=
  ∃ d, t = some d ∧ d ≠ []

/-- The setting of a variable is given by the call itself. -/
def Overrides (name : Text) : Prop :=
  (name = "TEMPLAR_BASE_DIR" ∧ Filled g.baseDir) ∨
  (name = "TEMPLAR_TEMPLATES_DIR" ∧ Filled g.templatesDir) ∨
  (name = "TEMPLAR_CACHE_SIZE" ∧ g.cacheSize.isSome) ∨
  (name = "TEMPLAR_STATIC_COMPILE" ∧ g.static.isSome)

/-- Environments that differ in overridden variables only. -/
def Agree (env env' : Environment) : Prop :=
  ∀ name, ¬g.Overrides name → env.get? name = env'.get? name

/-- The name of the preset that an environment asks for. -/
def presetName (env : Environment) : Text :=
  (env.getD "TEMPLAR_ENV" "production").lower

/-- **A spoiled environment** has no preset because of a variable that is overridden: production reads the size of
the cache, and all but the preset for tests read the directory of templates. -/
inductive Spoiled (env : Environment) : Prop
  | size (given : g.cacheSize.isSome) (production : presetName env ∉ [("development" : Text), "testing"])
      (bad : ∀ n, env.integer "TEMPLAR_CACHE_SIZE" "100" = .ok n → n < 0)
  | dir (given : Filled g.templatesDir) (read : presetName env ≠ "testing")
      (empty : env.get? "TEMPLAR_TEMPLATES_DIR" = some [])

end Given

/-- A text that is given and not empty, or else another one. -/
def chosen (t : Option Text) (default : Text) : Text :=
  (t.filter (!·.isEmpty)).getD default

theorem chosen_alike {t : Option Text} {a b : Text} (same : ¬Given.Filled t → a = b) : chosen t a = chosen t b := by
  cases t with
  | none => exact same nofun
  | some d =>
    cases d with
    | nil => exact same (by rintro ⟨_, is, filled⟩; exact filled (Option.some.inj is).symm)
    | cons c rest => rfl

theorem getD_alike {α : Type} {o : Option α} {a b : α} (same : ¬o.isSome → a = b) : o.getD a = o.getD b := by
  cases o with
  | none => exact same Bool.false_ne_true
  | some x => rfl

/-- Settings with what a call overrides. -/
def Invocation.overriding (inv : Invocation) (base : Settings) : Settings :=
  { base with
    debug := inv.debug || base.debug
    layout := { baseDir := chosen inv.given.baseDir base.layout.baseDir }
    templating := { base.templating with
      dir := chosen inv.given.templatesDir base.templating.dir
      cacheSize := inv.given.cacheSize.getD base.templating.cacheSize
      staticallyCompile := inv.given.static.getD base.templating.staticallyCompile } }

theorem settings_eq (env : Environment) (inv : Invocation) :
    settings env inv = (Settings.ofEnvironment env).bind fun base => (inv.overriding base).validate :=
  rfl

/-! ### Presets -/

section Preset

variable (env : Environment) (debug : Bool) (layout : LayoutChoices) (templating : TemplatingChoices)
  (logging : LoggingChoices)

/-- The size of the cache in a preset. -/
def presetSize : Except Failure Int :=
  match templating.cacheSize with
  | some size => .ok size
  | none => env.integer "TEMPLAR_CACHE_SIZE" "100"

/-- A preset with the size of its cache, before it is validated. -/
def presetOf (size : Int) : Settings where
  debug
  layout := .choose env layout
  templating := {
    dir := templating.dir.getD (env.getD "TEMPLAR_TEMPLATES_DIR" "templates")
    cacheSize := size
    staticallyCompile := templating.staticallyCompile.getD (env.flag "TEMPLAR_STATIC_COMPILE")
    autoEscape := templating.autoEscape.getD true
    strictUndefined := templating.strictUndefined.getD true
    trimBlocks := templating.trimBlocks.getD false
    lstripBlocks := templating.lstripBlocks.getD false
    keepTrailingNewline := templating.keepTrailingNewline.getD false
    encoding := templating.encoding.getD "utf-8"
    maxRenderDepth := templating.maxRenderDepth.getD 32
    singleFlight := templating.singleFlight.getD (env.flag "TEMPLAR_SINGLE_FLIGHT") }
  logging := .choose env logging

theorem choose_eq : Settings.choose env (some debug) layout templating logging =
    (presetSize env templating).bind fun size => (presetOf env debug layout templating logging size).validate := by
  rw [Settings.choose, TemplatingSettings.choose, presetSize]
  cases templating.cacheSize with
  | some size => rfl
  | none => cases env.integer "TEMPLAR_CACHE_SIZE" "100" <;> rfl

variable {env debug layout templating logging}

theorem valid_of_choose {s : Settings} (is : Settings.choose env (some debug) layout templating logging = .ok s) :
    ∃ n, presetSize env templating = .ok n ∧ (presetOf env debug layout templating logging n).templating.Valid := by
  rw [choose_eq] at is
  obtain ⟨n, sized, validated⟩ := ok_of_bind is
  exact ⟨n, sized, (Settings.valid_of_validate validated).1⟩

end Preset

theorem ofEnvironment_eq (env : Environment) : Settings.ofEnvironment env =
    if Given.presetName env = "development" then Settings.development env
    else if Given.presetName env = "testing" then Settings.testing env else Settings.production env :=
  rfl

/-! ### Environments that agree -/

/-- Presets fail alike, or leave a call the same settings. -/
def PresetsAlike (inv : Invocation) (x x' : Except Failure Settings) : Prop :=
  (∃ f, x = .error f ∧ x' = .error f) ∨
  ∃ s s', x = .ok s ∧ x' = .ok s' ∧ inv.overriding s = inv.overriding s'

/-- The size that production takes from an environment is one. -/
def Sized (env : Environment) : Prop :=
  ∃ n, env.integer "TEMPLAR_CACHE_SIZE" "100" = .ok n ∧ 0 ≤ n

section Agree

variable {inv : Invocation} {env env' : Environment} (agree : inv.given.Agree env env')

include agree

theorem getD_of_agree {name : Text} (default : Text) (asked : ¬inv.given.Overrides name) :
    env.getD name default = env'.getD name default := by
  rw [Environment.getD, Environment.getD, agree name asked]

/-- A variable that no call overrides. -/
theorem get?_of_other {name : Text} (other : name ∉ [("TEMPLAR_BASE_DIR" : Text), "TEMPLAR_TEMPLATES_DIR",
    "TEMPLAR_CACHE_SIZE", "TEMPLAR_STATIC_COMPILE"]) : env.get? name = env'.get? name := by
  refine agree name ?_
  rintro (⟨rfl, -⟩ | ⟨rfl, -⟩ | ⟨rfl, -⟩ | ⟨rfl, -⟩) <;> exact other (by decide)

theorem presetName_of_agree : Given.presetName env = Given.presetName env' := by
  rw [Given.presetName, Given.presetName, Environment.getD, Environment.getD, get?_of_other agree (by decide)]

theorem presetSize_of_agree {templating : TemplatingChoices}
    (size : templating.cacheSize = none → inv.given.cacheSize.isSome → Sized env ∧ Sized env') :
    presetSize env templating = presetSize env' templating ∨ inv.given.cacheSize.isSome ∧
      ∃ n n', presetSize env templating = .ok n ∧ presetSize env' templating = .ok n' ∧ 0 ≤ n ∧ 0 ≤ n' := by
  rw [presetSize, presetSize]
  cases own : templating.cacheSize with
  | some n => exact .inl rfl
  | none =>
    by_cases given : inv.given.cacheSize.isSome
    · obtain ⟨⟨n, is, large⟩, n', is', large'⟩ := size own given
      exact .inr ⟨given, n, n', is, is', large, large'⟩
    · have asked : ¬inv.given.Overrides "TEMPLAR_CACHE_SIZE" := by
        rintro (⟨is, -⟩ | ⟨is, -⟩ | ⟨-, is⟩ | ⟨is, -⟩)
        · exact absurd is (by decide)
        · exact absurd is (by decide)
        · exact given is
        · exact absurd is (by decide)
      refine .inl ?_
      simp only [Environment.integer, getD_of_agree agree _ asked]

/-- The directory of a preset is overridden, or it is the same. -/
theorem dir_of_agree {d : Option Text} (dir : d = none → Given.Filled inv.given.templatesDir →
      env.get? "TEMPLAR_TEMPLATES_DIR" ≠ some [] ∧ env'.get? "TEMPLAR_TEMPLATES_DIR" ≠ some []) :
    let t := d.getD (env.getD "TEMPLAR_TEMPLATES_DIR" "templates")
    let t' := d.getD (env'.getD "TEMPLAR_TEMPLATES_DIR" "templates")
    t.isEmpty = t'.isEmpty ∧ (¬Given.Filled inv.given.templatesDir → t = t') := by
  cases d with
  | some d => exact ⟨rfl, fun _ => rfl⟩
  | none =>
    by_cases given : Given.Filled inv.given.templatesDir
    · have filled {e : Environment} (named : e.get? "TEMPLAR_TEMPLATES_DIR" ≠ some []) :
          (e.getD "TEMPLAR_TEMPLATES_DIR" "templates").isEmpty = false := by
        rw [Environment.getD]
        cases is : e.get? "TEMPLAR_TEMPLATES_DIR" with
        | none => rfl
        | some t =>
          cases t with
          | nil => exact absurd is named
          | cons c rest => rfl
      obtain ⟨named, named'⟩ := dir rfl given
      exact ⟨(filled named).trans (filled named').symm, fun other => absurd given other⟩
    · have asked : ¬inv.given.Overrides "TEMPLAR_TEMPLATES_DIR" := by
        rintro (⟨is, -⟩ | ⟨-, is⟩ | ⟨is, -⟩ | ⟨is, -⟩)
        · exact absurd is (by decide)
        · exact given is
        · exact absurd is (by decide)
        · exact absurd is (by decide)
      have same := getD_of_agree agree "templates" asked
      exact ⟨congrArg List.isEmpty same, fun _ => same⟩

/-- **A preset in environments that agree**, if neither spoils what is overridden. -/
theorem choose_alike (debug : Bool) (layout : LayoutChoices) {templating : TemplatingChoices}
    (logging : LoggingChoices) (static : templating.staticallyCompile.isSome)
    (size : templating.cacheSize = none → inv.given.cacheSize.isSome → Sized env ∧ Sized env')
    (dir : templating.dir = none → Given.Filled inv.given.templatesDir →
      env.get? "TEMPLAR_TEMPLATES_DIR" ≠ some [] ∧ env'.get? "TEMPLAR_TEMPLATES_DIR" ≠ some []) :
    PresetsAlike inv (Settings.choose env (some debug) layout templating logging)
      (Settings.choose env' (some debug) layout templating logging) := by
  rw [choose_eq, choose_eq]
  obtain ⟨empty, named⟩ := dir_of_agree agree dir
  have based : ¬Given.Filled inv.given.baseDir →
      env.getD "TEMPLAR_BASE_DIR" "." = env'.getD "TEMPLAR_BASE_DIR" "." := by
    refine fun other => getD_of_agree agree _ ?_
    rintro (⟨-, is⟩ | ⟨is, -⟩ | ⟨is, -⟩ | ⟨is, -⟩)
    · exact other is
    · exact absurd is (by decide)
    · exact absurd is (by decide)
    · exact absurd is (by decide)
  have flight : env.flag "TEMPLAR_SINGLE_FLIGHT" = env'.flag "TEMPLAR_SINGLE_FLIGHT" := by
    rw [Environment.flag, Environment.flag, get?_of_other agree (by decide)]
  have file : env.get? "LOG_FILE" = env'.get? "LOG_FILE" := get?_of_other agree (by decide)
  have level : env.getD "LOG_LEVEL" "INFO" = env'.getD "LOG_LEVEL" "INFO" := by
    rw [Environment.getD, Environment.getD, get?_of_other agree (by decide)]
  obtain ⟨compiled, static⟩ := Option.isSome_iff_exists.mp static
  -- with sizes that are both none or both of use, the presets are refused alike
  have sized {n n' : Int} (sizes : n = n' ∨ inv.given.cacheSize.isSome ∧ 0 ≤ n ∧ 0 ≤ n') :
      PresetsAlike inv (presetOf env debug layout templating logging n).validate
        (presetOf env' debug layout templating logging n').validate := by
    obtain fails | ⟨valid, valid'⟩ := @Settings.validate_alike (presetOf env debug layout templating logging n)
      (presetOf env' debug layout templating logging n') (sizes.imp_right And.right) rfl empty rfl
    · exact .inl fails
    have size : inv.given.cacheSize.getD n = inv.given.cacheSize.getD n' :=
      getD_alike fun other => sizes.resolve_right fun given => other given.1
    have dir := chosen_alike named
    have base : chosen inv.given.baseDir (layout.baseDir.getD (env.getD "TEMPLAR_BASE_DIR" ".")) =
        chosen inv.given.baseDir (layout.baseDir.getD (env'.getD "TEMPLAR_BASE_DIR" ".")) :=
      chosen_alike fun other => by rw [based other]
    refine .inr ⟨_, _, valid, valid', ?_⟩
    simp only [Invocation.overriding, presetOf, LayoutSettings.choose, LoggingSettings.choose, static,
      Option.getD_some, flight, file, level, size, dir, base]
  obtain same | ⟨given, n, n', is, is', large⟩ := presetSize_of_agree agree size
  · rw [same]
    cases presetSize env' templating with
    | error f => exact .inl ⟨f, rfl, rfl⟩
    | ok n => exact sized (.inl rfl)
  · rw [is, is']
    exact sized (.inr ⟨given, large⟩)

/-- **Environments that agree** give a call the same settings, or fail alike, if neither is spoiled. -/
theorem settings_of_agree (sound : ¬inv.given.Spoiled env) (sound' : ¬inv.given.Spoiled env') :
    settings env inv = settings env' inv := by
  have name := presetName_of_agree agree
  have dirs (read : Given.presetName env ≠ "testing") (given : Given.Filled inv.given.templatesDir) :
      env.get? "TEMPLAR_TEMPLATES_DIR" ≠ some [] ∧ env'.get? "TEMPLAR_TEMPLATES_DIR" ≠ some [] :=
    ⟨fun empty => sound (.dir given read empty), fun empty => sound' (.dir given (name ▸ read) empty)⟩
  have alike : PresetsAlike inv (Settings.ofEnvironment env) (Settings.ofEnvironment env') := by
    rw [ofEnvironment_eq, ofEnvironment_eq, ← name]
    by_cases development : Given.presetName env = "development"
    · rw [if_pos development, if_pos development]
      have read : Given.presetName env ≠ "testing" := by
        rw [development]
        decide
      exact choose_alike agree true {} _ rfl (fun none => by cases none) fun _ => dirs read
    rw [if_neg development, if_neg development]
    by_cases testing : Given.presetName env = "testing"
    · rw [if_pos testing, if_pos testing]
      exact choose_alike agree true _ _ rfl (fun none => by cases none) fun none => by cases none
    rw [if_neg testing, if_neg testing]
    refine choose_alike agree false {} _ rfl (fun _ given => ?_) fun _ => dirs testing
    have production : Given.presetName env ∉ [("development" : Text), "testing"] := by
      simp only [List.mem_cons, List.not_mem_nil, or_false, not_or]
      exact ⟨development, testing⟩
    have sized {e : Environment} (production : Given.presetName e ∉ [("development" : Text), "testing"])
        (sound : ¬inv.given.Spoiled e) : Sized e := by
      by_contra unsized
      exact sound (.size given production fun n is => Int.not_le.mp fun large => unsized ⟨n, is, large⟩)
    exact ⟨sized production sound, sized (name ▸ production) sound'⟩
  rw [settings_eq, settings_eq]
  obtain ⟨f, fails, fails'⟩ | ⟨s, s', is, is', same⟩ := alike
  · rw [fails, fails']
  · rw [is, is']
    exact congrArg Settings.validate same

end Agree

/-- **A spoiled environment** has no preset, so a call has no settings. -/
theorem settings_of_spoiled {inv : Invocation} {env : Environment} (spoiled : inv.given.Spoiled env) :
    ∃ f, settings env inv = .error f ∧ f.kind = .configuration := by
  cases preset : Settings.ofEnvironment env with
  | error f =>
    refine ⟨f, ?_, (Settings.preset_of_environment env).2 f preset⟩
    rw [settings_eq, preset]
    rfl
  | ok s =>
    exfalso
    rw [ofEnvironment_eq] at preset
    cases spoiled with
    | size given production bad =>
      simp only [List.mem_cons, List.not_mem_nil, or_false, not_or] at production
      rw [if_neg production.1, if_neg production.2] at preset
      obtain ⟨n, sized, valid⟩ := valid_of_choose preset
      exact Int.not_le.mpr (bad n sized) valid.size
    | dir given read empty =>
      have nameless (valid : env.getD "TEMPLAR_TEMPLATES_DIR" "templates" ≠ []) : False :=
        valid (congrArg (Option.getD · _) empty)
      by_cases development : Given.presetName env = "development"
      · rw [if_pos development] at preset
        obtain ⟨n, -, valid⟩ := valid_of_choose preset
        exact nameless valid.dir
      · rw [if_neg development, if_neg read] at preset
        obtain ⟨n, -, valid⟩ := valid_of_choose preset
        exact nameless valid.dir

/-! ### Calls -/

section Calls

open Shell

variable (around : Surroundings) {inv : Invocation} {env' : Environment}

/-- What a call does depends on the environment by its settings only. -/
theorem execute_of_settings (command : Command)
    (same : settings around.environment inv = settings env' inv) :
    execute around inv command = execute { around with environment := env' } inv command := by
  have rendering (model : List (Text × Model)) :
      renderCommand around inv model = renderCommand { around with environment := env' } inv model := by
    rw [renderCommand, renderCommand, withSettings, withSettings, same]
    rfl
  have page (model : List (Text × Model)) :
      errorCommand around inv model = errorCommand { around with environment := env' } inv model := by
    rw [errorCommand, errorCommand, withSettings, withSettings, same]
    rfl
  rw [execute, execute]
  refine congrArg (loadModel around.modelDepth inv.given >>= ·) (funext fun model => ?_)
  cases command <;> simp only [rendering, page]

/-- A call without settings ends for want of them, unless its model ends it before. -/
theorem execute_of_unset (command : Command) {f : Failure}
    (fails : settings around.environment inv = .error f) (kind : f.kind = .configuration) (w : World) :
    ∃ ending w', (execute around inv command).run w = (ending, w') ∧ Kept w w' ∧
      (ending = .ok .usage ∨
        ∃ f, ending = .error f ∧ inv.given.readModel around.modelDepth w.tree = .error f) := by
  have listed (found : List Text) : ∃ ending w', (do
      Shell.complainLine "Validation errors:"
      for problem in found do
        Shell.complainLine ("  - " ++ problem)
      pure .usage : Shell ExitCode).run w = (ending, w') ∧ Kept w w' ∧ (ending = .ok .usage ∨
        ∃ f, ending = .error f ∧ inv.given.readModel around.modelDepth w.tree = .error f) := by
    obtain ⟨w', ran, kept⟩ := kept_of_problems found w
    exact ⟨_, w', ran, kept, .inl rfl⟩
  rw [execute, run_bind, run_loadModel]
  cases read : inv.given.readModel around.modelDepth w.tree with
  | error f => exact ⟨.error f, w, rfl, ⟨rfl, rfl⟩, .inr ⟨f, rfl, rfl⟩⟩
  | ok m =>
    rw [read] at listed
    cases m with
    | error e => exact listed (problems inv.given (.error e))
    | ok model =>
      dsimp only
      cases found : problems inv.given (.ok model) with
      | cons p rest => exact listed (p :: rest)
      | nil =>
        obtain ⟨w', told⟩ := tells_complainLine ("Configuration error: " ++ f.message) w
        have stops (k : Settings → Shell ExitCode) : (withSettings around inv k).run w = (.ok .usage, w') := by
          rw [withSettings, fails]
          dsimp only
          rw [if_pos kind]
          exact run_bind_ok told.1
        refine ⟨.ok .usage, w', ?_, .of_tells told, .inl rfl⟩
        cases command with
        | render => exact stops _
        | error => exact stops _

/-- **What the command line gives decides.** Let two environments differ only in variables whose settings a call
gives itself. If neither is spoiled by such a variable, both give the call the same settings, or fail alike, and the
call does the same in both, whatever the files are. In an environment that is spoiled, the call has no settings: it
ends as one that cannot be set up, or by a failure to read its model, and files and output are as they were. -/
theorem overrides_decide {arguments : List Text} (accepted : Invocation.ofArguments arguments = .ok inv)
    (agree : inv.given.Agree around.environment env') :
    (¬inv.given.Spoiled around.environment → ¬inv.given.Spoiled env' →
      settings around.environment inv = settings env' inv ∧
      run around arguments = run { around with environment := env' } arguments) ∧
    (inv.given.Spoiled around.environment →
      (∃ f, settings around.environment inv = .error f ∧ f.kind = .configuration) ∧
      (inv.command ≠ none → ∀ w, ∃ ending w', (run around arguments).run w = (ending, w') ∧ Kept w w' ∧
        (ending = .ok .usage ∨
          ∃ f, ending = .error f ∧ inv.given.readModel around.modelDepth w.tree = .error f))) := by
  constructor
  · intro sound sound'
    have same := settings_of_agree agree sound sound'
    refine ⟨same, ?_⟩
    rw [run, run, accepted]
    dsimp only
    cases inv.command with
    | none => rfl
    | some command => exact execute_of_settings around command same
  · intro spoiled
    obtain ⟨f, fails, kind⟩ := settings_of_spoiled spoiled
    refine ⟨⟨f, fails, kind⟩, fun asked w => ?_⟩
    obtain ⟨command, named⟩ := Option.ne_none_iff_exists'.mp asked
    rw [run, accepted]
    dsimp only
    rw [named]
    exact execute_of_unset around command fails kind w

/-- A call that gives the size of the cache does not ask for it, but cannot do with one that is no integer. -/
theorem overrides_decide_size :
    let around (size : Text) : Surroundings :=
      { environment := [("TEMPLAR_CACHE_SIZE", size)], workingDirectory := "/" }
    let arguments : List Text := ["render", "x", "--cache-size", "5"]
    run (around "7") arguments = run (around "9") arguments ∧
      ∀ w, ∃ ending w', (run (around "abc") arguments).run w = (ending, w') ∧ Kept w w' := by
  intro around arguments
  let inv : Invocation := ⟨false, some .render, { name := some "x", cacheSize := some 5, flags := [.cacheSize] }⟩
  have accepted : Invocation.ofArguments arguments = .ok inv := by decide +kernel
  have agree (size size' : Text) : inv.given.Agree (around size).environment (around size').environment := by
    intro name asked
    have other : (name == "TEMPLAR_CACHE_SIZE") = false :=
      beq_eq_false_iff_ne.mpr fun is => asked (.inr (.inr (.inl ⟨is, rfl⟩)))
    simp only [Environment.get?, around, List.lookup_cons, other]
  have sound {size : Text} {n : Int} (is : (around size).environment.integer "TEMPLAR_CACHE_SIZE" "100" = .ok n)
      (large : 0 ≤ n) : ¬inv.given.Spoiled (around size).environment := by
    rintro (⟨-, -, bad⟩ | ⟨⟨d, given, -⟩, -, -⟩)
    · exact Int.not_le.mpr (bad n is) large
    · cases given
  have seven : (around "7").environment.integer "TEMPLAR_CACHE_SIZE" "100" = .ok 7 := by decide +kernel
  have nine : (around "9").environment.integer "TEMPLAR_CACHE_SIZE" "100" = .ok 9 := by decide +kernel
  have unread : ((around "abc").environment.integer "TEMPLAR_CACHE_SIZE" "100").toOption = none := by decide +kernel
  have spoiled : inv.given.Spoiled (around "abc").environment := by
    refine .size rfl (by decide +kernel) fun n is => ?_
    rw [is] at unread
    cases unread
  refine ⟨((overrides_decide (around "7") accepted (agree "7" "9")).1 (sound seven (by decide))
    (sound nine (by decide))).2, fun w => ?_⟩
  obtain ⟨ending, w', ran, kept, -⟩ := ((overrides_decide (around "abc") accepted (agree "abc" "7")).2 spoiled).2
    (Option.some_ne_none _) w
  exact ⟨ending, w', ran, kept⟩

/-- A size that is no integer ends a call that gives the size itself. -/
theorem overridden_size_refused :
    let inv : Invocation := ⟨false, some .render, { name := some "x", cacheSize := some 5, flags := [.cacheSize] }⟩
    Invocation.ofArguments ["render", "x", "--cache-size", "5"] = .ok inv ∧
      inv.given.Agree [("TEMPLAR_CACHE_SIZE", "abc")] [] ∧
      (∃ f, settings [("TEMPLAR_CACHE_SIZE", "abc")] inv = .error f ∧ f.kind = .configuration) ∧
      ∃ s, settings [] inv = .ok s ∧ s.templating.cacheSize = 5 := by
  intro inv
  let env : Environment := [("TEMPLAR_CACHE_SIZE", "abc")]
  have unread : (env.integer "TEMPLAR_CACHE_SIZE" "100").toOption = none := by decide +kernel
  have spoiled : inv.given.Spoiled env := by
    refine .size rfl (by decide +kernel) fun n is => ?_
    rw [is] at unread
    cases unread
  refine ⟨by decide +kernel, fun name asked => ?_, settings_of_spoiled spoiled, _, rfl, rfl⟩
  have other : (name == "TEMPLAR_CACHE_SIZE") = false :=
    beq_eq_false_iff_ne.mpr fun is => asked (.inr (.inr (.inl ⟨is, rfl⟩)))
  simp only [Environment.get?, List.lookup_cons, other, List.lookup_nil]

end Calls

end CommandLine

end Stencil
