import Stencil.Proofs.CommandLine.Overrides
import Stencil.Proofs.Logging

/-!
# The level of the log

A level can be any text, and all but the spellings of two names configure the log. A call is safe from these two, as it
never asks the environment for a level: each preset brings its own.

## Main definitions

- `Environment.AgreeButLevel` — environments that may differ in the level of the log

## Main results

- `settings_of_level` — the settings of a call do not depend on that variable
- `levels_configure_logging` — what a level comes to, and that no call depends on it
-/

namespace Stencil

/-- Environments that say the same, but perhaps of the level of the log. -/
def Environment.AgreeButLevel (env env' : Environment) : Prop :=
  ∀ name, name ≠ ("LOG_LEVEL" : Text) → env.get? name = env'.get? name

namespace CommandLine

section Level

variable {env env' : Environment} (agree : env.AgreeButLevel env')

include agree

theorem getD_of_level {name : Text} (default : Text) (other : name ≠ ("LOG_LEVEL" : Text)) :
    env.getD name default = env'.getD name default := by
  rw [Environment.getD, Environment.getD, agree name other]

theorem flag_of_level {name : Text} (other : name ≠ ("LOG_LEVEL" : Text)) : env.flag name = env'.flag name := by
  rw [Environment.flag, Environment.flag, agree name other]

theorem integer_of_level {name : Text} (default : Text) (other : name ≠ ("LOG_LEVEL" : Text)) :
    env.integer name default = env'.integer name default := by
  rw [Environment.integer, Environment.integer, getD_of_level agree default other]

/-- Settings with a level of their own do not depend on the variable. -/
theorem choose_of_level (debug : Option Bool) (layout : LayoutChoices) (templating : TemplatingChoices)
    {logging : LoggingChoices} (level : logging.level.isSome) :
    Settings.choose env debug layout templating logging = Settings.choose env' debug layout templating logging := by
  have layouts : LayoutSettings.choose env layout = LayoutSettings.choose env' layout := by
    rw [LayoutSettings.choose, LayoutSettings.choose, getD_of_level agree _ (by decide)]
  have templatings : TemplatingSettings.choose env templating = TemplatingSettings.choose env' templating := by
    rw [TemplatingSettings.choose, TemplatingSettings.choose, integer_of_level agree _ (by decide),
      getD_of_level agree _ (by decide), flag_of_level agree (by decide), flag_of_level agree (by decide)]
  have loggings : LoggingSettings.choose env logging = LoggingSettings.choose env' logging := by
    obtain ⟨l, level⟩ := Option.isSome_iff_exists.mp level
    rw [LoggingSettings.choose, LoggingSettings.choose, level, agree "LOG_FILE" (by decide)]
    rfl
  rw [Settings.choose, Settings.choose, layouts, templatings, loggings, flag_of_level agree (by decide)]

/-- Every preset has a level of its own. -/
theorem ofEnvironment_of_level : Settings.ofEnvironment env = Settings.ofEnvironment env' := by
  have development : Settings.development env = Settings.development env' := choose_of_level agree _ _ _ rfl
  have testing : Settings.testing env = Settings.testing env' := choose_of_level agree _ _ _ rfl
  have production : Settings.production env = Settings.production env' := choose_of_level agree _ _ _ rfl
  rw [ofEnvironment_eq, ofEnvironment_eq, Given.presetName, Given.presetName, getD_of_level agree _ (by decide),
    development, testing, production]

/-- **The settings of a call** do not depend on the variable. -/
theorem settings_of_level (inv : Invocation) : settings env inv = settings env' inv := by
  rw [settings_eq, settings_eq, ofEnvironment_of_level agree]

end Level

/-- **What a call does** does not depend on the variable. -/
theorem run_of_level (around : Surroundings) {env' : Environment} (agree : around.environment.AgreeButLevel env')
    (arguments : List Text) : run around arguments = run { around with environment := env' } arguments := by
  rw [run, run]
  cases Invocation.ofArguments arguments with
  | error e => cases e <;> rfl
  | ok inv =>
    dsimp only
    cases inv.command with
    | none => rfl
    | some command => exact execute_of_settings around command (settings_of_level agree inv)

/-- **Every level configures the log, but for the spellings of two names.** Let debugging be off. If the file of the
log cannot be opened, that is how configuring ends. If it can, and the format of the log is one, a level comes to what
its capitals are the name of, or to `INFO` if they are not the name of one; only the texts that spell `BASIC_FORMAT` or
`_STYLES` are refused, as values that are no levels. There is a format if none is chosen, whatever the environment says.
No call is stopped by a level: the log of its settings can always be configured, and it does the same whatever the
environment says of the level. -/
theorem levels_configure_logging (tree : FileTree) (s : LoggingSettings) (around : Surroundings) (env' : Environment)
    (arguments : List Text) :
    (∀ f, Logging.openFile tree s = .error f → Logging.configure tree s false = .error f) ∧
    (∀ opened, Logging.openFile tree s = .ok opened →
      (¬s.Formed → ∃ f, Logging.configure tree s false = .error f ∧ f.kind = .badValue) ∧
      (s.Formed →
        (¬s.level.Spelling "BASIC_FORMAT" → ¬s.level.Spelling "_STYLES" →
          ∃ level, Logging.StandsFor s.level.upper level ∧ Logging.configure tree s false =
            .ok (⟨level, s.form, Logging.logFile? tree.workingDirectory s⟩, opened)) ∧
        (s.level.Spelling "BASIC_FORMAT" →
          Logging.configure tree s false = .error (Logging.unknownLevel Logging.basicFormat)) ∧
        (s.level.Spelling "_STYLES" → ∃ f, Logging.configure tree s false = .error f ∧ f.kind = .wrongType))) ∧
    (LoggingSettings.choose around.environment {}).Formed ∧
    (∀ inv t, settings around.environment inv = .ok t →
      ∃ c, Logging.configuration around.workingDirectory t.logging t.debug = .ok c) ∧
    (around.environment.AgreeButLevel env' →
      run around arguments = run { around with environment := env' } arguments) := by
  refine ⟨fun f fails => ?_, fun opened opens => ?_, LoggingSettings.formed_of_default rfl, ?_, ?_⟩
  · rw [Logging.configure, fails]
    rfl
  · rw [Logging.configure_eq opens]
    constructor
    · intro unformed
      exact ⟨_, if_neg unformed, rfl⟩
    intro formed
    rw [if_pos formed]
    refine ⟨fun format styles => ?_, fun spelling => ?_, fun spelling => ?_⟩
    · obtain ⟨level, stands, is⟩ := Logging.resolveLevel_of_level format styles
      rw [is]
      exact ⟨level, stands, rfl⟩
    · rw [Logging.resolveLevel_of_basicFormat spelling]
    · obtain ⟨f, is, kind⟩ := Logging.resolveLevel_of_styles spelling
      rw [is]
      exact ⟨f, rfl, kind⟩
  · intro inv t is
    exact (preset_of_settings is).1.configuration around.workingDirectory t.debug
  · intro agree
    exact run_of_level around agree arguments

/-- The name of a warning in small letters is a level, and a call does not even ask for a name that is refused. -/
theorem levels_configure_logging_warn :
    let around : Surroundings := { environment := [("LOG_LEVEL", "basic_format")], workingDirectory := "/" }
    Logging.configure {} { level := "warn", file := none } false =
      .ok (⟨Logging.warningLevel, "%(asctime)s - %(name)s - %(levelname)s - %(message)s", none⟩, {}) ∧
    run around ["render", "x"] = run { around with environment := [] } ["render", "x"] := by
  intro around
  obtain ⟨-, configures, -, -, calls⟩ :=
    levels_configure_logging {} { level := "warn", file := none } around [] ["render", "x"]
  constructor
  · obtain ⟨level, stands, is⟩ := ((configures {} rfl).2 (LoggingSettings.formed_of_default rfl)).1
      (mt Text.Spelling.upper_eq (by decide +kernel)) (mt Text.Spelling.upper_eq (by decide +kernel))
    obtain names | ⟨unnamed, -⟩ := stands
    · have only : Logging.namedLevels.lookup (Text.toName (Text.upper "warn")) = some Logging.warningLevel := rfl
      obtain rfl := Option.some.inj (only.symm.trans (Logging.lookup_eq_some_iff_names.mpr names))
      exact is
    · exact absurd Logging.Names.warn (unnamed _)
  · apply calls
    intro name other
    have miss : (name == ("LOG_LEVEL" : Text)) = false := beq_eq_false_iff_ne.mpr other
    simp only [Environment.get?, around, List.lookup_cons, miss]

/-- A level that the environment gives stops the log from being configured. -/
theorem basic_format_not_level :
    let settings := LoggingSettings.choose [("LOG_LEVEL", "basic_format")] {}
    Logging.openFile {} settings = .ok {} ∧
      Logging.configure {} settings false = .error (Logging.unknownLevel Logging.basicFormat) :=
  ⟨rfl, rfl⟩

end CommandLine

end Stencil
