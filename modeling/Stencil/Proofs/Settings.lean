import Stencil.CommandLine.Run
import Stencil.Proofs.Settings.Validity

/-!
# The settings of a call

The environment chooses one of the presets, and a call overrides some of it. Neither says anything about
the encoding, the depth of nesting, the format of the log or its level, so these are always as the presets
have them.

## Main definitions

- `Settings.Preset` — settings as the presets leave them

## Main results

- `CommandLine.preset_of_settings` — the settings of a call are like this
- `CommandLine.settings_fails` — a call without settings fails as their validation does
-/

namespace Stencil

namespace Settings

/-- The presets leave the encoding, the depth of nesting and the format of the log as they are by default,
and they choose the level of the log themselves. -/
structure Preset (s : Settings) : Prop where
  encoding : s.templating.encoding = "utf-8"
  depth : s.templating.maxRenderDepth = 32
  format : s.logging.format = "%(asctime)s - %(name)s - %(levelname)s - %(message)s"
  level : s.logging.level ∈ ["DEBUG", "WARNING", "ERROR"].map Text.ofString

section Choice

variable {env : Environment} {debug : Option Bool} {layout : LayoutChoices}
  {templating : TemplatingChoices} {logging : LoggingChoices}

/-- What presets choose. -/
theorem preset_of_choose (encoding : templating.encoding = none) (depth : templating.maxRenderDepth = none)
    (size : ∀ n, templating.cacheSize = some n → 0 ≤ n) (format : logging.format = none)
    (level : ∃ l ∈ ["DEBUG", "WARNING", "ERROR"].map Text.ofString, logging.level = some l) :
    (∀ s, choose env debug layout templating logging = .ok s → s.Preset) ∧
      ∀ f, choose env debug layout templating logging = .error f → f.kind = .configuration := by
  refine ⟨fun s chosen => ?_, fun f fails => ?_⟩
  · obtain ⟨t, parts, validated⟩ := ok_of_bind chosen
    obtain rfl := (valid_of_validate validated).2
    obtain ⟨t', parts', inForce⟩ | ⟨⟨f, fails, -⟩, -⟩ := TemplatingSettings.choose_cases env templating
    · obtain rfl := Except.ok.inj (parts.symm.trans parts')
      obtain ⟨l, mem, is⟩ := level
      refine ⟨?_, ?_, ?_, ?_⟩
      · exact inForce.encoding.trans (by rw [encoding]; rfl)
      · exact inForce.depth.trans (by rw [depth]; rfl)
      · change logging.format.getD _ = _
        rw [format]
        rfl
      · change logging.level.getD _ ∈ _
        rw [is]
        exact mem
    · cases fails.symm.trans parts
  · obtain ⟨s, is, -⟩ | ⟨⟨f', is, kind⟩, -⟩ | ⟨-, t, inForce, unsayable⟩ :=
      choose_cases env debug layout templating logging
    · cases is.symm.trans fails
    · exact Except.error.inj (is.symm.trans fails) ▸ kind
    · exact absurd unsayable (inForce.sayable size depth encoding)

end Choice

theorem preset_of_environment (env : Environment) :
    (∀ s, ofEnvironment env = .ok s → s.Preset) ∧
      ∀ f, ofEnvironment env = .error f → f.kind = .configuration := by
  rw [ofEnvironment]
  split
  · exact preset_of_choose rfl rfl (fun n is => by cases is; decide) rfl ⟨_, by simp, rfl⟩
  split
  · exact preset_of_choose rfl rfl (fun n is => by cases is; decide) rfl ⟨_, by simp, rfl⟩
  · exact preset_of_choose rfl rfl (fun n is => by cases is) rfl ⟨_, by simp, rfl⟩

namespace Preset

variable {s : Settings} (preset : s.Preset)

include preset

/-- The log of a preset can be configured. -/
theorem configuration (workingDirectory : Text) (debug : Bool) :
    ∃ c, Logging.configuration workingDirectory s.logging debug = .ok c := by
  have valid : Logging.isValidFormat "%(asctime)s - %(name)s - %(levelname)s - %(message)s" = true := by
    decide +kernel
  have level : ∃ n, Logging.resolveLevel s.logging.level = .number n := by
    have mem := preset.level
    simp only [List.map_cons, List.map_nil, List.mem_cons, List.not_mem_nil, or_false] at mem
    obtain is | is | is := mem
    · exact ⟨10, is ▸ rfl⟩
    · exact ⟨30, is ▸ rfl⟩
    · exact ⟨40, is ▸ rfl⟩
  obtain ⟨n, level⟩ := level
  rw [Logging.configuration, preset.format]
  change ∃ c, (do
    if !Logging.isValidFormat "%(asctime)s - %(name)s - %(levelname)s - %(message)s" then _
    _ : Except Failure _) = _
  rw [valid, level]
  cases debug <;> exact ⟨_, rfl⟩

end Preset

end Settings

namespace CommandLine

/-- **The settings of a call** are those of a preset as far as the call does not override them. -/
theorem preset_of_settings {env : Environment} {inv : Invocation} {s : Settings}
    (is : settings env inv = .ok s) : s.Preset ∧ s.validate = .ok s := by
  obtain ⟨base, from_, valid⟩ := ok_of_bind is
  obtain rfl := (Settings.valid_of_validate valid).2
  have preset := (Settings.preset_of_environment env).1 base from_
  exact ⟨⟨preset.encoding, preset.depth, preset.format, preset.level⟩, valid⟩

/-- The environment gives valid settings, if any. -/
theorem valid_of_environment {env : Environment} {s : Settings} (is : Settings.ofEnvironment env = .ok s) :
    s.templating.Valid := by
  obtain ⟨debug, layout, logging, chosen⟩ := Settings.Recipe.settings_eq_choose env .ofEnvironment
  obtain ⟨t, -, validated⟩ := ok_of_bind (chosen.symm.trans is)
  obtain ⟨valid, rfl⟩ := Settings.valid_of_validate validated
  exact valid

/-- **A call without settings** fails as a configuration, if it does not choose a negative size itself. -/
theorem settings_fails {env : Environment} {inv : Invocation} {f : Failure}
    (size : ∀ n, inv.given.cacheSize = some n → 0 ≤ n) (fails : settings env inv = .error f) :
    f.kind = .configuration := by
  obtain fails | ⟨base, from_, fails⟩ := error_of_bind fails
  · exact (Settings.preset_of_environment env).2 f fails
  have preset := (Settings.preset_of_environment env).1 base from_
  obtain ⟨-, is⟩ | ⟨-, -, f', is, kind⟩ | ⟨unsayable, -⟩ := Settings.validate_cases _
  · cases is.symm.trans fails
  · exact Except.error.inj (is.symm.trans fails) ▸ kind
  -- the size, the depth and the encoding are all as they should be
  exfalso
  obtain ⟨small, -⟩ | ⟨-, shallow, -⟩ | ⟨-, -, -, unspoken⟩ := unsayable
  · change inv.given.cacheSize.getD base.templating.cacheSize < 0 at small
    cases given : inv.given.cacheSize with
    | none =>
      rw [given] at small
      exact absurd (valid_of_environment from_).size (Int.not_le.mpr small)
    | some n =>
      rw [given] at small
      exact absurd (size n given) (Int.not_le.mpr small)
  · change base.templating.maxRenderDepth < 1 at shallow
    rw [preset.depth] at shallow
    exact absurd shallow (by decide)
  · exact (Encoding.accepted_iff.mp (valid_of_environment from_).encoding).1 unspoken

end CommandLine

end Stencil
