import Stencil.Logging
import Stencil.Proofs.Fallible
import Stencil.Proofs.Text.Capitals

/-!
# What the level of a log may be

A setting gives the level of the log as any text. Its capitals are looked up among all that the log knows by a name,
and two of these are no levels: a text that spells one of the two is refused. Any other text is the level that its
capitals are the name of, or else `INFO`.

## Main definitions

- `Logging.Names` — the names of levels
- `Logging.StandsFor` — the level that a text in capitals stands for
- `LoggingSettings.form`, `LoggingSettings.Formed` — the format that records are written in, and that it is one

## Main results

- `Logging.resolveLevel_of_basicFormat`, `Logging.resolveLevel_of_styles` — the texts that are refused
- `Logging.resolveLevel_of_level` — what all other texts are as levels
- `Logging.configure_eq` — what settings come to without debugging, once the file of the log is open
-/

namespace Stencil

/-- To open a file for appending does not move the working directory. -/
theorem FileTree.workingDirectory_touch {tree t : FileTree} {path : Text} (touched : tree.touch path = .ok t) :
    t.workingDirectory = tree.workingDirectory := by
  obtain ⟨⟨place, found⟩, -, made⟩ := ok_of_bind touched
  cases found with
  | none =>
    obtain rfl := Except.ok.inj made
    rfl
  | some e =>
    cases e with
    | directory => cases made
    | file content =>
      obtain rfl := Except.ok.inj made
      rfl
    | link target =>
      obtain rfl := Except.ok.inj made
      rfl

namespace Logging

/-! ### Levels -/

/-- The names of levels. -/
inductive Names : Text → Int → Prop
  | critical : Names "CRITICAL" criticalLevel
  | fatal : Names "FATAL" criticalLevel
  | error : Names "ERROR" errorLevel
  | warning : Names "WARNING" warningLevel
  | warn : Names "WARN" warningLevel
  | info : Names "INFO" infoLevel
  | debug : Names "DEBUG" debugLevel
  | notset : Names "NOTSET" 0

/-- The name of a level stands for it, and any other text for `INFO`. -/
def StandsFor (name : Text) (level : Int) : Prop :=
  Names name level ∨ (∀ l, ¬Names name l) ∧ level = infoLevel

theorem lookup_eq_some_iff_names {name : Text} {level : Int} :
    namedLevels.lookup name.toName = some level ↔ Names name level := by
  constructor
  · intro found
    have mem : (name.toName, level) ∈ namedLevels := mem_of_lookup_eq_some found
    simp only [namedLevels, List.mem_cons, List.not_mem_nil, or_false, Prod.mk.injEq] at mem
    obtain ⟨is, rfl⟩ | ⟨is, rfl⟩ | ⟨is, rfl⟩ | ⟨is, rfl⟩ | ⟨is, rfl⟩ | ⟨is, rfl⟩ | ⟨is, rfl⟩ | ⟨is, rfl⟩ := mem
    all_goals obtain rfl := (Text.toName_eq_iff (by decide)).mp is
    · exact .critical
    · exact .fatal
    · exact .error
    · exact .warning
    · exact .warn
    · exact .info
    · exact .debug
    · exact .notset
  · intro named
    cases named <;> rfl

/-- The refusal of a text that is not the name of a level. -/
def unknownLevel (t : Text) : Failure :=
  .ofText .badValue ("Unknown level: " ++ t.quoted)

/-- The format that records have unless another one is chosen. -/
def basicFormat : Text :=
  "%(levelname)s:%(name)s:%(message)s"

/-- A spelling of the name of the basic format is refused. -/
theorem resolveLevel_of_basicFormat {t : Text} (spelling : t.Spelling "BASIC_FORMAT") :
    resolveLevel t = .refused (unknownLevel basicFormat) := by
  rw [resolveLevel, spelling.upper_eq]
  rfl

/-- A spelling of the name of the styles is refused. -/
theorem resolveLevel_of_styles {t : Text} (spelling : t.Spelling "_STYLES") :
    ∃ f, resolveLevel t = .refused f ∧ f.kind = .wrongType := by
  rw [resolveLevel, spelling.upper_eq]
  exact ⟨_, rfl, rfl⟩

/-- **Any other text is a level**, the one that its capitals stand for. -/
theorem resolveLevel_of_level {t : Text} (format : ¬t.Spelling "BASIC_FORMAT") (styles : ¬t.Spelling "_STYLES") :
    ∃ level, StandsFor t.upper level ∧ resolveLevel t = .number level := by
  rw [← Text.upper_eq_iff_spelling (by decide), ← Text.toName_eq_iff (by decide)] at format styles
  rw [resolveLevel]
  -- the names of levels come first, and none of them is refused
  cases found : namedLevels.lookup t.upper.toName with
  | some level => exact ⟨level, .inl (lookup_eq_some_iff_names.mp found), rfl⟩
  | none =>
    have unnamed (l : Int) : ¬Names t.upper l := by
      intro named
      rw [lookup_eq_some_iff_names.mpr named] at found
      cases found
    dsimp only
    rw [if_neg format, if_neg styles]
    exact ⟨infoLevel, .inr ⟨unnamed, rfl⟩, rfl⟩

end Logging

/-! ### Settings -/

namespace LoggingSettings

/-- The format of records. Without one, a record is written as its message. -/
def form (s : LoggingSettings) : Text :=
  if s.format.isEmpty then "%(message)s" else s.format

/-- There is a format to write records in. -/
def Formed (s : LoggingSettings) : Prop :=
  Logging.isValidFormat s.form = true

instance (s : LoggingSettings) : Decidable s.Formed :=
  inferInstanceAs (Decidable (Logging.isValidFormat s.form = true))

/-- The format that settings have by default is one. -/
theorem formed_of_default {s : LoggingSettings}
    (default : s.format = "%(asctime)s - %(name)s - %(levelname)s - %(message)s") : s.Formed := by
  rw [Formed, form, default]
  decide +kernel

end LoggingSettings

namespace Logging

variable {tree opened : FileTree} {s : LoggingSettings}

/-- To open the log does not move the working directory. -/
theorem workingDirectory_openFile (opens : openFile tree s = .ok opened) :
    opened.workingDirectory = tree.workingDirectory := by
  rw [openFile] at opens
  cases named : logFile? tree.workingDirectory s with
  | none =>
    rw [named] at opens
    obtain rfl := Except.ok.inj opens
    rfl
  | some path =>
    simp only [named] at opens
    cases unusable : LocalStorage.unusable? path with
    | some f =>
      rw [unusable] at opens
      cases opens
    | none =>
      simp only [unusable] at opens
      cases touched : tree.touch path with
      | error r =>
        rw [touched] at opens
        cases opens
      | ok t =>
        rw [touched] at opens
        obtain rfl := Except.ok.inj opens
        exact FileTree.workingDirectory_touch touched

/-- **What settings come to** without debugging, once the file of the log is open: the format is looked at first, and
then the level. -/
theorem configure_eq (opens : openFile tree s = .ok opened) : configure tree s false =
    if s.Formed then
      match resolveLevel s.level with
      | .number level => .ok (⟨level, s.form, logFile? tree.workingDirectory s⟩, opened)
      | .refused f => .error f
    else .error (.ofText .badValue ("Invalid format '" ++ s.form ++ "' for '%' style")) := by
  rw [configure, opens]
  change (configuration opened.workingDirectory s false >>= fun c => pure (c, opened)) = _
  rw [workingDirectory_openFile opens, configuration]
  change (do
    if !isValidFormat s.form then _
    _ : Except Failure _) >>= _ = _
  by_cases formed : s.Formed
  · rw [if_pos formed, show isValidFormat s.form = true from formed]
    cases resolveLevel s.level <;> rfl
  · rw [if_neg formed, show isValidFormat s.form = false from eq_false_of_ne_true formed]
    rfl

end Logging

end Stencil
