import Stencil.Encoding.Name
import Stencil.Path
import Stencil.Text.Letters
import Stencil.Text.Numeral

/-!
# Settings

The settings of a rendering service. What is not chosen explicitly comes from the environment, and
what the environment does not say has a default.

## Main definitions

- `Settings` — all settings, in the parts `LayoutSettings`, `TemplatingSettings`, `LoggingSettings`
- `TemplatingSettings.choose` — settings from explicit choices and the environment
- `Settings.validate` — the conditions every configuration meets
- `Settings.development`, `Settings.production`, `Settings.testing` — the presets
- `Settings.ofEnvironment` — the preset that the environment names
-/

namespace Stencil

/-- The variables of the environment. -/
abbrev Environment := List (Text × Text)

namespace Environment

/-- The variables that settings ask for. -/
def names : List String := [
  "TEMPLAR_ENV", "TEMPLAR_BASE_DIR", "TEMPLAR_TEMPLATES_DIR", "TEMPLAR_CACHE_SIZE",
  "TEMPLAR_STATIC_COMPILE", "TEMPLAR_SINGLE_FLIGHT", "DEBUG", "LOG_LEVEL", "LOG_FILE"]

def get? (env : Environment) (name : Text) : Option Text :=
  env.lookup name

def getD (env : Environment) (name default : Text) : Text :=
  (env.get? name).getD default

/-- A switch is on if its text is `1`, `true` or `yes` in any case. -/
def flag (env : Environment) (name : Text) : Bool :=
  let value := ((env.get? name).getD []).lower
  value == ("1" : Text) || value == ("true" : Text) || value == ("yes" : Text)

/-- Integers of more digits than this are refused. -/
def digitLimit : Nat := 4300

/-- An integer variable. -/
def integer (env : Environment) (name default : Text) : Except Failure Int :=
  let value := env.getD name default
  let refused : Failure :=
    .ofText .configuration (name ++ " must be an integer, got " ++ value.quoted)
  if digitLimit < Numeral.digitCount value then .error refused
  else match Numeral.readInt? 10 value with
    | some i => .ok i
    | none => .error refused

end Environment

/-- Where the application is. -/
structure LayoutSettings where
  baseDir : Text
  deriving DecidableEq

/-- How templates are found, compiled and cached. -/
structure TemplatingSettings where
  dir : Text
  cacheSize : Int
  staticallyCompile : Bool
  autoEscape : Bool := true
  strictUndefined : Bool := true
  trimBlocks : Bool := false
  lstripBlocks : Bool := false
  keepTrailingNewline : Bool := false
  encoding : Text := "utf-8"
  maxRenderDepth : Int := 32
  singleFlight : Bool
  deriving DecidableEq

/-- What is logged, how and where. -/
structure LoggingSettings where
  level : Text
  format : Text := "%(asctime)s - %(name)s - %(levelname)s - %(message)s"
  file : Option Text
  deriving DecidableEq

structure Settings where
  debug : Bool
  layout : LayoutSettings
  templating : TemplatingSettings
  logging : LoggingSettings
  deriving DecidableEq

/-- Explicit choices for layout settings. -/
structure LayoutChoices where
  baseDir : Option Text := none

/-- Explicit choices for templating settings. -/
structure TemplatingChoices where
  dir : Option Text := none
  cacheSize : Option Int := none
  staticallyCompile : Option Bool := none
  autoEscape : Option Bool := none
  strictUndefined : Option Bool := none
  trimBlocks : Option Bool := none
  lstripBlocks : Option Bool := none
  keepTrailingNewline : Option Bool := none
  encoding : Option Text := none
  maxRenderDepth : Option Int := none
  singleFlight : Option Bool := none

/-- Explicit choices for logging settings; the file may be chosen to be none. -/
structure LoggingChoices where
  level : Option Text := none
  format : Option Text := none
  file : Option (Option Text) := none

namespace LayoutSettings

def choose (env : Environment) (choices : LayoutChoices) : LayoutSettings :=
  { baseDir := choices.baseDir.getD (env.getD "TEMPLAR_BASE_DIR" ".") }

end LayoutSettings

namespace TemplatingSettings

/-- The environment is asked only for what is not chosen. -/
def choose (env : Environment) (choices : TemplatingChoices) :
    Except Failure TemplatingSettings := do
  let cacheSize ← match choices.cacheSize with
    | some size => .ok size
    | none => env.integer "TEMPLAR_CACHE_SIZE" "100"
  pure {
    dir := choices.dir.getD (env.getD "TEMPLAR_TEMPLATES_DIR" "templates")
    cacheSize
    staticallyCompile := choices.staticallyCompile.getD (env.flag "TEMPLAR_STATIC_COMPILE")
    autoEscape := choices.autoEscape.getD true
    strictUndefined := choices.strictUndefined.getD true
    trimBlocks := choices.trimBlocks.getD false
    lstripBlocks := choices.lstripBlocks.getD false
    keepTrailingNewline := choices.keepTrailingNewline.getD false
    encoding := choices.encoding.getD "utf-8"
    maxRenderDepth := choices.maxRenderDepth.getD 32
    singleFlight := choices.singleFlight.getD (env.flag "TEMPLAR_SINGLE_FLIGHT") }

end TemplatingSettings

namespace LoggingSettings

def choose (env : Environment) (choices : LoggingChoices) : LoggingSettings :=
  { level := choices.level.getD (env.getD "LOG_LEVEL" "INFO")
    format := choices.format.getD "%(asctime)s - %(name)s - %(levelname)s - %(message)s"
    file := choices.file.getD (env.get? "LOG_FILE") }

end LoggingSettings

namespace Settings

/-- Whether an encoding name is known. A name that no lookup accepts is a failure of its own. -/
def knowsEncoding (name : Text) : Except Failure Bool := do
  Encoding.checkName name
  match Encoding.find name with
  | .unknown => pure false
  | _ => pure true

/-- A number as a report shows it. -/
def shown (i : Int) : Except Failure Text :=
  (intText i).mapError (·.failure)

/-- The conditions that every configuration meets, in the order in which they are checked. -/
def validate (s : Settings) : Except Failure Settings := do
  let refuse (text : Text) : Except Failure Unit := .error (.ofText .configuration text)
  if s.templating.cacheSize < 0 then
    refuse ("cache_size must be >= 0, got " ++ (← shown s.templating.cacheSize))
  if s.templating.maxRenderDepth < 1 then
    refuse ("max_render_depth must be >= 1, got " ++ (← shown s.templating.maxRenderDepth))
  if s.templating.dir.isEmpty then
    refuse "Templates directory must not be empty"
  if !(← knowsEncoding s.templating.encoding) then
    refuse ("Unknown template encoding: " ++ s.templating.encoding)
  pure s

/-- The directory that template names are resolved against. -/
def templateDir (workingDirectory : Text) (s : Settings) : Text :=
  Path.absolute workingDirectory (Path.join s.layout.baseDir s.templating.dir)

/-- Settings from explicit choices; what is missing comes from the environment. -/
def choose (env : Environment) (debug : Option Bool) (layout : LayoutChoices)
    (templating : TemplatingChoices) (logging : LoggingChoices) : Except Failure Settings := do
  validate {
    debug := debug.getD (env.flag "DEBUG")
    layout := .choose env layout
    templating := ← TemplatingSettings.choose env templating
    logging := .choose env logging }

def development (env : Environment) : Except Failure Settings :=
  choose env (some true) {} { cacheSize := some 0, staticallyCompile := some false }
    { level := some "DEBUG" }

def production (env : Environment) : Except Failure Settings :=
  choose env (some false) {} { staticallyCompile := some true } { level := some "WARNING" }

def testing (env : Environment) : Except Failure Settings :=
  choose env (some true) { baseDir := some "." }
    { dir := some "templates", cacheSize := some 10, staticallyCompile := some false,
      singleFlight := some false }
    { level := some "ERROR", file := some none }

/-- The preset that `TEMPLAR_ENV` names; without a known name, production. -/
def ofEnvironment (env : Environment) : Except Failure Settings :=
  let name := (env.getD "TEMPLAR_ENV" "production").lower
  if name = ("development" : Text) then development env
  else if name = ("testing" : Text) then testing env
  else production env

end Settings

end Stencil
