import Stencil.Settings
import Stencil.Storage.Local
import Stencil.Template.Printf

/-!
# Logging

Log records, the levels they have, and the configuration of what is written where.

## Main definitions

- `LogRecord` — a message with the name of its logger and its level
- `Logging.resolveLevel` — the level that a setting names
- `Logging.configuration` — the configuration that logging settings stand for
- `Logging.openFile` — the files with the log file opened
- `Logging.configure` — the same with the log file opened
- `Logging.line` — a record as it is written
-/

namespace Stencil

/-- A message of a logger. -/
structure LogRecord where
  logger : Text
  level : Int
  message : Text
  /-- The message before its arguments were filled in, if it had some. -/
  pattern : Option Text := none
  arguments : List Text := []

namespace Logging

def debugLevel : Int := 10
def infoLevel : Int := 20
def warningLevel : Int := 30
def errorLevel : Int := 40
def criticalLevel : Int := 50

/-- The name that a level is written with. -/
def levelName (level : Int) : Text :=
  if level = 50 then "CRITICAL"
  else if level = 40 then "ERROR"
  else if level = 30 then "WARNING"
  else if level = 20 then "INFO"
  else if level = 10 then "DEBUG"
  else if level = 0 then "NOTSET"
  else "Level " ++ Text.ofInt level

/-- The levels by the names that settings use. -/
def namedLevels : List (String × Int) := [
  ("CRITICAL", 50), ("FATAL", 50), ("ERROR", 40), ("WARNING", 30), ("WARN", 30), ("INFO", 20),
  ("DEBUG", 10), ("NOTSET", 0)]

/-- What a level setting stands for. -/
inductive Level where
  | number (level : Int)
  /-- A name that is known but is not the name of a level. -/
  | refused (failure : Failure)

/-- The level that a setting names in any case; a name without a meaning is `INFO`. -/
def resolveLevel (name : Text) : Level :=
  let name := name.upper.toName
  match namedLevels.lookup name with
  | some level => .number level
  | none =>
    if name = "BASIC_FORMAT" then
      .refused (.ofText .badValue "Unknown level: '%(levelname)s:%(name)s:%(message)s'")
    else if name = "_STYLES" then
      .refused (.ofText .wrongType ("Level not an integer or a valid string: \x7b'%': " ++
        "(<class 'logging.PercentStyle'>, '%(levelname)s:%(name)s:%(message)s'), '\x7b': " ++
        "(<class 'logging.StrFormatStyle'>, '\x7blevelname\x7d:\x7bname\x7d:\x7bmessage\x7d'), " ++
        "'$': (<class 'logging.StringTemplateStyle'>, '$\x7blevelname\x7d:$\x7bname\x7d:" ++
        "$\x7bmessage\x7d')\x7d"))
    else .number infoLevel

/-- Where records go and from which level on. -/
structure Configuration where
  level : Int
  format : Text
  /-- The log file, beside the error stream. -/
  file : Option Text

/-- The letters that end a directive, in any case; two of them have further variants. -/
def conversions : List CodePoint :=
  Text.ofString "diouxefgcrsa%DIOUXEFGCRSA" ++ [0x130, 0x131, 0x17F]

/-- The text behind a width or precision, which is digits or a star. -/
def behindAmount : Text → Text
  | 42 :: rest => rest
  | t => t.dropWhile isDecimal

/-- Whether a text starts with a keyed directive behind its percent sign. -/
def startsKeyed (t : Text) : Bool :=
  match t with
  | 37 :: 40 :: rest =>
    let key := rest.takeWhile isWordCharacter
    match key.isEmpty, rest.drop key.length with
    | false, 41 :: rest =>
      let rest := rest.dropWhile fun c => c == 35 || c == 48 || c == 43 || c == 32 || c == 45
      let rest := behindAmount rest
      let pointed := match rest with
        | 46 :: 42 :: r => r
        | 46 :: c :: r => if isDecimal c then behindAmount r else rest
        | _ => rest
      match pointed with
      | c :: _ => conversions.contains c
      | [] => false
    | _, _ => false
  | _ => false

/-- A format is valid if it has a keyed directive somewhere. -/
def isValidFormat : Text → Bool
  | [] => false
  | c :: rest => startsKeyed (c :: rest) || isValidFormat rest

/-- The log file that settings name. -/
def logFile? (workingDirectory : Text) (settings : LoggingSettings) : Option Text :=
  match settings.file with
  | some path => if path.isEmpty then none else some (Path.absolute workingDirectory path)
  | none => none

/-- The configuration that settings stand for. The format is checked before the level. -/
def configuration (workingDirectory : Text) (settings : LoggingSettings) (debug : Bool) :
    Except Failure Configuration := do
  let format : Text := if settings.format.isEmpty then "%(message)s" else settings.format
  if !isValidFormat format then
    throw (.ofText .badValue ("Invalid format '" ++ format ++ "' for '%' style"))
  let level ← if debug then pure debugLevel else match resolveLevel settings.level with
    | .number level => .ok level
    | .refused failure => .error failure
  pure { level, format, file := logFile? workingDirectory settings }

/-- The files after the log file has been opened, if there is to be one. -/
def openFile (tree : FileTree) (settings : LoggingSettings) : Except Failure FileTree :=
  match logFile? tree.workingDirectory settings with
  | some path =>
    match LocalStorage.unusable? path with
    | some failure => .error failure
    | none => (tree.touch path).mapError fun r => r.failure path
  | none => .ok tree

/-- The configuration of logging settings, and the files after the log file has been opened. The file
is opened before anything is checked. -/
def configure (tree : FileTree) (settings : LoggingSettings) (debug : Bool) :
    Except Failure (Configuration × FileTree) := do
  let tree ← openFile tree settings
  pure (← configuration tree.workingDirectory settings debug, tree)

/-- The record that reports the configuration itself. -/
def announcement (c : Configuration) : LogRecord :=
  let pattern : Text := "Logging configured at level "
  { logger := "templar", level := debugLevel, message := pattern ++ levelName c.level,
    pattern := some (pattern ++ "%s"), arguments := [levelName c.level] }

/-- Whether a record is written. Levels must be positive. -/
def passes (c : Configuration) (r : LogRecord) : Bool :=
  0 < r.level && c.level ≤ r.level

open Template in
/-- The fields of a record under their names; `time` is the text of the moment. -/
def fields (time : Text) (r : LogRecord) : Exec Value := do
  let arguments ← Exec.newTuple (r.arguments.map fun t => .str t)
  let name : Text := if r.logger.isEmpty then "root" else r.logger
  let entries : List (Text × Value) := [
    ("name", .str name), ("msg", .str (r.pattern.getD r.message)), ("args", arguments),
    ("levelname", .str (levelName r.level)), ("levelno", .int r.level), ("exc_info", .none),
    ("exc_text", .none), ("stack_info", .none), ("threadName", .str "MainThread"),
    ("processName", .str "MainProcess"), ("message", .str r.message), ("asctime", .str time)]
  Exec.newDict (entries.map fun (n, v) => (.str n, v))

open Template in
/-- A record under a format; none if the record does not have what the format asks for. -/
def shown? (time : Text) (format : Text) (r : LogRecord) : Option Text :=
  let run : Exec Text := do Printf.fill false format (← fields time r)
  match run { strict := false } with
  | .done (.ok t) _ => some t
  | _ => none

/-- A record as it is written. -/
def line (time : Text) (c : Configuration) (r : LogRecord) : Text :=
  match shown? time c.format r with
  | some t => t ++ [Text.newline]
  | none => []

end Logging

end Stencil
