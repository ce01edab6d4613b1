import Stencil.CommandLine.Flag
import Stencil.Text.Numeral

/-!
# Arguments

What the arguments of a call say. The program has flags of its own before the command; all that
follows the command belongs to it.

## Main definitions

- `Piece` and `classify` — what a single argument can be
- `Complaint` — why arguments are refused
- `Invocation` — what a call asks for
- `Invocation.ofArguments` — the invocation that arguments stand for

## Design notes

Flags may be shortened as long as the meaning is clear. All arguments are classified before any of
them is acted upon, and those of a command are classified once for the program and once for the
command.
-/

namespace Stencil

namespace CommandLine

/-- Why arguments are refused. -/
inductive Complaint where
  | ambiguous (given : Text) (candidates : List Text)
  | missingValue (flag : Flag)
  | unusedValue (flag : Flag) (value : Text)
  | rivals (flag other : Flag)
  | notAnInteger (flag : Flag) (value : Text)
  | unknownCommand (name : Text)
  | nameMissing
  | unrecognized (arguments : List Text)
  deriving DecidableEq

def Complaint.message : Complaint → Text
  | ambiguous given candidates =>
    "ambiguous option: " ++ given ++ " could match " ++ Text.join ", " candidates
  | missingValue flag => "argument " ++ flag.label ++ ": expected one argument"
  | unusedValue flag value =>
    "argument " ++ flag.label ++ ": ignored explicit argument " ++ value.quoted
  | rivals flag other =>
    "argument " ++ flag.label ++ ": not allowed with argument " ++ other.label
  | notAnInteger flag value =>
    "argument " ++ flag.label ++ ": invalid int value: " ++ value.quoted
  | unknownCommand name =>
    "argument command: invalid choice: " ++ name.quoted ++ " (choose from " ++
      Text.join ", " (Command.all.map fun c => Text.quoted c.name) ++ ")"
  | nameMissing => "the following arguments are required: name"
  | unrecognized arguments => "unrecognized arguments: " ++ Text.join " " arguments

/-- Why the arguments ask for nothing more: help was shown, or they are refused. -/
inductive Stop where
  | help (level : Option Command)
  | refused (level : Option Command) (complaint : Complaint)
  deriving DecidableEq

/-! ### Single arguments -/

/-- A value that stands in the same argument as its flag, behind an equals sign or directly. -/
structure Attached where
  equals : Bool
  value : Text

/-- What a single argument is. -/
inductive Piece where
  | word
  /-- The double dash, after which everything is a word. -/
  | separator
  | unknownFlag
  | flag (flag : Flag) (long : Bool) (attached : Option Attached)

def dash : CodePoint := 45
def equalsSign : CodePoint := 61

def isLong (name : Text) : Bool :=
  Text.startsWith name [dash, dash]

/-- Negative numbers are words. A line feed at the end does not matter. -/
def isNegativeNumber (t : Text) : Bool :=
  let t := if t.getLast? = some Text.newline then t.dropLast else t
  match t with
  | 45 :: rest =>
    let whole := rest.takeWhile isDecimal
    match rest.drop whole.length with
    | [] => !whole.isEmpty
    | 46 :: fraction => !fraction.isEmpty && fraction.all isDecimal
    | _ => false
  | _ => false

/-- The flags that an argument may be short for, with the spelling that it completes to. -/
def candidates (level : Option Command) (argument : Text) : List (Text × Piece) :=
  if isLong argument then
    let (start, attached) : Text × Option Attached := match Text.cut? [equalsSign] argument with
      | some (before, after) => (before, some { equals := true, value := after })
      | none => (argument, none)
    (Flag.spellings level).filterMap fun (name, f) =>
      if Text.startsWith name start then some (name, .flag f (isLong name) attached) else none
  else
    (Flag.spellings level).filterMap fun (name, f) =>
      if name = argument.take 2 then
        some (name, .flag f false (some { equals := false, value := argument.drop 2 }))
      else if Text.startsWith name argument then some (name, .flag f (isLong name) none)
      else none

/-- What an argument in front of the double dash is. -/
def classify (level : Option Command) (argument : Text) : Except Stop Piece :=
  let spelled (name : Text) : Option Flag := (Flag.spellings level).lookup name
  if argument.head? ≠ some dash then .ok .word
  else match spelled argument with
  | some f => .ok (.flag f (isLong argument) none)
  | none =>
    if argument.length = 1 then .ok .word
    else
      let split := match Text.cut? [equalsSign] argument with
        | some (name, value) => (spelled name).map fun f =>
          Piece.flag f (isLong name) (some { equals := true, value })
        | none => none
      match split, candidates level argument with
      | some piece, _ => .ok piece
      | none, [(_, piece)] => .ok piece
      | none, [] =>
        .ok (if isNegativeNumber argument || argument.contains 32 then .word else .unknownFlag)
      | none, several =>
        .error (.refused level (.ambiguous argument (several.map (·.1))))

/-- All arguments with what they are. -/
def classifyAll (level : Option Command) : List Text → Except Stop (List (Text × Piece))
  | [] => .ok []
  | argument :: rest =>
    if argument = [dash, dash] then
      .ok ((argument, .separator) :: rest.map fun word => (word, .word))
    else do
      let piece ← classify level argument
      pure ((argument, piece) :: (← classifyAll level rest))

/-! ### Flags with their values -/

/-- What one argument with a flag comes to: the flags with their values, what is not recognized, and
the arguments that are left. -/
structure FlagUse where
  flags : List (Flag × Option Text)
  extras : List Text := []
  rest : List (Text × Piece)

/-- What stands behind the letter of a short flag in the same argument. -/
def Attached.ofTail : Text → Option Attached
  | [] => none
  | 61 :: value => some { equals := true, value }
  | value => some { equals := false, value }

def Attached.size : Option Attached → Nat
  | none => 0
  | some a => a.value.length

theorem Attached.size_ofTail_le (tail : Text) : size (ofTail tail) ≤ tail.length := by
  unfold ofTail
  split <;> simp [size]

/-- The flags in one argument. Short flags without values may stand in a cluster. -/
def useFlag (level : Option Command) (rest : List (Text × Piece)) (f : Flag) (long : Bool)
    (attached : Option Attached) : Except Stop FlagUse :=
  match attached with
  | none =>
    if f.takesValue then
      match rest with
      | (value, .word) :: rest => .ok { flags := [(f, some value)], rest }
      | _ => .error (.refused level (.missingValue f))
    else .ok { flags := [(f, none)], rest }
  | some ⟨equals, value⟩ =>
    if f.takesValue then .ok { flags := [(f, some value)], rest }
    else match value with
      | [] => .error (.refused level (.unusedValue f []))
      | c :: tail =>
        if long || equals || c = dash then .error (.refused level (.unusedValue f (c :: tail)))
        else match (Flag.spellings level).lookup [dash, c] with
          | none => .ok { flags := [(f, none)], extras := [dash :: c :: tail], rest }
          | some next => do
            let more ← useFlag level rest next false (Attached.ofTail tail)
            pure { more with flags := (f, none) :: more.flags }
termination_by Attached.size attached
decreasing_by
  have := Attached.size_ofTail_le tail
  simp [Attached.size] at *
  omega

/-! ### What a call asks for -/

/-- What the arguments of a command give. -/
structure Given where
  name : Option Text := none
  model : Option Text := none
  modelFile : Option Text := none
  baseDir : Option Text := none
  templatesDir : Option Text := none
  cacheSize : Option Int := none
  static : Option Bool := none
  output : Option Text := none
  message : Option Text := none
  debug : Bool := false
  /-- The flags that were given. -/
  flags : List Flag := []
  deriving DecidableEq

/-- An integer of at most so many digits as are read. -/
def readInteger? (t : Text) : Option Int :=
  if digitLimit < Numeral.digitCount t then none else Numeral.readInt? 10 t
where
  digitLimit : Nat := 4300

namespace Given

/-- Set what a flag stands for. -/
def set (g : Given) (f : Flag) (value : Option Text) : Given :=
  match f with
  | .help => g
  | .debug => { g with debug := true }
  | .model => { g with model := value }
  | .modelFile => { g with modelFile := value }
  | .baseDir => { g with baseDir := value }
  | .templatesDir => { g with templatesDir := value }
  | .cacheSize => { g with cacheSize := value.bind readInteger? }
  | .static => { g with static := some true }
  | .dynamic => { g with static := some false }
  | .output => { g with output := value }
  | .message => { g with message := value }

/-- Act upon a flag. A value is read before the flag is compared with its rival. -/
def take (level : Option Command) (g : Given) (use : Flag × Option Text) : Except Stop Given := do
  let (f, value) := use
  if f = .cacheSize && (value.bind readInteger?).isNone then
    throw (.refused level (.notAnInteger f (value.getD [])))
  match f.rival? with
  | some rival =>
    if g.flags.contains rival then throw (.refused level (.rivals f rival))
  | none => pure ()
  if f = .help then throw (.help level)
  pure { g.set f value with flags := f :: g.flags }

end Given

/-- What the arguments of a level come to. -/
structure Reading where
  given : Given := {}
  /-- What is not recognized, latest first. -/
  extras : List Text := []
  /-- The command and its arguments, at the level of the program. -/
  command : Option (Text × List Text) := none

/-- Read the arguments of the program, up to the command, or those of a command. `fuel` is at least
their number. -/
def readPieces (level : Option Command) : Nat → List (Text × Piece) → Reading → Except Stop Reading
  | 0, _, r => .ok r
  | _, [], r => .ok r
  | fuel + 1, (argument, .unknownFlag) :: rest, r =>
    readPieces level fuel rest { r with extras := argument :: r.extras }
  | fuel + 1, (_, .flag f long attached) :: rest, r => do
    let use ← useFlag level rest f long attached
    let given ← use.flags.foldlM (Given.take level) r.given
    readPieces level fuel use.rest { r with given, extras := use.extras.reverse ++ r.extras }
  | fuel + 1, (argument, .word) :: rest, r =>
    match level with
    | none => .ok { r with command := some (argument, rest.map (·.1)) }
    | some .render =>
      if r.given.name.isNone then
        let rest := match rest with
          | (_, .separator) :: rest => rest
          | rest => rest
        readPieces level fuel rest { r with given := { r.given with name := some argument } }
      else readPieces level fuel rest { r with extras := argument :: r.extras }
    | some .error => readPieces level fuel rest { r with extras := argument :: r.extras }
  | fuel + 1, (argument, .separator) :: rest, r =>
    match level, rest with
    | none, (_, .word) :: _ => .ok { r with command := some (argument, rest.map (·.1)) }
    | some .render, (name, .word) :: after =>
      if r.given.name.isNone then
        readPieces level fuel after { r with given := { r.given with name := some name } }
      else readPieces level fuel rest { r with extras := argument :: r.extras }
    | _, _ => readPieces level fuel rest { r with extras := argument :: r.extras }

/-- Read the arguments of a level. -/
def readLevel (level : Option Command) (arguments : List Text) : Except Stop Reading := do
  let pieces ← classifyAll level arguments
  readPieces level pieces.length pieces {}

/-- What a call asks for. -/
structure Invocation where
  debug : Bool
  command : Option Command
  given : Given
  deriving DecidableEq

/-- The invocation that arguments stand for. -/
def Invocation.ofArguments (arguments : List Text) : Except Stop Invocation := do
  let top ← readLevel none arguments
  let (command, given, extras) ← match top.command with
    | none => pure (none, {}, [])
    | some (word, rest) =>
      match Command.ofName? word with
      | none => throw (.refused none (.unknownCommand word))
      | some command =>
        let own ← readLevel (some command) rest
        if command = .render && own.given.name.isNone then
          throw (.refused (some command) .nameMissing)
        pure (some command, own.given, own.extras)
  let unrecognized := top.extras.reverse ++ extras.reverse
  if !unrecognized.isEmpty then throw (.refused none (.unrecognized unrecognized))
  pure { debug := top.given.debug, command, given }

end CommandLine

end Stencil
