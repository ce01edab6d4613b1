import Stencil.Template.Fault
import Stencil.Template.Token
import Stencil.Text.CharacterName
import Stencil.Text.Numeral

/-!
# Reading tokens

The token sequence of a template source. Text outside of tags becomes data tokens; comments and the
marks of raw sections leave no token. A fault ends the sequence: it counts only once the tokens before
it have been consumed.

## Main definitions

- `Spacing` — the options on white space around tags
- `Source.normalize` — the source with one kind of line break
- `Tokens` and `Tokens.ofSource` — the tokens of a source, up to a fault

## Design notes

A `Cursor` holds the rest of the source with its position and line. Each round of the reader takes at
least one code point, so the length of the source bounds the number of rounds.
-/

namespace Stencil

namespace Template

/-- How white space around tags is treated. -/
structure Spacing where
  /-- Drop the line break behind a tag. -/
  trimBlocks : Bool := false
  /-- Drop blanks between the start of a line and a tag. -/
  lstripBlocks : Bool := false
  keepTrailingNewline : Bool := false
  deriving DecidableEq

/-- Tokens, and the fault that stopped the reader. -/
structure Tokens where
  tokens : List Token
  fault : Option Fault := none

namespace Source

/-- Every line break as a line feed. -/
def unixLines : Text → Text
  | [] => []
  | 13 :: 10 :: rest => 10 :: unixLines rest
  | 13 :: rest => 10 :: unixLines rest
  | c :: rest => c :: unixLines rest

/-- Drop a line feed at the end. -/
def withoutFinalNewline (t : Text) : Text :=
  if t.getLast? = some Text.newline then t.dropLast else t

/-- The source as it is read. -/
def normalize (spacing : Spacing) (t : Text) : Text :=
  let t := unixLines t
  if spacing.keepTrailingNewline then t else withoutFinalNewline t

end Source

/-- The rest of a source. -/
structure Cursor where
  rest : Text
  position : Nat := 0
  line : Nat := 1
  /-- The code point before the rest, or zero. -/
  previous : CodePoint := 0

namespace Cursor

def lineBreaks (t : Text) : Nat :=
  t.count Text.newline

/-- Move behind a beginning of the rest. -/
def skip (c : Cursor) (taken : Text) : Cursor :=
  { rest := c.rest.drop taken.length
    position := c.position + taken.length
    line := c.line + lineBreaks taken
    previous := taken.getLast?.getD c.previous }

def fault (c : Cursor) (cause : Cause) : Fault :=
  { line := c.line, cause }

end Cursor

namespace Lexer

/-- The sign beside the delimiter of a tag. -/
inductive Sign where
  | none
  | minus
  | plus
  deriving DecidableEq

/-- The tags that interrupt text. -/
inductive Opening where
  | print
  | comment
  | tag
  | raw
  deriving DecidableEq

def blanks (t : Text) : Text :=
  t.takeWhile isSpace

def sign (t : Text) : Sign × Text :=
  match t with
  | 45 :: rest => (.minus, rest)
  | 43 :: rest => (.plus, rest)
  | _ => (.none, t)

/-- What a text drops at its head to leave `rest`. -/
def taken (t rest : Text) : Text :=
  t.take (t.length - rest.length)

/-- Behind `word` with blanks around it. -/
def afterWord? (word : Text) (t : Text) : Option Text :=
  let t := t.dropWhile isSpace
  if word.isPrefixOf t then some ((t.drop word.length).dropWhile isSpace) else none

/-- Behind the start of a raw section, which is at the head of the text. -/
def rawBegin? : Text → Option (Sign × Text)
  | 123 :: 37 :: rest => do
    let (s, rest) := sign rest
    match ← afterWord? "raw" rest with
    | 45 :: 37 :: 125 :: rest => some (s, rest.dropWhile isSpace)
    | 37 :: 125 :: rest => some (s, rest)
    | _ => .none
  | _ => .none

/-- Behind a closing delimiter of one character and a brace; a plus sign keeps the line break that
`trim` would drop, a minus sign drops all white space. -/
def closing? (mark : CodePoint) (trim : Bool) : Text → Option Text
  | 43 :: c :: 125 :: rest => if c = mark then some rest else .none
  | 45 :: c :: 125 :: rest => if c = mark then some (rest.dropWhile isSpace) else .none
  | c :: 125 :: rest =>
    if c = mark then
      match trim, rest with
      | true, 10 :: rest => some rest
      | _, rest => some rest
    else .none
  | _ => .none

/-- Behind the end of a raw section, which is at the head of the text. -/
def rawEnd? (trim : Bool) : Text → Option (Sign × Text)
  | 123 :: 37 :: rest => do
    let (s, rest) := sign rest
    let rest ← closing? 37 trim (← afterWord? "endraw" rest)
    some (s, rest)
  | _ => .none

/-- The tag at the head of a text, with its sign and what follows. -/
def opening? (t : Text) : Option (Opening × Sign × Text) :=
  match rawBegin? t with
  | some (s, rest) => some (.raw, s, rest)
  | .none => match t with
    | 123 :: 123 :: rest => let (s, rest) := sign rest; some (.print, s, rest)
    | 123 :: 35 :: rest => let (s, rest) := sign rest; some (.comment, s, rest)
    | 123 :: 37 :: rest => let (s, rest) := sign rest; some (.tag, s, rest)
    | _ => .none

/-- The text before the first tag, and the tag. -/
def untilOpening (t : Text) : Text × Option (Opening × Sign × Text) :=
  match t with
  | [] => ([], .none)
  | c :: rest =>
    match if c = 123 then opening? t else .none with
    | some found => ([], some found)
    | .none => let (before, found) := untilOpening rest; (c :: before, found)

/-- The text before the first place where `stop?` matches, and what follows the match. -/
def untilMatch {α : Type} (stop? : Text → Option (α × Text)) (t : Text) : Option (Text × α × Text) :=
  match stop? t, t with
  | some (a, rest), _ => some ([], a, rest)
  | .none, [] => .none
  | .none, c :: rest => (untilMatch stop? rest).map fun (before, a, rest) => (c :: before, a, rest)

/-- Text before a tag, as the tag's sign and the options leave it, and the number of line breaks that
a minus sign has dropped. -/
def stripped (spacing : Spacing) (atLineStart : Bool) (s : Sign) (isPrint : Bool) (t : Text) :
    Text × Nat :=
  match s with
  | .minus =>
    let kept := t.trimRight isSpace
    (kept, Cursor.lineBreaks (t.drop kept.length))
  | .plus => (t, 0)
  | .none =>
    if spacing.lstripBlocks && !isPrint then
      let tail := (t.reverse.takeWhile (· ≠ Text.newline)).reverse
      let kept := t.take (t.length - tail.length)
      if (!kept.isEmpty || atLineStart) && tail.all isSpace then (kept, 0) else (t, 0)
    else (t, 0)

def digits (p : CodePoint → Bool) : Text → Text
  | [] => []
  | 95 :: c :: rest => if p c then 95 :: c :: digits p rest else []
  | c :: rest => if p c then c :: digits p rest else []

/-- Digits with single underscores between them, or nothing. -/
def digitRun (p : CodePoint → Bool) (t : Text) : Text :=
  match t with
  | c :: _ => if p c then digits p t else []
  | [] => []

/-- The fraction at the head of a text. -/
def fraction (t : Text) : Text :=
  match t with
  | 46 :: rest =>
    let ds := digitRun isDecimal rest
    if ds.isEmpty then [] else 46 :: ds
  | _ => []

/-- The exponent at the head of a text. -/
def exponent (t : Text) : Text :=
  match t with
  | mark :: rest =>
    if mark = 101 ∨ mark = 69 then
      let signText := taken rest (sign rest).2
      let ds := digitRun isDecimal (sign rest).2
      if ds.isEmpty then [] else mark :: (signText ++ ds)
    else []
  | [] => []

/-- A number with a fraction or an exponent; it does not start behind a point. -/
def floatLiteral? (c : Cursor) : Option Text :=
  if c.previous = 46 then .none else
  let whole := digitRun isDecimal c.rest
  if whole.isEmpty then .none else
  let rest := c.rest.drop whole.length
  let f := fraction rest
  let e := exponent (rest.drop f.length)
  if f.isEmpty && e.isEmpty then .none else some (whole ++ f ++ e)

def isBaseDigit (base : Nat) (c : CodePoint) : Bool :=
  if base = 16 then isDecimal c || (97 ≤ c && c ≤ 102) || (65 ≤ c && c ≤ 70)
  else 48 ≤ c && c < 48 + base

/-- The integer literal at the head of a text. -/
def integerLiteral? (t : Text) : Option Text :=
  let marked : Option Text := match t with
    | 48 :: mark :: rest => do
      let base ← Numeral.markedBase? mark
      -- an underscore may follow the base marker
      let body := match rest with
        | 95 :: d :: more => if isBaseDigit base d then 95 :: digitRun (isBaseDigit base) (d :: more)
          else []
        | _ => digitRun (isBaseDigit base) rest
      if body.isEmpty then .none else some (48 :: mark :: body)
    | _ => .none
  match marked, t with
  | some literal, _ => some literal
  | .none, 48 :: rest => some (48 :: zeros rest)
  | .none, c :: rest =>
    if 49 ≤ c && c ≤ 57 then some (c :: more rest) else .none
  | .none, [] => .none
where
  zeros : Text → Text
  | 48 :: rest => 48 :: zeros rest
  | 95 :: 48 :: rest => 95 :: 48 :: zeros rest
  | _ => []
  more (rest : Text) : Text := digits isDecimal rest

/-- A character of a name. -/
def isNameCharacter (c : CodePoint) : Bool :=
  isWordCharacter c || isIdentifierContinue c

/-- Whether a name is an identifier. -/
def isIdentifier : Text → Bool
  | [] => false
  | c :: rest => isIdentifierStart c && rest.all isIdentifierContinue

/-- The inside of a string literal up to the quote that ends it. -/
def quotedBody? (quote : CodePoint) : Text → Option Text
  | [] => .none
  | 92 :: c :: rest => (quotedBody? quote rest).map fun body => 92 :: c :: body
  | c :: rest =>
    if c = quote then some []
    else if c = 92 then .none
    else (quotedBody? quote rest).map (c :: ·)

/-- Non-ASCII characters as escapes. -/
def spelledOut (t : Text) : Text :=
  t.flatMap fun c =>
    if c < 0x80 then [c]
    else if c < 0x100 then "\\x" ++ Text.hex 2 c
    else if c < 0x10000 then "\\u" ++ Text.hex 4 c
    else "\\U" ++ Text.hex 8 c

def hexDigits? (n : Nat) (t : Text) : Option Nat :=
  let ds := t.take n
  if ds.length = n && ds.all fun c => isBaseDigit 16 c && c < 128 then Numeral.value? 16 ds else .none

/-- Resolve the escapes of a string literal whose other characters are ASCII. A backslash before a
character that forms no escape stays. -/
def unescape : Nat → Text → Except Cause Text
  | 0, _ => .ok []
  | _, [] => .ok []
  | fuel + 1, 92 :: c :: rest =>
    let one (p : CodePoint) : Except Cause Text := (unescape fuel rest).map (p :: ·)
    let code (n : Nat) (what : String) : Except Cause Text :=
      match hexDigits? n rest with
      | .none => .error (.badEscape what)
      | some v =>
        if 0x110000 ≤ v then .error (.badEscape "illegal Unicode character")
        else (unescape fuel (rest.drop n)).map (v :: ·)
    match c with
    | 10 => unescape fuel rest
    | 92 => one 92
    | 39 => one 39
    | 34 => one 34
    | 97 => one 7
    | 98 => one 8
    | 102 => one 12
    | 110 => one 10
    | 114 => one 13
    | 116 => one 9
    | 118 => one 11
    | 120 => code 2 "truncated \\xXX escape"
    | 117 => code 4 "truncated \\uXXXX escape"
    | 85 => code 8 "truncated \\UXXXXXXXX escape"
    | 78 => match rest with
      | 123 :: more =>
        let name := more.takeWhile (· ≠ 125)
        if name.isEmpty || name.length = more.length then
          .error (.badEscape "malformed \\N character escape")
        else match CharacterName.find? name with
          | some p => (unescape fuel (more.drop (name.length + 1))).map (p :: ·)
          | .none => .error (.badEscape "unknown Unicode character name")
      | _ => .error (.badEscape "malformed \\N character escape")
    | c =>
      if 48 ≤ c && c ≤ 55 then
        let octal := (c :: rest).takeWhile (fun d => 48 ≤ d && d ≤ 55) |>.take 3
        (unescape fuel ((c :: rest).drop octal.length)).map ((Numeral.value? 8 octal).getD 0 :: ·)
      else (unescape fuel rest).map fun t => 92 :: c :: t
  | fuel + 1, c :: rest => (unescape fuel rest).map (c :: ·)

/-- The value of the inside of a string literal. -/
def stringValue (body : Text) : Except Cause Text :=
  let ascii := spelledOut body
  unescape (ascii.length + 1) ascii

/-- Integer literals of more digits than this are refused. -/
def digitLimit : Nat := 4300

def integerValue (literal : Text) : Except Cause Int :=
  let digits := literal.filter (· ≠ 95)
  let marked := match digits with
    | _ :: mark :: _ => (Numeral.markedBase? mark).isSome
    | _ => false
  if !marked && digitLimit < digits.length then .error (.longInteger digits.length)
  else .ok ((Numeral.readInt? 0 digits).getD 0)

def floatValue (literal : Text) : Except Cause Float :=
  let digits := literal.filter (· ≠ 95)
  match digits.find? (128 ≤ ·) with
  | some c =>
    .error (if digits.head? = some c then .foreignDigit c else .misplacedForeignDigit)
  | .none => .ok ((Numeral.readFloat? digits).getD 0)

/-- The state of the reader between two matches. -/
structure State where
  cursor : Cursor
  /-- Whether the last match ended a line. -/
  atLineStart : Bool := true
  /-- The tag that is open, if any. -/
  inside : Option Opening := .none
  /-- The closing brackets that are owed, innermost first. -/
  owed : List Symbol := []

/-- What one round of the reader yields. -/
inductive Round where
  | go (tokens : List Token) (next : State)
  | stop (tokens : List Token) (fault : Option Fault)

def endsLine (t : Text) : Bool :=
  t.getLast? = some Text.newline

def dataToken (line : Nat) (t : Text) : List Token :=
  if t.isEmpty then [] else [{ line, lexeme := .data t }]

/-- Text up to the next tag. -/
def textRound (spacing : Spacing) (s : State) : Round :=
  let c := s.cursor
  if c.rest.isEmpty then .stop [] .none else
  match untilOpening c.rest with
  | (t, .none) =>
    .go (dataToken c.line t) { s with cursor := c.skip t, atLineStart := endsLine t }
  | (t, some (opening, sign, rest)) =>
    let (kept, dropped) := stripped spacing s.atLineStart sign (opening = .print) t
    let mark := taken (c.rest.drop t.length) rest
    let line := c.line + Cursor.lineBreaks kept + dropped
    let next : Cursor := { (c.skip t).skip mark with line := line + Cursor.lineBreaks mark }
    let token : List Token := match opening with
      | .print => [{ line, lexeme := .printBegin }]
      | .tag => [{ line, lexeme := .tagBegin }]
      | _ => []
    .go (dataToken c.line kept ++ token)
      { cursor := next, atLineStart := endsLine mark, inside := some opening }

/-- A comment, up to its end. -/
def commentRound (spacing : Spacing) (s : State) : Round :=
  let c := s.cursor
  match untilMatch (fun t => (closing? 35 spacing.trimBlocks t).map fun rest => ((), rest)) c.rest with
  | some (_, _, rest) =>
    let all := taken c.rest rest
    .go [] { cursor := c.skip all, atLineStart := endsLine all }
  | .none => .stop [] (if c.rest.isEmpty then .none else some (c.fault .unclosedComment))

/-- A raw section, up to its end. -/
def rawRound (spacing : Spacing) (s : State) : Round :=
  let c := s.cursor
  match untilMatch (rawEnd? spacing.trimBlocks) c.rest with
  | some (t, sign, rest) =>
    let (kept, dropped) := stripped spacing s.atLineStart sign false t
    let mark := taken (c.rest.drop t.length) rest
    let line := c.line + Cursor.lineBreaks kept + dropped
    .go (dataToken c.line kept)
      { cursor := { (c.skip t).skip mark with line := line + Cursor.lineBreaks mark }
        atLineStart := endsLine mark }
  | .none => .stop [] (if c.rest.isEmpty then .none else some (c.fault .unclosedRaw))

/-- A bracket, or another symbol, inside a tag. -/
def symbolRound (s : State) (symbol : Symbol) : Round :=
  let c := s.cursor
  let text := Text.ofString symbol.text
  let token : Token := { line := c.line, lexeme := .symbol symbol }
  let next := { s with cursor := c.skip text }
  match symbol.closing? with
  | some close => .go [token] { next with owed := close :: s.owed }
  | .none =>
    if symbol.isClosing then
      match s.owed with
      | [] => .stop [] (some (c.fault (.unopenedBracket text)))
      | expected :: owed =>
        if expected = symbol then .go [token] { next with owed }
        else .stop [] (some (c.fault (.mismatchedBracket text expected.text)))
    else .go [token] next

/-- One token inside a tag, or the tag's end while no bracket is open. -/
def tagRound (spacing : Spacing) (opening : Opening) (s : State) : Round :=
  let c := s.cursor
  let fail (cause : Cause) : Round := .stop [] (some (c.fault cause))
  let ended : Option (Text × Lexeme) :=
    if !s.owed.isEmpty then .none
    else if opening = .print then match c.rest with
      | 45 :: 125 :: 125 :: rest => some (rest.dropWhile isSpace, .printEnd)
      | 125 :: 125 :: rest => some (rest, .printEnd)
      | _ => .none
    else (closing? 37 spacing.trimBlocks c.rest).map fun rest => (rest, .tagEnd)
  match ended with
  | some (rest, lexeme) =>
    let mark := taken c.rest rest
    .go [{ line := c.line, lexeme }] { cursor := c.skip mark, atLineStart := endsLine mark }
  | .none =>
    match c.rest with
    | [] => .stop [] .none
    | first :: tail =>
      let yield (text : Text) (value : Except Cause Lexeme) : Round :=
        match value with
        | .ok lexeme => .go [{ line := c.line, lexeme }] { s with cursor := c.skip text }
        | .error cause => fail cause
      if isSpace first then .go [] { s with cursor := c.skip (blanks c.rest) }
      else match floatLiteral? c with
      | some text => yield text ((floatValue text).map .float)
      | .none => match integerLiteral? c.rest with
        | some text => yield text ((integerValue text).map .integer)
        | .none =>
          if isNameCharacter first then
            let text := c.rest.takeWhile isNameCharacter
            yield text (if isIdentifier text then .ok (.name text) else .error .invalidIdentifier)
          else
            let string? := if first = 39 ∨ first = 34 then quotedBody? first tail else .none
            match string? with
            | some body => yield (first :: body ++ [first]) ((stringValue body).map .string)
            | .none => match Symbol.ofHead? c.rest with
              | some symbol => symbolRound s symbol
              | .none => fail (.unexpectedCharacter first c.position)

def round (spacing : Spacing) (s : State) : Round :=
  match s.inside with
  | .none => textRound spacing s
  | some .comment => commentRound spacing s
  | some .raw => rawRound spacing s
  | some opening => tagRound spacing opening s

/-- Rounds until the source is used up; `fuel` is at least its length plus one. -/
def run (spacing : Spacing) : Nat → State → Tokens
  | 0, _ => { tokens := [] }
  | fuel + 1, s =>
    match round spacing s with
    | .stop tokens fault => { tokens, fault }
    | .go tokens next =>
      let rest := run spacing fuel next
      { rest with tokens := tokens ++ rest.tokens }

end Lexer

/-- The tokens of a source. -/
def Tokens.ofSource (spacing : Spacing) (source : Text) : Tokens :=
  let t := Source.normalize spacing source
  Lexer.run spacing (t.length + 1) { cursor := { rest := t } }

end Template

end Stencil
