import Stencil.Failure
import Stencil.Path

/-!
# Faults in template sources

What can be wrong with the source of a template, by cause, with the wording of each.

## Main definitions

- `Defect` — what is wrong with the executable form of a template
- `Cause` — the causes, with `Cause.message` and `Cause.kind`
- `Fault` — a cause and the line it was found on
- `Fault.failure` — the failure that reports it
-/

namespace Stencil

namespace Template

/-- Why the listing of an executable template is refused. -/
inductive Defect where
  /-- More brackets are open than can be. -/
  | brackets
  | indentation
  /-- A slice that is not the only index. -/
  | slice
  /-- Two parameters of one name. -/
  | parameter (name : Text)
  | keyword (name : Text)
  | reservedKeyword (name : Text)
  /-- Loops and attempts are nested more deeply than can be. -/
  | enclosure
  deriving DecidableEq

namespace Defect

/-- In which pass over a listing a defect is found. -/
def stage : Defect → Nat
  | brackets | indentation => 0
  | slice => 1
  | parameter _ => 2
  | keyword _ | reservedKeyword _ | enclosure => 3

/-- The number of passes. -/
def stages : Nat := 4

def kind : Defect → Kind
  | indentation => .indentation
  | _ => .source

def message : Defect → Text
  | brackets => "too many nested parentheses"
  | indentation => "too many levels of indentation"
  | slice => "invalid syntax"
  | parameter name => "duplicate argument '" ++ name ++ "' in function definition"
  | keyword name => "keyword argument repeated: " ++ name
  | reservedKeyword name => "cannot assign to " ++ name
  | enclosure => "too many statically nested blocks"

end Defect

/-- Why a source is no template. -/
inductive Cause where
  | unexpectedCharacter (c : CodePoint) (position : Nat)
  | unopenedBracket (found : Text)
  | mismatchedBracket (found owed : Text)
  | unclosedComment
  | unclosedRaw
  | invalidIdentifier
  | badEscape (what : String)
  /-- An integer literal with more digits than are accepted. -/
  | longInteger (digits : Nat)
  /-- A digit of another script in a number with a fraction or an exponent. -/
  | foreignDigit (c : CodePoint)
  | misplacedForeignDigit
  | expected (what : Text) (found : Option Text)
  | unexpected (found : Text)
  | expressionExpected (found : Text)
  | tagNameExpected
  /-- A tag that nothing starts or ends here, or the end of the template. `sought` are the tags that
  would end the innermost open part, `nesting` says that an outer part is ended instead. -/
  | strayTag (name : Option Text) (sought : List Text) (nesting : Bool) (innermost : Option Text)
  | hyphenatedBlock
  | requiredBlockContent
  | defaultExpected
  | callExpected
  | notAssignable (what : String)
  | callForm
  | nameOrNumberExpected
  | chainedTests
  | hiddenImport
  | duplicateBlock (name : Text)
  | nestedExtends
  | loopAssignment
  | unknownFilter (name : Text)
  | unknownTest (name : Text)
  | callerDefault
  /-- A name in the filter of a section that the section itself does not know. -/
  | unknownReference (name : Text)
  /-- A defect of the listing of a file. -/
  | listing (d : Defect) (file : Text) (line : Nat)
  /-- A constant whose digits are too many to be written out. -/
  | longConstant
  /-- A failure of something that is computed in advance. -/
  | failed (f : Raised)
  deriving DecidableEq

namespace Cause

/-- Faults of the grammar, faults beyond it, and faults of literals and constants. -/
def kind : Cause → Kind
  | longInteger _ | longConstant => .badValue
  | foreignDigit _ | misplacedForeignDigit => .source
  | listing d _ _ => d.kind
  | unknownReference _ => .assertion
  | hiddenImport | duplicateBlock _ | nestedExtends | loopAssignment | unknownFilter _
  | unknownTest _ | callerDefault => .templateMeaning
  | failed f => f.kind
  | _ => .templateText

def tooManyDigits : Text :=
  "Exceeds the limit (4300 digits) for integer string conversion"

/-- The sentence about a stray tag or a premature end. -/
def strayTagMessage (name : Option Text) (sought : List Text) (nesting : Bool)
    (innermost : Option Text) : Text :=
  let head : Text := match name with
    | none => "Unexpected end of template."
    | some n => "Encountered unknown tag " ++ n.quoted ++ "."
  let looking := Text.join " or " (sought.map Text.quoted)
  let middle : Text :=
    if sought.isEmpty then []
    else if nesting then
      " You probably made a nesting mistake. Jinja is expecting this tag, but currently looking for "
        ++ looking ++ "."
    else " Jinja was looking for the following tags: " ++ looking ++ "."
  let tail : Text := match innermost with
    | some tag => " The innermost block that needs to be closed is " ++ tag.quoted ++ "."
    | none => []
  head ++ middle ++ tail

/-- The wording of a cause. -/
def message : Cause → Text
  | unexpectedCharacter c position =>
    "unexpected char " ++ Text.quoted [c] ++ " at " ++ Text.ofNat position
  | unopenedBracket found => "unexpected '" ++ found ++ "'"
  | mismatchedBracket found owed => "unexpected '" ++ found ++ "', expected '" ++ owed ++ "'"
  | unclosedComment => "Missing end of comment tag"
  | unclosedRaw => "Missing end of raw directive"
  | invalidIdentifier => "Invalid character in identifier"
  | badEscape what => what
  | longInteger digits => tooManyDigits ++ ": value has " ++ Text.ofNat digits ++
      " digits; use sys.set_int_max_str_digits() to increase the limit"
  | foreignDigit c =>
    let code := Text.inBase 16 c
    "invalid character '" ++ [c] ++ "' (U+" ++
      Text.padLeft 4 48 (code.map fun c => if 97 ≤ c then c - 32 else c) ++ ") (<unknown>, line 1)"
  | misplacedForeignDigit => "invalid decimal literal (<unknown>, line 1)"
  | expected what none => "unexpected end of template, expected " ++ what.quoted ++ "."
  | expected what (some found) => "expected token " ++ what.quoted ++ ", got " ++ found.quoted
  | unexpected found => "unexpected " ++ found.quoted
  | expressionExpected found => "Expected an expression, got " ++ found.quoted
  | tagNameExpected => "tag name expected"
  | strayTag name sought nesting innermost => strayTagMessage name sought nesting innermost
  | hyphenatedBlock =>
    ("Block names in Jinja have to be valid Python identifiers and may not contain hyphens, use an "
      : Text) ++ "underscore instead."
  | requiredBlockContent => "Required blocks can only contain comments or whitespace"
  | defaultExpected => "non-default argument follows default argument"
  | callExpected => "expected call"
  | notAssignable what => "can't assign to " ++ Text.quoted what
  | callForm => "invalid syntax for function call expression"
  | nameOrNumberExpected => "expected name or number"
  | chainedTests => "You cannot chain multiple tests with is"
  | hiddenImport => "names starting with an underline can not be imported"
  | duplicateBlock name => "block " ++ name.quoted ++ " defined twice"
  | nestedExtends => "cannot use extend from a non top-level scope"
  | loopAssignment => "Can't assign to special loop variable in for-loop"
  | unknownFilter name => "No filter named " ++ name.quoted ++ "."
  | unknownTest name => "No test named " ++ name.quoted ++ "."
  | callerDefault => ("When defining macros or call blocks the special \"caller\" argument must be " :
      Text) ++ "omitted or be given a default."
  | unknownReference name =>
    "Tried to resolve a name to a reference that was unknown to the frame (" ++ name.quoted ++ ")"
  | listing d file line =>
    d.message ++ " (" ++ Path.lastPart file ++ ", line " ++ Text.ofNat line ++ ")"
  | longConstant =>
    tooManyDigits ++ "; use sys.set_int_max_str_digits() to increase the limit"
  | failed f => f.message

end Cause

/-- A cause and its line. -/
structure Fault where
  line : Nat
  cause : Cause
  deriving DecidableEq

namespace Fault

def kind (f : Fault) : Kind :=
  f.cause.kind

def message (f : Fault) : Text :=
  f.cause.message

/-- The failure that reports the fault. -/
def failure (f : Fault) : Failure :=
  .ofText f.kind f.message

end Fault

end Template

end Stencil
