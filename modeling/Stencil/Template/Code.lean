import Stencil.Template.Syntax
import Stencil.Text.Normal

/-!
# Executable templates

The form in which templates run: names are resolved to slots, constant parts are computed, and every
output knows whether it is escaped.

## Main definitions

- `Slot` and `Load` — variables of a frame, and what they hold when the frame is entered
- `Term` — executable expressions
- `Code` — executable statements
- `Program` — an executable template with its blocks
-/

namespace Stencil

namespace Template

/-- A variable: the nesting level of the frame that owns it, and its name. -/
structure Slot where
  level : Nat
  name : Text
  deriving DecidableEq, Inhabited

/-- The variable itself: names that only differ in how they are encoded are one. -/
def Slot.unified (s : Slot) : Slot :=
  { s with name := Normal.form s.name }

/-- What a slot holds when its frame is entered. -/
inductive Load where
  /-- It is set by whoever enters the frame. -/
  | parameter
  /-- The context's variable of a name. -/
  | resolve (name : Text)
  /-- The value of a slot of an enclosing frame. -/
  | alias (slot : Slot)
  /-- Nothing yet. -/
  | undefined
  deriving DecidableEq, Inhabited

/-- The slots of a frame with their loads, in the order in which they are entered. -/
abbrev Loads := List (Slot × Load)

/-- Whether text is escaped: settled when the template is compiled, or by a switch at run time. -/
inductive Escaping where
  | on
  | off
  | switch
  deriving DecidableEq, Inhabited

/-- What an assignment binds, resolved. -/
inductive Place where
  | slot (s : Slot)
  | tuple (items : List Place)
  | member (s : Slot) (attr : Text)
  deriving Inhabited

mutual

inductive Term where
  | const (l : Literal)
  /-- A number without a literal form, which only fails. -/
  | unwritable (name : Text)
  /-- A variable, which messages call by its name. It is undefined as long as nothing was assigned to it,
  unless it was given. -/
  | var (s : Slot) (name : Text) (given : Bool)
  | tuple (items : List Term)
  | list (items : List Term)
  | dict (entries : List (Term × Term))
  /-- Without an alternative the value is undefined, with `hint` as its message. -/
  | conditional (test yes : Term) (no : Option Term) (hint : Text)
  | both (l r : Term)
  | either (l r : Term)
  | unary (op : UnaryOp) (e : Term)
  | binary (op : BinaryOp) (l r : Term)
  /-- Concatenation, with or without regard to safe parts. -/
  | concat (escaping : Bool) (parts : List Term)
  | compare (first : Term) (rest : List (CompareOp × Term))
  | attr (e : Term) (name : Text)
  | item (e index : Term)
  | slice (e : Term) (start stop step : Option Term)
  | call (f : Term) (args : Args)
  | filter (subject : Term) (name : Text) (args : Args)
  | test (subject : Term) (name : Text) (args : Args)
  /-- A filter or a test that is not there: `function` refuses every call. -/
  | unknown (function message : Text) (subject : Term) (args : Args)
  /-- The text that the enclosing section has captured. -/
  | captured (escaping : Escaping)

/-- The arguments of a call. Where keywords are gathered in a dictionary, of several with one name the
last one counts. -/
inductive Args where
  | mk (positional : List Term) (keywords : List (Text × Term)) (gathered : Bool)
      (spread keywordSpread : Option Term)

end

instance : Inhabited Term := ⟨.const .none⟩

namespace Args

def none : Args := .mk [] [] false .none .none

def positional : Args → List Term
  | .mk p _ _ _ _ => p

def keywords : Args → List (Text × Term)
  | .mk _ k _ _ _ => k

def gathered : Args → Bool
  | .mk _ _ g _ _ => g

def spread : Args → Option Term
  | .mk _ _ _ s _ => s

def keywordSpread : Args → Option Term
  | .mk _ _ _ _ s => s

instance : Inhabited Args := ⟨none⟩

end Args

/-- A parameter of a procedure. -/
structure Formal where
  name : Text
  slot : Slot
  default : Option Term
  deriving Inhabited

/-- The head of a procedure. Beside its formal parameters it may take the section it is called with,
further keywords and further arguments. -/
structure Signature where
  name : Option Text
  formals : List Formal
  caller : Option Slot := none
  /-- Whether the body asks for the section it is called with. -/
  takesCaller : Bool := false
  keywords : Option Slot := none
  rest : Option Slot := none
  deriving Inhabited

inductive Code where
  /-- A piece of text. -/
  | text (t : Text)
  /-- The text of a value. -/
  | output (escaping : Escaping) (e : Term)
  /-- Assign a value. The namespaces among the places are checked first; `exports` become variables of
  the context. -/
  | assign (spaces : List Slot) (place : Place) (value : Term) (exports : List (Text × Slot))
  /-- Assign the captured text of a section. -/
  | assignBlock (loads : Loads) (body : List Code) (place : Place) (value : Term)
      (exports : List (Text × Slot))
  /-- A loop. `special` is the slot of the loop variable if the body uses it. -/
  | forLoop (level : Nat) (place : Place) (source : Term) (filter : Option (Loads × Term))
      (special : Option Slot) (recursive : Bool) (loads : Loads) (body : List Code)
      (orElse : Option (Loads × List Code)) (escaping : Escaping)
  | branch (arms : List (Term × List Code)) (orElse : List Code)
  /-- A frame of its own whose slots are bound one after the other. -/
  | withVars (loads : Loads) (bindings : List (Place × Term)) (body : List Code)
  | autoescape (loads : Loads) (value : Term) (body : List Code)
  /-- Run a block, in a context that also has the given slots. -/
  | block (name : Text) (required : Bool) (visible : Option (List (Text × Slot)))
  /-- A tag that needs another template by name. Only including may ignore that there is none. -/
  | needsTemplate (template : Term) (selects : Bool) (ignoreMissing : Bool)
  | extendedTwice
  | define (signature : Signature) (level : Nat) (loads : Loads) (body : List Code)
      (target : Slot) (exported : Option Text)
  | callSection (signature : Signature) (level : Nat) (loads : Loads) (body : List Code)
      (f : Term) (args : Args)
  | filterSection (loads : Loads) (body : List Code) (value : Term)
  deriving Inhabited

/-- A block: its code runs in a frame of its own. -/
structure Block where
  name : Text
  /-- The slot of the block's reference to the template's blocks, if it uses one. -/
  selfSlot : Option Slot
  superSlot : Option Slot
  loads : Loads
  body : List Code
  deriving Inhabited

/-- An executable template. -/
structure Program where
  name : Text
  selfSlot : Option Slot
  loads : Loads
  body : List Code
  blocks : List Block
  /-- The switch for escaping when the template starts. -/
  autoescape : Bool
  /-- Whether undefined values are strict. -/
  strict : Bool
  deriving Inhabited

end Template

end Stencil
