import Stencil.Json.Reader
import Stencil.Text.Quoted

/-!
# Models

The data that a template is rendered with.

## Main definitions

- `Model` — values with ordered dictionaries; texts may be marked as safe HTML
- `Model.ofJson` — a JSON value as a model
-/

namespace Stencil

/-- Data for templates. -/
inductive Model where
  | none
  | bool (b : Bool)
  | int (i : Int)
  | float (x : Float)
  | str (t : Text)
  /-- Text that is HTML already. -/
  | safe (t : Text)
  | bytes (b : Bytes)
  | list (items : List Model)
  | tuple (items : List Model)
  | dict (entries : List (Text × Model))
  deriving Inhabited

namespace Model

mutual

def ofJson : Json → Model
  | .null => none
  | .bool b => bool b
  | .int i => int i
  | .float x => float x
  | .str t => str t
  | .arr items => list (ofItems items)
  | .obj members => dict (ofMembers members)

def ofItems : List Json → List Model
  | [] => []
  | j :: rest => ofJson j :: ofItems rest

def ofMembers : List (Text × Json) → List (Text × Model)
  | [] => []
  | (name, j) :: rest => (name, ofJson j) :: ofMembers rest

end

/-- The value of an optional text. -/
def ofText? : Option Text → Model
  | some t => str t
  | Option.none => none

def ofInt? : Option Int → Model
  | some i => int i
  | Option.none => none

end Model

end Stencil
