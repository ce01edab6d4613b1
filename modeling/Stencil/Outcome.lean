import Stencil.Failure

/-!
# Render outcomes

What a finished request delivers: the bytes it rendered or the failure that prevented them.

## Main definitions

- `Outcome` — bytes or a failure, never both and never neither
- `Outcome.ofParts?` — an outcome from its two optional parts
-/

namespace Stencil

/-- The outcome of one request. -/
inductive Outcome where
  | success (value : Bytes)
  | failure (error : Failure)

namespace Outcome

/-- An outcome has exactly one of a value and an error. -/
def ofParts? (value : Option Bytes) (error : Option Failure) : Except Failure Outcome :=
  match value, error with
  | some v, none => .ok (.success v)
  | none, some e => .ok (.failure e)
  | _, _ => .error (.ofText .badValue "RenderResult needs exactly one of value or error")

def value? : Outcome → Option Bytes
  | success v => some v
  | failure _ => none

def error? : Outcome → Option Failure
  | success _ => none
  | failure e => some e

/-- An outcome is made of its parts. -/
theorem ofParts?_parts (o : Outcome) : ofParts? o.value? o.error? = .ok o := by
  cases o <;> rfl

def succeeded : Outcome → Bool
  | success _ => true
  | failure _ => false

def failed : Outcome → Bool
  | success _ => false
  | failure _ => true

/-- The bytes, or the failure raised again. -/
def unwrap : Outcome → Except Failure Bytes
  | success v => .ok v
  | failure e => .error e

end Outcome

end Stencil
