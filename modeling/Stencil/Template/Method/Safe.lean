import Stencil.Template.Method.Strings
import Stencil.Text.Reference

/-!
# Methods of safe texts

A safe text escapes what it takes in, and what it gives is safe again. Its methods work on the plain
text and mark the result.

## Main definitions

- `SafeMethod.call` — the methods by name
-/

namespace Stencil

namespace Template

open Exec

namespace SafeMethod

/-- A text of the kind of the receiver. -/
def made (safe : Bool) (t : Text) : Value :=
  if safe then .safe t else .str t

/-- A value as escaped text. -/
def escaped (v : Value) : Exec Text := do
  match v with
  | .safe t _ => pure t
  | v => do pure (Markup.escape (← text v))

/-- A value as a safe text; a safe text is that text itself. -/
def escapedValue (v : Value) : Exec Value := do
  match v with
  | .safe .. => pure v
  | v => do pure (.safe (Markup.escape (← text v)))

/-- A result of a method of the plain text, marked as safe. -/
def marked (v : Value) : Exec Value := do
  match v with
  | .str t _ => pure (.safe t)
  | .ref id => match ← fetch id with
    | .list items => newList (items.toList.map mark)
    | .tuple items _ => newTuple (items.toList.map mark)
    | _ => pure v
  | v => pure v
where
  mark : Value → Value
  | .str t _ => .safe t
  | v => v

/-- A text with its character references replaced. -/
def resolved (t : Text) : Exec Text :=
  match Reference.longNumber? intDigitLimit t with
  | some n => raise (tooManyDigits n)
  | none => pure (Reference.resolve t)

/-- The arguments with one of them escaped. -/
def withEscaped (given : Strings.Given) (n : Nat) : Exec Strings.Given := do
  match given.at? n with
  | some v => do
    let v ← escapedValue v
    pure (given.set n (some v))
  | none => pure given

/-- The parts of a safe format are escaped; its fields take arguments by position or by name. -/
def format (t : Text) (args : CallArgs) : Exec Value :=
  Braces.formatSafe (.ofCall args) t

/-- Call a method of a safe text. -/
def call (E : Engine) (self : Value) (t : Text) (name : String) (given : Strings.Given) :
    Exec Value := do
  let plain : Strings.Receiver := { flavour := .text, content := t, self := .str t }
  let ofPlain (given : Strings.Given) : Exec Value := do
    marked (← Strings.call E plain name given)
  match name with
  | "__html__" => pure self
  | "__html_format__" => do
    if ← truth (given.get 0) then
      fail .badValue "Unsupported format specification for Markup."
    else pure self
  | "__repr__" => do pure (.str (← quoted self))
  | "__getitem__" => do marked (← subscript (.str t) (given.get 0))
  | "__add__" => match given.get 0 with
    | .str .. | .safe .. => do pure (.safe (t ++ (← escaped (given.get 0))))
    | _ => pure .notImplemented
  | "__radd__" => match given.get 0 with
    | .str .. | .safe .. => do pure (.safe ((← escaped (given.get 0)) ++ t))
    | _ => pure .notImplemented
  | "__mul__" | "__rmul__" => do
    let n ← repeatCount t.length (← asInteger (given.get 0))
    pure (.safe (Text.repeated n t))
  | "__mod__" => printf true t (given.get 0)
  | "unescape" => do pure (.str (← resolved t))
  | "striptags" => do pure (.str (← resolved (Markup.withoutTags t)))
  | "escape" => escapedValue (given.get 0)
  | "join" => do
    let texts ← forEach (← collect E (given.get 0)) escaped
    pure (.safe (Text.join t texts))
  | "replace" => do ofPlain (← withEscaped given 1)
  | "ljust" | "rjust" | "center" => do ofPlain (← withEscaped given 1)
  | "split" | "rsplit" =>
    ofPlain [some (given.get 0), some ((given.at? 1).getD (.int (-1)))]
  | "format_map" => Braces.formatSafe (.ofMapping (some []) (given.get 0)) t
  | _ => ofPlain given

end SafeMethod

end Template

end Stencil
