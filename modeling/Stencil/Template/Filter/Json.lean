import Stencil.Json.Writer
import Stencil.Template.Filter.Text

/-!
# Values as JSON

## Main definitions

- `Filter.json` — the JSON text of a value
- `Filter.toJson` — the same as text that is safe inside HTML
-/

namespace Stencil

namespace Template

open Exec

namespace Filter

/-- The name that a key has in JSON. -/
def jsonKey (k : Value) : Exec Text := do
  match k with
  | .str t _ | .safe t _ => pure t
  | .int i _ => ofExcept (intText i)
  | .bool b => pure (if b then "true" else "false")
  | .none => pure "null"
  | .float x _ => pure (Json.writeFloat x)
  | k => do
    typeError (("keys must be str, int, float, bool or None, not " : Text) ++ (← typeName k))

/-- A value in JSON, members sorted by their names. With an indentation every item has a line.
`outer` are the containers around the value. -/
def json (indentation : Option Text) : Nat → List Nat → Text → Value → Exec Text
  | 0, _, _, _ => fail .recursion "maximum recursion depth exceeded while encoding a JSON object"
  | fuel + 1, outer, margin, v => do
    let inner := margin ++ indentation.getD []
    let comma : Text := match indentation with
      | some _ => ",\n" ++ inner
      | none => ", "
    let wrapped (first last : Text) (items : List Text) : Text :=
      if items.isEmpty then first ++ last
      else match indentation with
        | some _ => first ++ "\n" ++ inner ++ Text.join comma items ++ "\n" ++ margin ++ last
        | none => first ++ Text.join comma items ++ last
    let refuse : Exec Text := do
      typeError (("Object of type " : Text) ++ (← typeName v) ++ " is not JSON serializable")
    match v with
    | .str t _ | .safe t _ => pure (Json.writeString t)
    | .int i _ => ofExcept (intText i)
    | .bool b => pure (if b then "true" else "false")
    | .none => pure "null"
    | .float x _ => pure (Json.writeFloat x)
    | .ref id =>
      let circular : Exec Unit :=
        if outer.contains id then fail .badValue "Circular reference detected" else pure ()
      match ← fetch id with
      | .list items | .tuple items _ => do
        if !items.isEmpty then circular
        pure (wrapped "[" "]" (← forEach items.toList (json indentation fuel (id :: outer) inner)))
      | .dict es => do
        if !es.isEmpty then circular
        let sorted ← sortBy (fun a b => less a.1 b.1) es.toList
        let members ← forEach sorted fun (k, x) => do
          let name ← jsonKey k
          pure (Json.writeString name ++ ": " ++ (← json indentation fuel (id :: outer) inner x))
        pure (wrapped "\x7b" "\x7d" members)
      | _ => refuse
    | _ => refuse

/-- Characters with a meaning in HTML as JSON escapes. -/
def htmlSafe (t : Text) : Text :=
  t.flatMap fun c =>
    if c = 60 ∨ c = 62 ∨ c = 38 ∨ c = 39 then "\\u" ++ Text.hex 4 c else [c]

/-- The blanks or the text in front of the lines of a value in JSON; none for a text, which has one
line. -/
def jsonIndentation (E : Engine) (v indent : Value) : Exec (Option Text) := do
  if v.asText?.isSome || isNone indent then pure none
  else match indent.asText? with
    | some t => pure (some t)
    | none => do
      let blanks ← binaryBy "*" (collect E) .mul (.str " ") indent
      pure (some (blanks.asText?.getD []))

def toJson (E : Engine) (v indent : Value) : Exec Value := do
  let indentation ← jsonIndentation E v indent
  pure (.safe (htmlSafe (← json indentation nestingLimit [] [] v)))

end Filter

end Template

end Stencil
