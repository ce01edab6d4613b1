import Stencil.Proofs.Template.Skeleton

/-!
# The skeleton of the error page

The program of the built-in error page has a skeleton. It is the same in static and in dynamic mode, and
the options that matter are only whether line breaks behind tags are trimmed and whether that at the end
is kept.

## Main definitions

- `ErrorPage.skeleton` — the texts of the page with its fields

## Main results

- `ErrorPage.shaped` — under all options the program of the page has the skeleton
- `ErrorPage.skeleton_sound` — nothing can go wrong about it
-/

namespace Stencil

open Template

namespace ErrorPage

/-- The variables that the page asks for. -/
def names : List Text := [
  "title", "message", "exception_type", "template_name", "line_number", "stacktrace"]

def head : Text :=
  "<!DOCTYPE html>\n<html>\n<head>\n    <meta charset=\"utf-8\">\n    <title>"

def style : Text := "</title>\n    <style>\n" ++
  "        body \x7b font-family: sans-serif; margin: 2em; color: #222; \x7d\n" ++
  "        h1 \x7b color: #b00020; \x7d\n" ++
  "        dl dt \x7b font-weight: bold; \x7d\n" ++
  "        pre \x7b background: #f5f5f5; padding: 1em; overflow-x: auto; \x7d\n" ++
  "    </style>\n</head>\n<body>\n    <h1>"

/-- The page with its fields. The line break behind a tag may be trimmed, and that at the end is kept on
demand. -/
def skeleton (trim keep : Bool) : Skeleton :=
  let gap : Text := if trim then [] else "\n"
  let ending : Text := if keep then "\n" else []
  let line : Skeleton := .text ":" <| .field "line_number" none .done
  let template : Skeleton :=
    .text (gap ++ "        <dt>Template</dt>\n        <dd>") <| .field "template_name" none <|
    .guarded "line_number" line <| .text "</dd>\n" .done
  let details : Skeleton :=
    .text (gap ++ "    <dl>\n        <dt>Exception</dt>\n        <dd>") <|
    .field "exception_type" none <| .text "</dd>\n" <| .guarded "template_name" template <|
    .text (gap ++ "    </dl>\n") .done
  let trace : Skeleton :=
    .text (gap ++ "    <pre class=\"stacktrace\">") <| .field "stacktrace" none <|
    .text "</pre>\n" .done
  let rest : Skeleton :=
    .guarded "stacktrace" trace <| .text (gap ++ "</body>\n</html>" ++ ending) .done
  .text head <| .field "title" (some "Internal Error") <|
  .text style <| .field "title" (some "Internal Error") <|
  .text "</h1>\n    <p class=\"message\">" <|
  .field "message" (some "An unexpected error occurred.") <| .text "</p>\n" <|
  .guarded "exception_type" details <| if trim then rest else .text gap rest

/-! ### The program of the page -/

/-- A literal is the list of its characters. -/
theorem ofString_ofList (cs : List Char) : Text.ofString (String.ofList cs) = cs.map Char.toNat := by
  rw [Text.ofString, String.toList_ofList]

theorem ofString_append (a b : String) : Text.ofString (a ++ b) = Text.ofString a ++ Text.ofString b := by
  rw [Text.ofString, String.toList_append, List.map_append]
  rfl

/-- Whether the program of some statements has a skeleton, and the names for its slots. -/
def hasSkeleton (s : Switches) (on : Bool) (k : Skeleton) (statements : List Stmt) : Bool :=
  match Program.ofStatements s name statements with
  | .error _ => false
  | .ok p => p.selfSlot = none && p.loads = nameLoads names &&
    Skeleton.ofCode? (Skeleton.escaping on) 100 p.body = some k

/-- Whether the page has the skeleton under all options that go with a spacing. -/
def hasSkeletons (spacing : Spacing) : Bool :=
  match parse spacing source with
  | .error _ => false
  | .ok statements => [true, false].all fun strict => [true, false].all fun on =>
    hasSkeleton { strict, autoescape := .bool on } on
      (skeleton spacing.trimBlocks spacing.keepTrailingNewline) statements

deriving instance DecidableEq for Lexeme, Token

/-- Whether the page is read to the same tokens, whatever is done to blanks in front of tags. -/
def readsAlike (trim keep : Bool) : Bool :=
  let read := Tokens.ofSource ⟨trim, true, keep⟩ source
  let read' := Tokens.ofSource ⟨trim, false, keep⟩ source
  read.fault.isNone && read'.fault.isNone && decide (read.tokens = read'.tokens)

theorem readsAlike_of_all : ∀ trim keep, readsAlike trim keep = true := by
  simp only [readsAlike, source, sourceLines, List.flatMap_cons, List.flatMap_nil, ofString_append]
  repeat rw [ofString_ofList]
  decide +kernel

/-- No tag of the page has blanks in front of it that could be dropped. -/
theorem parse_lstrip (trim lstrip keep : Bool) :
    parse ⟨trim, lstrip, keep⟩ source = parse ⟨trim, false, keep⟩ source := by
  cases lstrip with
  | false => rfl
  | true =>
    have alike := readsAlike_of_all trim keep
    simp only [readsAlike, Bool.and_eq_true, decide_eq_true_eq, Option.isNone_iff_eq_none] at alike
    obtain ⟨⟨none, none'⟩, tokens⟩ := alike
    simp only [parse, none, none', tokens]

/-- The page is read and compiled with every choice of options that matters. -/
theorem hasSkeletons_of_unstripped : ∀ trim keep, hasSkeletons ⟨trim, false, keep⟩ = true := by
  -- the literals are spelled out first, which is much faster than to take them apart
  simp only [hasSkeletons, hasSkeleton, skeleton, source, sourceLines, head, style, names, name,
    List.flatMap_cons, List.flatMap_nil, ofString_append]
  repeat rw [ofString_ofList]
  -- and the choices are not taken all at once, which needs less memory
  rintro (_ | _) <;> decide +kernel

/-- The page is read and compiled with every choice of options. -/
theorem hasSkeletons_of_all (trim lstrip keep : Bool) : hasSkeletons ⟨trim, lstrip, keep⟩ = true := by
  have unstripped := hasSkeletons_of_unstripped trim keep
  rw [hasSkeletons] at unstripped ⊢
  rw [parse_lstrip]
  exact unstripped

/-- **The program of the page** has the skeleton under all options, in static and in dynamic mode. -/
theorem shaped (c : Compiler) : ∃ t, c.compileText name source = .ok t ∧ t.name = name ∧
    t.static = c.static ∧ ∃ p, c.materialize t = .ok p ∧ p.Shaped c.autoEscape names
      (skeleton c.spacing.trimBlocks c.spacing.keepTrailingNewline) := by
  have all : hasSkeletons c.spacing = true := hasSkeletons_of_all _ _ _
  rw [hasSkeletons] at all
  split at all
  · cases all
  next statements parsed =>
  have mem (b : Bool) : b ∈ [true, false] := by cases b <;> decide
  have has : hasSkeleton c.switches c.autoEscape
      (skeleton c.spacing.trimBlocks c.spacing.keepTrailingNewline) statements = true :=
    List.all_eq_true.mp (List.all_eq_true.mp all _ (mem c.strictUndefined)) _ (mem c.autoEscape)
  rw [hasSkeleton] at has
  split at has
  · cases has
  next p made =>
  simp only [Bool.and_eq_true, decide_eq_true_eq] at has
  have program : c.program name source = .ok p := by
    rw [Compiler.program, parsed]
    exact made
  have shape : p.Shaped c.autoEscape names
      (skeleton c.spacing.trimBlocks c.spacing.keepTrailingNewline) :=
    ⟨has.1.1, has.1.2, Skeleton.code_of_ofCode has.2⟩
  rw [Compiler.compileText]
  cases mode : c.static with
  | true => exact ⟨{ name, source, static := true, program := some p }, by simp [program], rfl, rfl,
      p, rfl, shape⟩
  | false =>
    refine ⟨{ name, source, static := false }, by simp [parsed], rfl, rfl, p, ?_, shape⟩
    simp only [Compiler.materialize, program]
    rfl

/-- Nothing can go wrong about the skeleton. -/
theorem skeleton_sound (trim keep : Bool) : (skeleton trim keep).Sound names := by
  cases trim <;> cases keep <;> exact ⟨by decide +kernel, by decide +kernel, by decide +kernel⟩

end ErrorPage

end Stencil
