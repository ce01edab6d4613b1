import Stencil.Compiler
import Stencil.Proofs.Template.Skeleton

/-!
# Plain sources

A source in which no tag, expression or comment begins is a single piece of data. It always has an
executable form, unless the template has a name that the listing cannot have, and what that writes is the
source as it was read.

## Main definitions

- `Source.Plain` — a text in which nothing begins that is more than text
- `Skeleton.ofText` — the template that only writes a text

## Main results

- `Source.plain_normalize` — reading a source does not make it less plain
- `parse_of_plain` — the statements of a plain source
- `Compiler.program_of_plain` — its executable form
-/

namespace Stencil

namespace Template

namespace Source

/-! ### Texts without tags -/

/-- A text in which no expression, tag or comment begins. -/
def Plain (t : Text) : Prop :=
  ∀ mark ∈ ([123, 37, 35] : List CodePoint), ¬[123, mark] <:+: t

theorem Plain.of_part {t u : Text} (plain : Plain t) (part : u <:+: t) : Plain u :=
  fun mark mem inside => plain mark mem (inside.trans part)

theorem Plain.tail {c : CodePoint} {t : Text} (plain : Plain (c :: t)) : Plain t :=
  plain.of_part (List.suffix_cons c t).isInfix

/-- What follows a brace does not make it an opening one. -/
theorem Plain.behind {mark : CodePoint} {t : Text} (plain : Plain (123 :: mark :: t)) :
    mark ∉ ([123, 37, 35] : List CodePoint) :=
  fun mem => plain mark mem ⟨[], t, rfl⟩

theorem head_unixLines {t : Text} {c : CodePoint} (other : c ≠ Text.newline)
    (is : (unixLines t).head? = some c) : t.head? = some c := by
  fun_cases unixLines t with
  | case1 => exact is
  | case2 rest | case3 rest =>
    rw [unixLines] at is
    · exact absurd (Option.some.inj is).symm other
    all_goals assumption
  | case4 d rest =>
    rw [unixLines] at is <;> assumption

/-- Rewriting line breaks brings no two code points together of which neither is a line break. -/
theorem infix_of_unixLines {t : Text} {a b : CodePoint} (one : a ≠ Text.newline)
    (other : b ≠ Text.newline) (inside : [a, b] <:+: unixLines t) : [a, b] <:+: t := by
  fun_induction unixLines t with
  | case1 => exact inside
  | case2 rest ih | case3 rest _ ih =>
    obtain first | later := List.infix_cons_iff.mp inside
    · exact absurd (List.cons_prefix_cons.mp first).1 one
    · refine (ih later).trans (List.IsSuffix.isInfix ?_)
      simp only [List.suffix_cons_iff, List.suffix_refl, or_true]
  | case4 c rest _ _ ih =>
    obtain first | later := List.infix_cons_iff.mp inside
    · obtain ⟨rfl, more, first⟩ := List.cons_prefix_cons.mp first
      have next : (unixLines rest).head? = some b := by
        rw [← first]
        rfl
      obtain ⟨more, rfl⟩ := List.head?_eq_some_iff.mp (head_unixLines other next)
      exact ⟨[], more, rfl⟩
    · exact (ih later).trans ⟨[c], [], by simp⟩

theorem plain_unixLines {t : Text} (plain : Plain t) : Plain (unixLines t) := by
  intro mark mem inside
  refine plain mark mem (infix_of_unixLines (by decide) ?_ inside)
  rintro rfl
  revert mem
  decide

theorem withoutFinalNewline_initial (t : Text) : withoutFinalNewline t <+: t := by
  rw [withoutFinalNewline]
  split
  · exact List.dropLast_prefix t
  · exact List.prefix_refl t

/-- **Reading a source** does not make it less plain. -/
theorem plain_normalize (spacing : Spacing) {t : Text} (plain : Plain t) :
    Plain (normalize spacing t) := by
  simp only [normalize]
  split
  · exact plain_unixLines plain
  · exact (plain_unixLines plain).of_part (withoutFinalNewline_initial _).isInfix

/-- Line feeds are all that reading a source can bring into it. -/
theorem mem_normalize {spacing : Spacing} {t : Text} {c : CodePoint}
    (mem : c ∈ normalize spacing t) : c ∈ t ∨ c = Text.newline := by
  have written : ∀ t : Text, c ∈ unixLines t → c ∈ t ∨ c = Text.newline := by
    intro t mem
    fun_induction unixLines t with
    | case1 => exact .inl mem
    | case2 rest ih | case3 rest _ ih | case4 d rest _ _ ih =>
      obtain rfl | mem := List.mem_cons.mp mem
      · first
        | exact .inr rfl
        | exact .inl List.mem_cons_self
      · exact (ih mem).imp_left fun mem => by simp [mem]
  simp only [normalize] at mem
  split at mem
  · exact written t mem
  · exact written t ((withoutFinalNewline_initial _).subset mem)

/-- A source without carriage returns and without a line feed at its end is read as it is. -/
theorem normalize_of_clean (spacing : Spacing) {t : Text} (unix : 13 ∉ t)
    (open_ : t.getLast? ≠ some Text.newline) : normalize spacing t = t := by
  have lines : unixLines t = t := by
    clear open_
    fun_induction unixLines t with
    | case1 => rfl
    | case2 rest | case3 rest => exact absurd List.mem_cons_self unix
    | case4 c rest _ _ ih => rw [ih fun mem => unix (List.mem_cons_of_mem c mem)]
  rw [normalize, lines, withoutFinalNewline, if_neg open_, ite_self]

end Source

/-! ### The tokens and statements of a plain source -/

open Source

theorem Lexer.opening?_of_plain {t : Text} (plain : Plain t) : opening? t = none := by
  have raw : rawBegin? t = none := by
    fun_cases rawBegin? t with
    | case1 rest => exact absurd (by decide) plain.behind
    | case2 => rfl
  fun_cases opening? t with
  | case1 s rest found => cases raw.symm.trans ‹rawBegin? t = _›
  | case2 | case3 | case4 => exact absurd (by decide) plain.behind
  | case5 => rfl

/-- No tag interrupts a plain text. -/
theorem Lexer.untilOpening_of_plain {t : Text} (plain : Plain t) : untilOpening t = (t, none) := by
  induction t with
  | nil => rfl
  | cons c rest ih =>
    rw [untilOpening, opening?_of_plain plain, ite_self]
    simp only [ih plain.tail]

/-- The tokens of a plain source: what it reads as, unless that is empty. -/
theorem Tokens.ofSource_of_plain (spacing : Spacing) {source : Text} (plain : Plain source) :
    Tokens.ofSource spacing source = { tokens := Lexer.dataToken 1 (normalize spacing source) } := by
  have read := plain_normalize spacing plain
  rw [Tokens.ofSource]
  generalize normalize spacing source = t at read ⊢
  cases t with
  | nil => rfl
  | cons c rest =>
    -- the first round takes all there is, and the second one ends
    have first : Lexer.round spacing { cursor := { rest := c :: rest } } =
        .go (Lexer.dataToken 1 (c :: rest)) {
          cursor := Cursor.skip { rest := c :: rest } (c :: rest)
          atLineStart := Lexer.endsLine (c :: rest) } := by
      rw [Lexer.round, Lexer.textRound]
      simp only [Lexer.untilOpening_of_plain read]
      rfl
    have last : (Cursor.skip { rest := c :: rest } (c :: rest)).rest = [] := List.drop_length
    have second : Lexer.round spacing {
          cursor := Cursor.skip { rest := c :: rest } (c :: rest)
          atLineStart := Lexer.endsLine (c :: rest) } = .stop [] none := by
      rw [Lexer.round, Lexer.textRound, last]
      rfl
    rw [List.length_cons, Lexer.run, first]
    dsimp only
    rw [Lexer.run, second]
    rfl

/-- The statements that only write a text. -/
def statementsOf (t : Text) : List Stmt :=
  if t.isEmpty then [] else [.output [.data t]]

/-- **The statements of a plain source** write what it is read as. -/
theorem parse_of_plain (spacing : Spacing) {source : Text} (plain : Plain source) :
    parse spacing source = .ok (statementsOf (normalize spacing source)) := by
  rw [parse, Tokens.ofSource_of_plain spacing plain]
  cases normalize spacing source <;> rfl

/-! ### The executable form of a plain source -/

/-- The template that only writes a text. -/
def Skeleton.ofText (t : Text) : Skeleton :=
  if t.isEmpty then .done else .text t .done

theorem Skeleton.write_ofText (escaping : Bool) (vars : Text → Option Model) (t : Text) :
    (ofText t).write escaping vars = t := by
  cases t with
  | nil => rfl
  | cons c t => exact List.append_nil _

theorem Skeleton.sound_ofText (t : Text) : (ofText t).Sound [] := by
  have low : 0 + 4 ≤ depthLimit := by decide
  cases t <;> exact ⟨fun _ mem => absurd mem List.not_mem_nil, rfl, low⟩

/-- Where no filter and no test is mentioned, none is looked up. -/
theorem Lower.lookUp_of_none {several : List Stmt} (none : mentionedBody several = {}) :
    lookUp several = pure () := by
  have numbered (known : List (Text × Nat)) : numbered known [] = pure known := by
    simp [Lower.numbered]
  rw [lookUp, none]
  simp only [numbered]
  rfl

theorem mentionedBody_statementsOf (t : Text) : mentionedBody (statementsOf t) = {} := by
  cases t with
  | nil => exact mentionedBody.eq_1
  | cons c t =>
    change mentionedBody [.output [.data (c :: t)]] = _
    rw [mentionedBody, Stmt.mentioned, mentionedAll, Expr.mentioned, mentionedAll, mentionedBody]
    rfl

/-- **Statements that only write a text** have an executable form that does so, unless the template has a
name with a NUL. -/
theorem Program.ofStatements_text (strict escaping : Bool) {name : Text} (whole : 0 ∉ name) (t : Text) :
    ∃ program, Program.ofStatements { strict, autoescape := .bool escaping } name (statementsOf t) =
      .ok program ∧ program.Shaped escaping [] (.ofText t) := by
  have named : name.contains 0 = false := by simpa using whole
  have nothing := Lower.lookUp_of_none (mentionedBody_statementsOf t)
  let program : Program := {
    name, selfSlot := none, loads := [], blocks := [], autoescape := escaping, strict
    body := (Skeleton.ofText t).code (Skeleton.escaping escaping) }
  refine ⟨program, ?_, rfl, rfl, rfl⟩
  rw [Program.ofStatements]
  cases t with
  | nil =>
    simp only [Lower.program, Lower.checkListing, named, nothing]
    cases escaping <;> rfl
  | cons c t =>
    have written : statementsOf (c :: t) = [.output [.data (c :: t)]] := rfl
    rw [written] at nothing ⊢
    have names : Lower.rootNames ["self"] [.output [.data (c :: t)]] = Lower.rootNames ["self"] [] := rfl
    have all : allOf [.output [.data (c :: t)]] = [.output [.data (c :: t)]] := rfl
    simp only [Lower.program, Lower.checkListing, named, nothing, names, all]
    cases escaping <;> rfl

end Template

open Template

namespace Compiler

/-- **A plain source** has an executable form that writes what the source is read as, unless the template
has a name with a NUL. -/
theorem program_of_plain (c : Compiler) {name : Text} (whole : 0 ∉ name) {source : Text}
    (plain : Source.Plain source) : ∃ program, c.program name source = .ok program ∧
      program.Shaped c.autoEscape [] (.ofText (Source.normalize c.spacing source)) := by
  obtain ⟨program, is, shaped⟩ := Program.ofStatements_text c.strictUndefined c.autoEscape whole
    (Source.normalize c.spacing source)
  refine ⟨program, ?_, shaped⟩
  rw [Compiler.program, parse_of_plain c.spacing plain]
  exact is

/-- A plain source is compiled in either mode, to what has its executable form. -/
theorem compileText_of_plain (c : Compiler) {name : Text} (whole : 0 ∉ name) {source : Text}
    (plain : Source.Plain source) : ∃ v program, c.compileText name source = .ok v ∧ v.name = name ∧
      c.materialize v = .ok program ∧
      program.Shaped c.autoEscape [] (.ofText (Source.normalize c.spacing source)) := by
  obtain ⟨program, is, shaped⟩ := c.program_of_plain whole plain
  rw [compileText]
  cases c.static with
  | true => exact ⟨_, program, by rw [if_pos rfl, is], rfl, rfl, shaped⟩
  | false =>
    refine ⟨_, program, by rw [if_neg Bool.false_ne_true, parse_of_plain c.spacing plain], rfl, ?_, shaped⟩
    rw [materialize, is]
    rfl

end Compiler

end Stencil
