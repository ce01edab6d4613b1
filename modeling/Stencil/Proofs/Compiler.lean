import Stencil.Compiler
import Stencil.Proofs.Fallible

/-!
# What compilation comes to

What cannot be compiled fails as what it is: a fault of the template, of its bytes or of the name of
the encoding. It never looks like something that was cancelled. What can be compiled keeps its name.

## Main definitions

- `Compiler.Makes` — a template is what a compiler makes of a text
- `Compiler.statically` — a compiler in static or in dynamic mode
-/

namespace Stencil

/-- No fault of a template is of the family of problems that are reported about templates. -/
theorem Template.Fault.foreign (f : Fault) : f.failure.kind.isForeign = true := by
  change f.cause.kind.isForeign = true
  cases f.cause with
  | listing d file line => cases d <;> rfl
  | failed r => exact r.foreign
  | _ => rfl

namespace Compiler

open Template

theorem foreign_of_materialize {c : Compiler} {v : Compiled} {f : Failure}
    (fails : c.materialize v = .error f) : f.kind.isForeign = true := by
  rw [materialize] at fails
  split at fails
  · cases fails
  · cases form : c.program v.name v.source with
    | ok program => rw [form] at fails; cases fails
    | error fault =>
      rw [form] at fails
      obtain rfl := Except.error.inj fails
      exact fault.foreign

theorem compileText_kind {c : Compiler} {name source : Text} {f : Failure}
    (fails : c.compileText name source = .error f) : f.kind = .compile := by
  have problem : ∀ fault : Template.Fault, (problem name fault).kind = .compile := by
    intro fault
    rw [Compiler.problem]
    split <;> rfl
  simp only [compileText] at fails
  split at fails
  · split at fails
    · cases fails
    · obtain rfl := Except.error.inj fails
      exact problem _
  · split at fails
    · cases fails
    · obtain rfl := Except.error.inj fails
      exact problem _

/-- What fails is the compilation, or else the encoding is none. -/
theorem compile_fails {c : Compiler} {name : Text} {b : Bytes} {f : Failure}
    (fails : c.compile name b = .error f) : f.kind = .compile ∨ f.kind.isForeign = true := by
  rw [compile] at fails
  obtain decoded | ⟨answer, _, fails⟩ := error_of_bind fails
  · exact .inr (Encoding.foreign_of_decode (by rw [decoded]; rfl))
  · cases answer with
    | error fault =>
      obtain rfl := Except.error.inj fails
      exact .inl rfl
    | ok text => exact .inl (compileText_kind fails)

/-- No compilation fails like something that was cancelled. -/
theorem compile_kind {c : Compiler} {name : Text} {b : Bytes} {f : Failure}
    (fails : c.compile name b = .error f) : f.kind ≠ .cancelled := by
  obtain compile | foreign := compile_fails fails
  · rw [compile]
    exact Kind.noConfusion
  · exact Kind.ne_cancelled_of_isForeign foreign

theorem compileText_name {c : Compiler} {name source : Text} {v : Compiled}
    (compiles : c.compileText name source = .ok v) : v.name = name := by
  simp only [compileText] at compiles
  split at compiles
  · split at compiles
    · exact Except.ok.inj compiles ▸ rfl
    · cases compiles
  · split at compiles
    · exact Except.ok.inj compiles ▸ rfl
    · cases compiles

theorem compile_name {c : Compiler} {name : Text} {b : Bytes} {v : Compiled}
    (compiles : c.compile name b = .ok v) : v.name = name := by
  rw [compile] at compiles
  cases decoded : Encoding.decode c.encoding .refuse b with
  | error f => rw [decoded] at compiles; cases compiles
  | ok answer =>
    rw [decoded] at compiles
    cases answer with
    | error fault => cases compiles
    | ok text => exact compileText_name compiles

/-! ### Compiled templates -/

/-- A template is what a compiler makes of a text. -/
structure Makes (c : Compiler) (name source : Text) (v : Compiled) : Prop where
  named : v.name = name
  sourced : v.source = source
  /-- The text can be read as a template. -/
  reads : ∃ statements, parse c.spacing source = .ok statements
  /-- In static mode its executable form is there from the start. -/
  executable : c.static = true → ∃ program, v.program = some program ∧ c.program name source = .ok program
  /-- In dynamic mode it is not. -/
  deferred : c.static = false → v.program = none

variable {c d : Compiler} {name source : Text} {v : Compiled} {b : Bytes} {f : Failure}

theorem makes_of_compileText (compiles : c.compileText name source = .ok v) :
    c.Makes name source v := by
  simp only [compileText] at compiles
  split at compiles
  · next static =>
    cases executable : c.program name source with
    | error fault => rw [executable] at compiles; cases compiles
    | ok program =>
      rw [executable] at compiles
      cases compiles
      obtain ⟨statements, reads, _⟩ := ok_of_bind executable
      exact ⟨rfl, rfl, ⟨statements, reads⟩, fun _ => ⟨program, rfl, executable⟩,
        fun dynamic => by rw [static] at dynamic; cases dynamic⟩
  · next dynamic =>
    cases reads : parse c.spacing source with
    | error fault => rw [reads] at compiles; cases compiles
    | ok statements =>
      rw [reads] at compiles
      cases compiles
      exact ⟨rfl, rfl, ⟨statements, reads⟩, fun static => absurd static dynamic, fun _ => rfl⟩

/-- What can be compiled is of the mode of the compiler, and has its executable form just in static mode. -/
theorem mode_of_compile (compiles : c.compile name b = .ok v) :
    v.static = c.static ∧ v.isExecutable = c.static := by
  rw [compile] at compiles
  obtain ⟨answer, _, compiles⟩ := ok_of_bind compiles
  cases answer with
  | error fault => cases compiles
  | ok source =>
    simp only [compileText] at compiles
    split at compiles
    · next static =>
      split at compiles
      · cases compiles
        exact ⟨static.symm, static.symm⟩
      · cases compiles
    · next dynamic =>
      split at compiles
      · cases compiles
        simp only [Bool.not_eq_true] at dynamic
        exact ⟨dynamic.symm, dynamic.symm⟩
      · cases compiles

theorem compile_of_decoded (decodes : Encoding.decode c.encoding .refuse b = .ok (.ok source)) :
    c.compile name b = c.compileText name source := by
  rw [compile, decodes]
  rfl

/-- What can be compiled is made of a text. -/
theorem exists_of_compile (compiles : c.compile name b = .ok v) :
    ∃ source, Encoding.decode c.encoding .refuse b = .ok (.ok source) ∧ c.Makes name source v := by
  rw [compile] at compiles
  obtain ⟨answer, decodes, compiles⟩ := ok_of_bind compiles
  cases answer with
  | error fault => cases compiles
  | ok source => exact ⟨source, decodes, makes_of_compileText compiles⟩

/-- A compiler has the executable form of what another one has made, if this depends on it or if both
agree on the form. -/
theorem Makes.materialize (makes : c.Makes name source v)
    (agree : c.static = true → c.program name source = d.program name source) :
    d.materialize v = (d.program name source).mapError Fault.failure := by
  rw [Compiler.materialize]
  cases mode : c.static with
  | true =>
    obtain ⟨program, is, executable⟩ := makes.executable mode
    rw [is, ← agree mode, executable]
    rfl
  | false => rw [makes.deferred mode, makes.named, makes.sourced]

/-- What is compiled in either mode has the executable form of its source, or none. -/
theorem toOption_compileText (c : Compiler) (name source : Text) :
    ((c.compileText name source).toOption.bind fun v => (c.materialize v).toOption) =
      (c.program name source).toOption := by
  cases compiles : c.compileText name source with
  | ok v =>
    change (c.materialize v).toOption = _
    rw [(makes_of_compileText compiles).materialize fun _ => rfl]
    cases c.program name source <;> rfl
  | error f =>
    cases executable : c.program name source with
    | error fault => rfl
    | ok program =>
      -- an executable form shows that the source is compiled in either mode
      obtain ⟨statements, reads, _⟩ := ok_of_bind executable
      simp only [compileText] at compiles
      split at compiles
      · rw [executable] at compiles
        cases compiles
      · rw [reads] at compiles
        cases compiles

/-- A compiler in static or in dynamic mode. -/
def statically (c : Compiler) (static : Bool) : Compiler :=
  { c with static }

/-- What is refused in dynamic mode is refused in static mode for the same reason. -/
theorem refused_statically (fails : (c.statically false).compile name b = .error f) :
    (c.statically true).compile name b = .error f := by
  rw [compile] at fails ⊢
  obtain undecoded | ⟨answer, decodes, fails⟩ := error_of_bind fails
  · change (Encoding.decode c.encoding .refuse b >>= _) = _
    rw [show Encoding.decode c.encoding .refuse b = .error f from undecoded]
    rfl
  · change (Encoding.decode c.encoding .refuse b >>= _) = _
    rw [show Encoding.decode c.encoding .refuse b = .ok answer from decodes]
    cases answer with
    | error fault => exact fails
    | ok source =>
      change (c.statically true).compileText name source = _
      change (c.statically false).compileText name source = _ at fails
      simp only [compileText, statically] at fails ⊢
      cases reads : parse c.spacing source with
      | ok statements => rw [reads] at fails; cases fails
      | error fault =>
        rw [reads] at fails
        have unexecutable : (c.statically true).program name source = .error fault := by
          rw [program]
          change (parse c.spacing source >>= _) = _
          rw [reads]
          rfl
        rw [show ({ c with static := true } : Compiler).program name source = _ from unexecutable]
        exact fails

end Compiler

end Stencil
