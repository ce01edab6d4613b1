import Stencil.Proofs.Pipeline.Ensures
import Stencil.Proofs.Pipeline.Failures

/-!
# What requests render

Which bytes a request ends with follows from the executable forms that names stand for. It does not
matter how a name resolves, as long as the template has that form, nor in which mode it was compiled.

## Main definitions

- `Pipeline.program?` — the executable form that comes of a resolution
- `Pipeline.outputOf` — the output of an executable template, nested templates included
- `Pipeline.rendition` — the bytes of a whole request
- `Pipeline.standing` — the executable form of what is stored under a name
- `Routine.Results` — a routine ends well exactly if there is a result, and with that one

## Main results

- `Pipeline.Resolves.renderFile_results`

## Design notes

A name that cannot be resolved and one whose template has no executable form are the same here: either
way there is no output. They differ in the failure that is reported. Of failures it is only followed
whether they are compile problems, since these come of the name that was asked for and of no other.
-/

namespace Stencil

open Template

namespace Template

/-- The result of a computation that asks for no template. -/
def Exec.alone? {α : Type} (x : Exec α) (m : Machine) : Option (α × Machine) :=
  match x m with
  | .done (.ok a) m => some (a, m)
  | _ => none

end Template

namespace Pipeline

/-- The result of a computation, if the templates that it asks for come to what `answer` says. -/
def result? {α : Type} (answer : HelperCall → Stage → Option (Value × Stage)) (helpers : List Helper) :
    Step α → Option (α × Stage)
  | .done (.ok a) m => some (a, ⟨m, helpers⟩)
  | .done (.error _) _ => none
  | .nested call m resume =>
    answer call ⟨m, helpers⟩ >>= fun (v, s) => result? answer s.helpers (resume v s.machine)

/-- The executable form that comes of a resolution. -/
def program? (p : Pipeline) (o : Except Failure Compiled) : Option Program :=
  o.toOption.bind fun v => (p.compiler.materialize v).toOption

/-- The executable form of what is stored under a name when paths hold these contents. -/
def standing (p : Pipeline) (c : Contents) (name : Text) : Option Program := do
  let b ← (c (p.templatePath name)).toOption
  let answer ← (Encoding.decode p.compiler.encoding .refuse b).toOption
  let source ← answer.toOption
  (p.compiler.program name source).toOption

/-- The output of an executable template in which the templates that it asks for come to what `answer`
says. -/
def ran (answer : HelperCall → Stage → Option (Value × Stage)) (program : Program) (own : Helper)
    (s : Stage) : Option (Text × Stage) := do
  let given ← (variablesOf own.model s.helpers.length).toOption
  result? answer (s.helpers ++ [own]) (program.render given s.machine)

/-- The executable template that a helper is called for, with a helper of its own, if names stand for
what `stands` says. -/
def prepared? (stands : Text → Option Program) (helper : Helper) (call : HelperCall) (m : Machine) :
    Option ((Program × Helper) × Machine) := do
  let name ← call.name.asText?
  let (entries, m) ← (nestedModel helper.model call).alone? m
  let program ← stands name
  pure ((program, ⟨entries, helper.chain ++ [name]⟩), m)

/-- The output of the template that a helper is called for, as a value, if `output` is what executable
templates come to. -/
def included (depth : Int) (stands : Text → Option Program)
    (output : Program → Helper → Stage → Option (Text × Stage)) (call : HelperCall) (s : Stage) :
    Option (Value × Stage) :=
  let helper := s.helpers.getD call.helper default
  if depth ≤ helper.chain.length then none
  else do
    let ((program, own), m) ← prepared? stands helper call s.machine
    let (t, s) ← output program own { s with machine := m }
    pure (.safe t, s)

/-- The output of an executable template, with room for so many templates under way at once. -/
def outputOf (depth : Int) (stands : Text → Option Program) :
    Nat → Program → Helper → Stage → Option (Text × Stage)
  | 0 => fun _ _ _ => none
  | room + 1 => ran (included depth stands (outputOf depth stands room))

/-- The bytes that a template is rendered to, if names stand for these executable ones. -/
def rendition (p : Pipeline) (stands : Text → Option Program) (name : Text) (model : Option Model) :
    Option Bytes := do
  let (entries, m) ← (givenEntries model).alone? { strict := p.compiler.strictUndefined }
  let program ← stands name
  let (output, _) ← outputOf p.maxDepth stands p.room program ⟨entries, [name]⟩ { machine := m }
  (p.encoded .refuse name output).toOption

end Pipeline

/-! ### What names stand for -/

namespace Pipeline

variable {p q : Pipeline} {c : Contents} {name : Text} {v : Compiled}

/-- A name stands for the executable form of what is stored under it. -/
theorem program?_resolution (p : Pipeline) (c : Contents) (name : Text) :
    p.program? (p.resolution c name) = p.standing c name := by
  rw [program?, resolution, standing]
  cases c (p.templatePath name) with
  | error f => rfl
  | ok b =>
    change ((p.compiler.compile name b).toOption.bind _) =
      ((Encoding.decode p.compiler.encoding .refuse b).toOption >>= _)
    rw [Compiler.compile]
    cases Encoding.decode p.compiler.encoding .refuse b with
    | error f => rfl
    | ok answer =>
      cases answer with
      | error fault => rfl
      | ok source => exact p.compiler.toOption_compileText name source

/-- What another pipeline has compiled is executed like what is stored, if both find it in the same place
and read it alike, and if the executable form that may come with it is the same. -/
theorem program?_of_resolution (path : q.templatePath name = p.templatePath name)
    (reads : q.compiler.encoding = p.compiler.encoding)
    (agree : q.compiler.static = true → q.compiler.program name = p.compiler.program name)
    (resolves : q.resolution c name = .ok v) : p.program? (.ok v) = p.standing c name := by
  obtain ⟨b, stored, compiles⟩ := exists_of_resolution resolves
  obtain ⟨source, decodes, makes⟩ := Compiler.exists_of_compile compiles
  have form := makes.materialize (d := p.compiler) fun static => congrFun (agree static) source
  rw [standing, ← path, stored, ← reads]
  change (p.compiler.materialize v).toOption = ((Encoding.decode _ .refuse b).toOption >>= _)
  rw [decodes, form]
  change _ = (p.compiler.program name source).toOption
  cases p.compiler.program name source <;> rfl

end Pipeline

/-! ### Routines with known results -/

/-- A failure that is no compile problem. -/
def Failure.Executing (f : Failure) : Prop :=
  f.kind ≠ .compile

theorem Failure.executing_of_foreign {f : Failure} (foreign : f.kind.isForeign = true) :
    f.Executing := by
  intro compile
  rw [compile] at foreign
  cases foreign

section Results

variable {V α β : Type} {t : Terms V}

/-- An outcome is the result if there is one, and else a failure of which `F` holds. -/
def Routine.Meets (F : Failure → Prop) (x : Option α) : Except Failure α → Prop
  | .ok a => x = some a
  | .error f => x = none ∧ F f

/-- A routine keeps its terms and ends well exactly if there is a result, and then with that one. If it
fails, `F` holds of the failure. -/
def Routine.Results (t : Terms V) (F : Failure → Prop) (x : Option α) (r : Routine V α) : Prop :=
  ∀ c, t.contents c → r.Ensures t (fun _ => Meets F x) c

namespace Routine

variable {F F' : Failure → Prop} {x : Option α} {r : Routine V α}

theorem Meets.toOption {o : Except Failure α} (meets : Meets F x o) : o.toOption = x := by
  cases o with
  | ok a => exact meets.symm
  | error f => exact meets.1.symm

theorem results_pure (a : α) : Results t F (some a) (pure a) :=
  fun _ _ => rfl

theorem results_fail {f : Failure} (fails : F f) : Results t F (none : Option α) (fail f) :=
  fun _ _ => ⟨rfl, fails⟩

theorem results_ofExcept {r : Except Failure α} (fails : ∀ f, r = .error f → F f) :
    Results t F r.toOption (ofExcept r) := by
  cases r with
  | ok a => exact results_pure a
  | error f => exact results_fail (fails f rfl)

theorem Results.mono (results : Results t F x r) (weaker : ∀ f, F f → F' f) : Results t F' x r := by
  refine fun c met => (results c met).mono fun _ o meets => ?_
  cases o with
  | ok a => exact meets
  | error f => exact ⟨meets.1, weaker f meets.2⟩

theorem Results.act {a : Act V} (allowed : ∀ c, t.contents c → t.allowed c a)
    (results : Results t F x r) : Results t F x (perform a >>= fun _ => r) :=
  fun c met => ⟨allowed c met, results c met⟩

theorem Results.bind {f : α → Routine V β} {g : α → Option β} (results : Results t F x r)
    (next : ∀ a, x = some a → Results t F (g a) (f a)) : Results t F (x >>= g) (r >>= f) := by
  intro c met
  refine ((results c met).met met).bind ?_ ?_
  · rintro c a ⟨met, rfl⟩
    exact next a rfl c met
  · rintro c e ⟨met, rfl, fails⟩
    exact ⟨rfl, fails⟩

/-- What goes on after a result fails in any case. -/
theorem Results.fails {f : α → Routine V β} (results : Results t F x r)
    (next : ∀ a, Results t F none (f a)) : Results t F none (r >>= f) := by
  have none_of_all : (x >>= fun _ => (none : Option β)) = none := by cases x <;> rfl
  exact none_of_all ▸ results.bind fun a _ => next a

/-- A failure may be handled, but it stays one. -/
theorem Results.handle {f : Failure → Routine V α} (results : Results t F x r)
    (fails : ∀ e, F e → Results t F' none (f e)) : Results t F' x (r.handle f) := by
  intro c met
  refine ((results c met).met met).handle ?_ ?_
  · rintro c e ⟨met, rfl, failed⟩
    exact fails e failed c met
  · rintro c a ⟨met, is⟩
    exact is

end Routine

end Results

namespace Pipeline

open Routine Failure

/-- A failure is classified as a render problem if it is not of the family. -/
theorem executing_classify {f : Failure} (executing : f.Executing) (template : Text) :
    (classify template f).Executing := by
  rw [classify]
  split
  · exact executing
  · intro compile
    cases compile

/-- A compile problem of a nested template is a render problem of the one around it. -/
theorem executing_nestedFailure (name outer : Text) (f : Failure) :
    (nestedFailure name outer f).Executing := by
  rw [nestedFailure]
  split
  · intro compile
    cases compile
  · next other => exact fun compile => other (.inr compile)

theorem executing_encoded {p : Pipeline} {rule : Replacement} {name output : Text} {f : Failure}
    (fails : p.encoded rule name output = .error f) : f.Executing := by
  cases encodes : Encoding.encode p.encoding rule output with
  | error g =>
    rw [encoded, encodes] at fails
    obtain rfl := Except.error.inj fails
    exact executing_of_foreign (Encoding.foreign_of_encode (by rw [encodes]; rfl))
  | ok answer =>
    rw [encoded, encodes] at fails
    cases answer with
    | ok bytes => cases fails
    | error fault =>
      obtain rfl := Except.error.inj fails
      intro compile
      cases compile

section

variable {p : Pipeline} {t : Terms Compiled} {sure : Prop} {R : Text → Except Failure Compiled → Prop}
  {stands : Text → Option Program}

theorem results_onMachine {α : Type} (x : Exec α) (m : Machine) :
    Results t Executing (x.alone? m) (onMachine x m) := by
  rw [Exec.alone?, onMachine]
  cases x m with
  | done result m =>
    cases result with
    | ok a => exact results_pure (a, m)
    | error f => exact results_fail (executing_of_foreign f.foreign)
  | nested call m resume =>
    refine results_fail fun compile => ?_
    cases compile

theorem results_follow {α : Type} {answer : HelperCall → Stage → Request (Value × Stage)}
    {inner : HelperCall → Stage → Option (Value × Stage)}
    (answers : ∀ call s, Results t Executing (inner call s) (answer call s)) (helpers : List Helper)
    (x : Step α) : Results t Executing (result? inner helpers x) (follow answer helpers x) := by
  induction x generalizing helpers with
  | done result m =>
    cases result with
    | ok a => exact results_pure (a, _)
    | error f => exact results_fail (executing_of_foreign f.foreign)
  | nested call m resume ih =>
    exact (answers call _).bind fun x _ => ih x.1 x.2.machine x.2.helpers

/-- What the resolution of a nested name comes to. -/
def Resolved (R : Text → Except Failure Compiled → Prop) (name : Value) (m : Machine)
    (o : Except Failure (Compiled × Machine)) : Prop :=
  (∃ n v, name.asText? = some n ∧ R n (.ok v) ∧ o = .ok (v, m)) ∨
  (∃ f, o = .error f) ∧ ∀ n, name.asText? = some n → ∃ f, R n (.error f)

theorem resolved_of_fails {F : Failure → Prop} {name : Value} {m : Machine}
    (isNone : name.asText? = none) {r : Request (Compiled × Machine)} (results : Results t F none r)
    {c : Contents} (met : t.contents c) : r.Ensures t (fun _ => Resolved R name m) c := by
  refine (results c met).mono fun _ o ends => .inr ⟨?_, fun n text => ?_⟩
  · cases o with
    | ok a => cases ends
    | error f => exact ⟨f, rfl⟩
  · rw [isNone] at text
    cases text

variable (resolves : p.Resolves t sure R)

include resolves

/-- A nested name resolves to what it should, and a value that is no name does not. -/
theorem Resolves.resolveValue_ensures (name : Value) (m : Machine) {c : Contents} (met : t.contents c) :
    (p.resolveValue name m).Ensures t (fun _ => Resolved R name m) c := by
  have named (n path : Text) (text : name.asText? = some n) (is : path = p.templatePath n) :
      ((do pure (← p.resolveAt n path, m)) : Request (Compiled × Machine)).Ensures t
        (fun _ => Resolved R name m) c := by
    rw [is]
    refine (resolves.resolveAt_ensures p.singleFlight n met).bind
      (fun c v ends => .inl ⟨n, v, text, ends, rfl⟩) fun c f ends => .inr ⟨⟨f, rfl⟩, fun n' text' => ?_⟩
    obtain rfl := Option.some.inj (text.symm.trans text')
    exact ⟨f, ends⟩
  cases name with
  | str n h => exact named n _ rfl rfl
  | safe n h =>
    refine named n _ rfl ?_
    rw [resolves.plain, templatePath, Path.join]
    split <;> rfl
  | _ =>
    refine resolved_of_fails (F := fun _ => True) rfl ?_ met
    have computes {α : Type} (x : Exec α) (m : Machine) :
        Results t (fun _ => True) (x.alone? m) (onMachine x m) :=
      (results_onMachine x m).mono fun _ _ => trivial
    refine (computes _ m).fails fun x => ?_
    refine .act (fun c _ => resolves.reports c (.miss _) trivial) ?_
    refine .act (fun c _ => resolves.reports c (.count _) trivial) ?_
    exact (computes _ _).fails fun _ => results_fail trivial

variable (meaning : ∀ name o, R name o → p.program? o = stands name)

include meaning

/-- The template that a helper is called for is what its name stands for. -/
theorem Resolves.prepare_ensures (helper : Helper) (call : HelperCall) (m : Machine) {c : Contents}
    (met : t.contents c) :
    (p.prepare helper call m).Ensures t (fun c o => t.contents c ∧
      ((∃ n v own m', R n (.ok v) ∧ o = .ok ((v, own), m') ∧
        prepared? stands helper call m = stands n >>= fun program => pure ((program, own), m')) ∨
      ∃ f, o = .error f ∧ f.Executing ∧ prepared? stands helper call m = none)) c := by
  have resolved : ((p.resolveValue call.name m).handle fun f => Routine.fail
      (nestedFailure (call.name.asText?.getD []) (helper.chain.getLastD []) f)).Ensures t
        (fun c o => t.contents c ∧ Resolved R call.name m o ∧ ∀ f, o = .error f → f.Executing) c := by
    refine ((resolves.resolveValue_ensures call.name m met).met met).handle ?_ ?_
    · rintro c f ⟨met, ⟨_, _, _, _, is⟩ | ⟨_, names⟩⟩
      · cases is
      · refine ⟨met, .inr ⟨⟨_, rfl⟩, names⟩, ?_⟩
        rintro _ ⟨⟩
        exact executing_nestedFailure _ _ f
    · rintro c v ⟨met, ends⟩
      refine ⟨met, ends, ?_⟩
      rintro _ ⟨⟩
  rw [prepared?, Pipeline.prepare]
  refine resolved.bind ?_ ?_
  · rintro c ⟨v, m'⟩ ⟨met, ⟨n, v', text, ends, is⟩ | ⟨⟨_, is⟩, _⟩, _⟩
    · cases is
      rw [text]
      refine ((results_onMachine (nestedModel helper.model call) m c met).met met).bind ?_ ?_
      · rintro c ⟨entries, m₁⟩ ⟨met, given⟩
        refine ⟨met, .inl ⟨n, v, _, _, ends, rfl, ?_⟩⟩
        change ((nestedModel helper.model call).alone? m >>= _) = _
        rw [given]
        rfl
      · rintro c f ⟨met, given, executing⟩
        refine ⟨met, .inr ⟨f, rfl, executing, ?_⟩⟩
        change ((nestedModel helper.model call).alone? m >>= _) = _
        rw [given]
        rfl
    · cases is
  · rintro c f ⟨met, ⟨_, _, _, _, is⟩ | ⟨_, names⟩, executing⟩
    · cases is
    · refine ⟨met, .inr ⟨f, rfl, executing f rfl, ?_⟩⟩
      cases text : call.name.asText? with
      | none => rfl
      | some n =>
        obtain ⟨f, ends⟩ := names n text
        have nothing : stands n = none := (meaning n _ ends).symm
        cases given : (nestedModel helper.model call).alone? m with
        | none => rfl
        | some x =>
          change (stands n >>= _) = none
          rw [nothing]
          rfl

/-- What is nested has the output of what its name stands for. -/
theorem Resolves.nested_results {output : Program → Helper → Stage → Option (Text × Stage)}
    {run : Compiled → Helper → Stage → Request (Text × Stage)}
    (runs : ∀ v own s, (∃ n, R n (.ok v)) → Results t Executing
      (p.program? (.ok v) >>= fun program => output program own s) (run v own s))
    (call : HelperCall) (s : Stage) :
    Results t Executing (included p.maxDepth stands output call s) (p.nested run call s) := by
  rw [Pipeline.nested, included]
  generalize s.helpers.getD call.helper default = helper
  by_cases deep : p.maxDepth ≤ helper.chain.length
  · simp only [deep, ↓reduceIte]
    refine (results_onMachine _ s.machine).fails fun _ => results_fail fun compile => ?_
    cases compile
  simp only [deep, ↓reduceIte]
  refine fun c met => (resolves.prepare_ensures meaning helper call s.machine met).bind ?_ ?_
  · rintro c ⟨⟨v, own⟩, m⟩ ⟨met, ⟨n, _, _, _, ends, is, prepared⟩ | ⟨_, is, _⟩⟩
    · cases is
      have output := (runs v own { s with machine := m } ⟨n, ends⟩).bind fun x _ =>
        results_pure (Value.safe x.1, x.2)
      rw [meaning n _ ends] at output
      rw [prepared, bind_assoc]
      rw [bind_assoc] at output
      exact output c met
    · cases is
  · rintro c f ⟨met, ⟨_, _, _, _, _, is, _⟩ | ⟨_, is, executing, prepared⟩⟩
    · cases is
    · cases is
      rw [prepared]
      exact ⟨rfl, executing⟩

/-- **Running a template** has the output of its executable form, if there is one. -/
theorem Resolves.execute_results (room : Nat) :
    ∀ (v : Compiled) (own : Helper) (s : Stage), (∃ n, R n (.ok v)) →
      Results t Executing
        (p.program? (.ok v) >>= fun program => outputOf p.maxDepth stands room program own s)
        (p.execute room v own s) := by
  induction room with
  | zero =>
    rintro v own s ⟨n, ends⟩
    have nothing : (p.program? (.ok v) >>= fun _ => (none : Option (Text × Stage))) = none := by
      cases p.program? (.ok v) <;> rfl
    rw [outputOf, nothing]
    refine .act (fun c _ => resolves.run c n v ends) (results_fail (executing_classify ?_ v.name))
    intro compile
    cases compile
  | succ room ih =>
    rintro v own s ⟨n, ends⟩
    rw [Pipeline.execute, executeWith]
    refine Results.handle ?_ fun f executing => results_fail (executing_classify executing v.name)
    refine .act (fun c _ => resolves.run c n v ends) ?_
    refine (results_ofExcept fun _ fails =>
      executing_of_foreign (Compiler.foreign_of_materialize fails)).bind fun program _ => ?_
    refine (results_ofExcept fun _ fails =>
      executing_of_foreign (foreign_of_variablesOf fails)).bind fun given _ => ?_
    exact results_follow (resolves.nested_results meaning ih) _ _

variable (named : ∀ name v, R name (.ok v) → v.name = name)

include named

theorem Resolves.render_results {name : Text} {v : Compiled} (ends : R name (.ok v))
    (model : Option Model) :
    Results t Executing (p.rendition stands name model) (p.render .refuse v model) := by
  rw [rendition, render_eq]
  refine (results_onMachine _ _).bind ?_
  rintro ⟨entries, m⟩ -
  have output := resolves.execute_results meaning p.room v ⟨entries, [v.name]⟩ { machine := m } ⟨name, ends⟩
  rw [meaning name _ ends, named name v ends] at output
  have bytes := output.bind (f := fun x => do
      Routine.count .render
      Routine.ofExcept (p.encoded .refuse v.name x.1)) fun x _ =>
    .act (fun c _ => resolves.reports c (.count .render) trivial)
      (results_ofExcept fun _ => executing_encoded)
  rw [bind_assoc] at bytes
  rw [named name v ends] at bytes ⊢
  exact bytes

/-- **A request for a template** is rendered to the bytes that its name stands for. If it fails, the name
does not resolve for that reason, or it does resolve and the failure is no compile problem. -/
theorem Resolves.renderFile_results (name : Text) (model : Option Model) :
    Results t (fun f => R name (.error f) ∨ (∃ v, R name (.ok v)) ∧ f.Executing)
      (p.rendition stands name model) (p.renderFile name model) := by
  refine fun c met => resolves.reported_ensures _ _ ?_
  refine Routine.Ensures.bind ((resolves.resolveAt_ensures p.singleFlight name met).met met) ?_ ?_
  · rintro c v ⟨met, ends⟩
    have note := resolves.reports c (.note (.rendering v.name)) trivial
    refine ⟨note, (resolves.render_results meaning named ends model c met).mono fun _ o meets => ?_⟩
    cases o with
    | ok bytes => exact meets
    | error f => exact ⟨meets.1, .inr ⟨⟨v, ends⟩, meets.2⟩⟩
  · rintro c f ⟨met, ends⟩
    refine ⟨?_, .inl ends⟩
    rw [rendition]
    have nothing : stands name = none := (meaning name _ ends).symm
    cases (givenEntries model).alone? { strict := p.compiler.strictUndefined } with
    | none => rfl
    | some x =>
      change (stands name >>= _) = none
      rw [nothing]
      rfl

end

end Pipeline

end Stencil
