import Stencil.Proofs.Pipeline.Failures

/-!
# The kinds of failures

While nothing is cancelled, a template fails to resolve because its source cannot be read, because it
cannot be compiled, or because its name or the encoding is none. Whatever an execution fails with after
that is reported as a render problem.

## Main definitions

- `Failure.Loading`, `Failure.Running` — what loads and running templates fail with
- `Terms.Lasting` — terms on which nothing is cancelled

## Main results

- `Pipeline.execute_fails` — executions fail with render problems only
- `Pipeline.render_fails` — so does rendering, where the encoding is one for texts
-/

namespace Stencil

open Template

namespace Failure

/-- What the load of a template fails with. -/
def Loading (f : Failure) : Prop :=
  f.kind.isStorage = true ∨ f.kind = .compile ∨ f.kind.isForeign = true

/-- What a running template fails with, before it is classified. -/
def Running (f : Failure) : Prop :=
  f.kind = .render ∨ f.kind.isForeign = true

end Failure

/-- An outcome that is no failure, or one of which `F` holds. -/
def FailsWith {α : Type} (F : Failure → Prop) (o : Except Failure α) : Prop :=
  ∀ f, o = .error f → F f

theorem failsWith_ok {α : Type} (F : Failure → Prop) (a : α) : FailsWith F (.ok a) := by
  rintro f ⟨⟩

theorem failsWith_error {α : Type} {F : Failure → Prop} {f : Failure} (fails : F f) :
    FailsWith (α := α) F (.error f) := by
  rintro _ ⟨⟩
  exact fails

/-- Terms on which a routine may do whatever it likes, nothing is cancelled, and templates fail to load
as they do. -/
structure Terms.Lasting (t : Terms Compiled) : Prop extends t.Lax where
  lasts : ¬t.cancellable
  reads : ∀ c path, t.contents c → FailsWith Failure.Loading (c path)
  shared : ∀ name o, t.shared name o → FailsWith Failure.Loading o

namespace Routine

variable {V α β : Type} {t : Terms V} {F G : Failure → Prop} {c : Contents}

theorem Ensures.failsWith_bind {r : Routine V α} {f : α → Routine V β}
    (fails : r.Ensures t (fun _ => FailsWith F) c)
    (next : ∀ a c, (f a).Ensures t (fun _ => FailsWith F) c) :
    (r >>= f).Ensures t (fun _ => FailsWith F) c :=
  Ensures.bind fails (fun c a _ => next a c) fun _ _ fails => failsWith_error (fails _ rfl)

theorem Ensures.failsWith_handle {r : Routine V α} {f : Failure → Failure}
    (fails : r.Ensures t (fun _ => FailsWith F) c) (changed : ∀ e, F e → G (f e)) :
    (r.handle fun e => .fail (f e)).Ensures t (fun _ => FailsWith G) c :=
  Ensures.handle fails (fun _ e fails => failsWith_error (changed e (fails e rfl)))
    fun _ a _ => failsWith_ok G a

end Routine

namespace Pipeline

open Failure

theorem kind_of_classify (template : Text) {f : Failure} (running : f.Running) :
    (classify template f).kind = .render := by
  rw [classify]
  split
  · next own =>
    obtain render | foreign := running
    · exact render
    · obtain family | cancelled := own
      · exact absurd (Kind.isTemplate_of_isForeign foreign) (by rw [family]; exact Bool.noConfusion)
      · exact absurd cancelled (Kind.ne_cancelled_of_isForeign foreign)
  · rfl

theorem running_of_nestedFailure (name outer : Text) {f : Failure} (loading : f.Loading) :
    (nestedFailure name outer f).Running := by
  rw [nestedFailure]
  split
  · exact .inl rfl
  · next other =>
    obtain storage | compile | foreign := loading
    · exact absurd (.inl storage) other
    · exact absurd (.inr compile) other
    · exact .inr foreign

variable {t : Terms Compiled} (p : Pipeline) {F : Failure → Prop}

theorem onMachine_fails {α : Type} (foreign : ∀ f, f.kind.isForeign = true → F f) (x : Exec α)
    (m : Machine) (c : Contents) : (onMachine x m : Request _).Ensures t (fun _ => FailsWith F) c := by
  cases is : onMachine x m with
  | finish o =>
    rintro f rfl
    exact foreign f (foreign_of_onMachine is)
  | act | lookup | read | share =>
    rw [onMachine] at is
    split at is <;> cases is

variable (lasting : t.Lasting)

include lasting

theorem load_loading (name path : Text) (c : Contents) :
    (p.load name path).Ensures t (fun _ => FailsWith Loading) c := by
  refine ⟨lasting.allowed _ _, lasting.allowed _ _, fun c met => ?_,
    fun cancels => absurd cancels lasting.lasts⟩
  cases source : c path with
  | error f => exact failsWith_error (lasting.reads c path met f source)
  | ok b =>
    dsimp only [Routine.onEnd]
    cases compiles : p.compiler.compile name b with
    | error f => exact failsWith_error (.inr (Compiler.compile_fails compiles))
    | ok v =>
      exact ⟨lasting.allowed _ _, lasting.allowed _ _, lasting.allowed _ _, failsWith_ok _ v⟩

theorem resolveAt_loading (name path : Text) (c : Contents) :
    (p.resolveAt name path).Ensures t (fun _ => FailsWith Loading) c := by
  refine ⟨⟨lasting.allowed _ _, ?_⟩, fun v _ => ⟨lasting.allowed _ _, failsWith_ok _ v⟩⟩
  change Routine.Ensures t _ (if p.singleFlight then _ else _) c
  split
  · exact ⟨lasting.sharable name path, fun c o _ shared => lasting.shared name o shared,
      fun cancels => absurd cancels lasting.lasts⟩
  · exact p.load_loading lasting name path c

theorem resolveValue_loading (name : Value) (m : Machine) (c : Contents) :
    (p.resolveValue name m).Ensures t (fun _ => FailsWith Loading) c := by
  have foreign : ∀ f : Failure, f.kind.isForeign = true → f.Loading := fun f is => .inr (.inr is)
  have found (name path : Text) : Routine.Ensures t (fun _ => FailsWith Loading)
      (p.resolveAt name path >>= fun v => pure (v, m)) c :=
    (p.resolveAt_loading lasting name path c).failsWith_bind fun v _ => failsWith_ok _ (v, m)
  cases name with
  | str n h => exact found n _
  | safe n h => exact found n _
  | _ =>
    -- what is no text is refused as a value of the wrong type
    refine (onMachine_fails foreign _ m c).failsWith_bind fun x c => ?_
    exact ⟨lasting.allowed _ _, lasting.allowed _ _, failsWith_error (.inr (.inr rfl))⟩

theorem prepare_running (helper : Helper) (call : HelperCall) (m : Machine) (c : Contents) :
    (p.prepare helper call m).Ensures t (fun _ => FailsWith Running) c := by
  refine ((p.resolveValue_loading lasting call.name m c).failsWith_handle fun f =>
    running_of_nestedFailure _ _).failsWith_bind fun x c => ?_
  exact (onMachine_fails (fun f => .inr) _ _ c).failsWith_bind fun x c => failsWith_ok _ _

theorem nested_running {run : Compiled → Helper → Stage → Request (Text × Stage)}
    (runs : ∀ v own s c, (run v own s).Ensures t (fun _ => FailsWith fun f => f.kind = .render) c)
    (call : HelperCall) (s : Stage) (c : Contents) :
    (p.nested run call s).Ensures t (fun _ => FailsWith Running) c := by
  have running {v : Compiled} {own : Helper} {s : Stage} {c : Contents} :
      (run v own s).Ensures t (fun _ => FailsWith Running) c :=
    (runs v own s c).mono fun _ o fails f is => .inl (fails f is)
  rw [nested]
  split
  · refine (onMachine_fails (fun f => .inr) _ _ c).failsWith_bind fun x c => ?_
    exact failsWith_error (.inl rfl)
  · refine (p.prepare_running lasting _ call _ c).failsWith_bind fun x c => ?_
    exact running.failsWith_bind fun y c => failsWith_ok _ _

omit lasting in
theorem follow_running {α : Type} {answer : HelperCall → Stage → Request (Value × Stage)}
    (answers : ∀ call s c, (answer call s).Ensures t (fun _ => FailsWith Running) c)
    (helpers : List Helper) (x : Step α) (c : Contents) :
    (follow answer helpers x).Ensures t (fun _ => FailsWith Running) c := by
  induction x generalizing helpers c with
  | done result m =>
    cases result with
    | ok a => exact failsWith_ok _ _
    | error e => exact failsWith_error (.inr e.foreign)
  | nested call m resume ih =>
    exact (answers call _ c).failsWith_bind fun x c => ih x.1 x.2.machine x.2.helpers c

/-- **Executions fail with render problems only**, whatever the templates do and nest. -/
theorem execute_fails (room : Nat) (v : Compiled) (own : Helper) (s : Stage) (c : Contents) :
    (p.execute room v own s).Ensures t (fun _ => FailsWith fun f => f.kind = .render) c := by
  induction room generalizing v own s c with
  | zero => exact ⟨lasting.allowed _ _, failsWith_error rfl⟩
  | succ room ih =>
    rw [execute, executeWith]
    refine Routine.Ensures.failsWith_handle (F := Running) ?_ fun f => kind_of_classify v.name
    refine ⟨lasting.allowed _ _, ?_⟩
    cases executable : p.compiler.materialize v with
    | error f => exact failsWith_error (.inr (Compiler.foreign_of_materialize executable))
    | ok program =>
      cases given : variablesOf own.model s.helpers.length with
      | error f => exact failsWith_error (.inr (foreign_of_variablesOf given))
      | ok vars => exact follow_running (p.nested_running lasting ih) _ _ c

/-- **Rendering fails with render problems only**, where the encoding is one for texts. -/
theorem render_fails (coded : p.Coded) (isText : Encoding.isText p.encoding = true) {rule : Replacement}
    (usable : Encoding.defect? false rule = none) (v : Compiled) {model : Option Model}
    {entries : List (Text × Model)} (mapping : givenModel model = .dict entries) (c : Contents) :
    (p.render rule v model).Ensures t (fun _ => FailsWith fun f => f.kind = .render) c := by
  obtain ⟨es, m, is, _⟩ := gives_givenEntries mapping { strict := p.compiler.strictUndefined }
  have given : onMachine (givenEntries model) { strict := p.compiler.strictUndefined } =
      (pure (es, m) : Request _) := by
    rw [onMachine, is]
  rw [render_eq, given]
  change Routine.Ensures t _ (p.execute _ v ⟨es, [v.name]⟩ { machine := m } >>= _) c
  refine (p.execute_fails lasting _ v _ _ c).failsWith_bind fun x c => ⟨lasting.allowed _ _, ?_⟩
  obtain ⟨_, b, is⟩ | ⟨reason, f, is⟩ | ⟨other, _⟩ := coded.accepted.encode_cases usable x.1
  · rw [encoded, is]
    exact failsWith_ok _ b
  · obtain ⟨g, fails, kind, _⟩ := encoded_of_unencodable v.name is
    change FailsWith _ (p.encoded rule v.name x.1)
    rw [fails]
    exact failsWith_error kind
  · rw [isText] at other
    cases other

end Pipeline

end Stencil
