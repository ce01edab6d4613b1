import Stencil.Proofs.Pipeline.Failures
import Stencil.Proofs.Routine.Course

/-!
# The executions of a request

A request executes a template, which has helpers render others, and so on. This file describes a request
by all executions that come of it: how deep each is nested, the helper that it was given, the calls that it
makes and what it fails with, in the order in which they begin. A failure is described by where it comes
from, and it is passed on as it is.

## Main definitions

- `Pipeline.Origin` — where the failure of an execution comes from
- `Pipeline.Visit` — an execution of a template, with the calls that it makes
- `Pipeline.Entry` — what happens in a request: an exchange, or the call of a helper
- `Pipeline.Executes` — an execution comes to these visits and entries, and to this outcome
- `Pipeline.Renders` — a whole request does

## Main results

- `Pipeline.renders_of_course` — every course of a request is described

## Design notes

The level of an execution says how many executions it is inside of, itself included. The chain of its
helper says the same only if each template was nested by the helper of the one around it.
-/

namespace Stencil

open Template

namespace Pipeline

/-! ### Where failures come from -/

/-- Where the failure of an execution comes from. -/
inductive Origin where
  /-- A template cannot be executed. -/
  | executing (template : Text) (cause : Failure)
  /-- The template of a name cannot be resolved that a helper was called for. -/
  | resolving (helper : Helper) (name : Text) (cause : Failure)
  /-- A helper was called for the template of a name that would be too deep. -/
  | nesting (helper : Helper) (name : Text)
  /-- A failure that is reported as it is. -/
  | other (f : Failure)

/-- The failure that is reported. -/
def Origin.failure (p : Pipeline) : Origin → Failure
  | executing template f =>
    .because { kind := .render, text := some ("Error rendering template: " ++ f.message),
               template := some template } f
  | resolving helper name f =>
    .because {
      kind := .render
      text := some ("Unable to resolve nested template '" ++ name ++ "' from '" ++
        helper.chain.getLastD [] ++ "': " ++ f.message)
      template := some name } f
  | nesting helper name => {
    problem := {
      kind := .render
      text := some ("Maximum template nesting depth " ++ Text.ofInt p.maxDepth ++ " exceeded: " ++
        Text.join " -> " (helper.chain ++ [name]))
      template := some name } }
  | other f => f

/-- Where a failure comes from that is found out while a template is executed. -/
def Origin.of (template : Text) (f : Failure) : Origin :=
  if f.kind.isTemplate ∨ f.kind = .cancelled then other f else executing template f

/-- Where a failure comes from to resolve the name that a helper was called for. -/
def Origin.ofNested (template : Text) (helper : Helper) (name : Text) (f : Failure) : Origin :=
  if f.kind.isStorage ∨ f.kind = .compile then resolving helper name f else .of template f

/-- The failure of an outcome. -/
def failureOf {α : Type} : Except Origin α → Option Origin
  | .ok _ => none
  | .error e => some e

/-! ### Executions -/

/-- An execution of a template: how deep it is nested, the helper that it was given, the calls that it
makes, each with the helper that is called, and what it fails with. -/
structure Visit where
  level : Nat
  template : Compiled
  own : Helper
  calls : List (Helper × HelperCall)
  failure : Option Origin

/-- What happens in a request. -/
inductive Entry where
  | did (x : Exchange Compiled)
  /-- An execution calls a helper. -/
  | called (level : Nat) (own helper : Helper) (call : HelperCall)

/-- What a request does and asks for. -/
def exchanges (log : List Entry) : List (Exchange Compiled) :=
  log.filterMap fun
    | .did x => some x
    | .called .. => none

/-- What comes to visits and entries, and to an outcome. -/
abbrev Description (α : Type) :=
  List Visit → List Entry → Except Origin (α × Stage) → Prop

/-- The computation of a template with the calls that it makes comes to these visits and entries, and to
this outcome. What the calls come to is given by `answers`. -/
inductive Follows (answers : HelperCall → Stage → Description Value) (level : Nat) (template : Text)
    (own : Helper) {α : Type} :
    List Helper → Step α → List (Helper × HelperCall) → Description α
  | done {helpers a m} :
      Follows answers level template own helpers (.done (.ok a) m) [] [] [] (.ok (a, ⟨m, helpers⟩))
  | raised {helpers e m} :
      Follows answers level template own helpers (.done (.error e) m) [] [] []
        (.error (.of template e.failure))
  | failed {helpers call m resume visits log e} : answers call ⟨m, helpers⟩ visits log (.error e) →
      Follows answers level template own helpers (.nested call m resume)
        [(helpers.getD call.helper default, call)] visits
        (.called level own (helpers.getD call.helper default) call :: log) (.error e)
  | answered {helpers call m resume visits log v s calls visits' log' o} :
      answers call ⟨m, helpers⟩ visits log (.ok (v, s)) →
      Follows answers level template own s.helpers (resume v s.machine) calls visits' log' o →
      Follows answers level template own helpers (.nested call m resume)
        ((helpers.getD call.helper default, call) :: calls) (visits ++ visits')
        (.called level own (helpers.getD call.helper default) call :: (log ++ log')) o

/-- The call of a helper by a template comes to these visits and entries, and to this outcome. What the
execution of a template comes to is given by `runs`. -/
inductive Calls (p : Pipeline) (runs : Compiled → Helper → Stage → Description Text) (template : Text)
    (helper : Helper) (call : HelperCall) (s : Stage) : Description Value
  /-- The template that the helper was given to is as deep as templates may nest. -/
  | refused {name} (deep : p.maxDepth ≤ helper.chain.length) (named : call.name.asText? = some name) :
      Calls p runs template helper call s [] [] (.error (.nesting helper name))
  | nameless {f} (deep : p.maxDepth ≤ helper.chain.length) (none : call.name.asText? = none)
      (fails : p.refuseCall (α := Unit) helper call s.machine = .fail f) :
      Calls p runs template helper call s [] [] (.error (.of template f))
  | unresolved {xs f} (shallow : helper.chain.length < p.maxDepth)
      (course : (p.resolveValue call.name s.machine).Course xs (.error f)) :
      Calls p runs template helper call s [] (xs.map .did)
        (.error (.ofNested template helper (call.name.asText?.getD []) f))
  | unmodelled {xs v m f} (shallow : helper.chain.length < p.maxDepth)
      (course : (p.resolveValue call.name s.machine).Course xs (.ok (v, m)))
      (fails : onMachine (nestedModel helper.model call) m = .fail f) :
      Calls p runs template helper call s [] (xs.map .did) (.error (.of template f))
  | ran {xs v m entries m' visits log o} (shallow : helper.chain.length < p.maxDepth)
      (course : (p.resolveValue call.name s.machine).Course xs (.ok (v, m)))
      (given : onMachine (nestedModel helper.model call) m = pure (entries, m'))
      (run : runs v ⟨entries, helper.chain ++ [call.name.asText?.getD []]⟩ { s with machine := m' }
        visits log o) :
      Calls p runs template helper call s visits (xs.map .did ++ log) (o.map fun (t, s) => (.safe t, s))

/-- The computation of a compiled template that is given a helper of its own. -/
def ready (p : Pipeline) (v : Compiled) (own : Helper) (s : Stage) : Except Failure (Step Text) := do
  let program ← p.compiler.materialize v
  let given ← variablesOf own.model s.helpers.length
  pure (program.render given s.machine)

/-- The execution of a compiled template at a level comes to these visits and entries, and to this
outcome. What the calls of helpers come to is given by `answers`. -/
inductive ExecutesWith (p : Pipeline) (answers : Text → Helper → HelperCall → Stage → Description Value)
    (level : Nat) (v : Compiled) (own : Helper) (s : Stage) : Description Text
  | unready {f} (unready : p.ready v own s = .error f) :
      ExecutesWith p answers level v own s [⟨level, v, own, [], some (.of v.name f)⟩]
        [.did (.act (.run v))] (.error (.of v.name f))
  | ran {x calls visits log o} (ready : p.ready v own s = .ok x)
      (follows : Follows (fun call s => answers v.name (s.helpers.getD call.helper default) call s) level
        v.name own (s.helpers ++ [own]) x calls visits log o) :
      ExecutesWith p answers level v own s (⟨level, v, own, calls, failureOf o⟩ :: visits)
        (.did (.act (.run v)) :: log) o

/-- The execution of a compiled template at a level, where there is room for so many templates under way at
once, comes to these visits and entries, and to this outcome. -/
def Executes (p : Pipeline) : Nat → Nat → Compiled → Helper → Stage → Description Text
  | 0, level, v, own, _, visits, log, o =>
    let e : Origin := .of v.name (.ofText .recursion "maximum recursion depth exceeded")
    visits = [⟨level, v, own, [], some e⟩] ∧ log = [.did (.act (.run v))] ∧ o = .error e
  | room + 1, level, v, own, s, visits, log, o =>
    p.ExecutesWith (p.Calls (p.Executes room (level + 1))) level v own s visits log o

/-- What is done about the outcome of a request. -/
def reportOf (name : Text) : Except Failure Bytes → List Entry
  | .ok _ => []
  | .error f =>
    if f.kind.isStorage then [.did (.act (.count (.failure f.kind))), .did (.act (.note (.loadFailed name f)))]
    else if f.kind.isTemplate then
      [.did (.act (.count (.failure f.kind))), .did (.act (.note (.renderFailed name f)))]
    else []

/-- A request comes to these visits and entries, and to this outcome. -/
inductive Renders (p : Pipeline) (name : Text) (model : Option Model) :
    List Visit → List Entry → Except Origin Bytes → Prop
  | unresolved {xs f} (course : (p.resolve name).Course xs (.error f)) :
      Renders p name model [] (xs.map .did ++ reportOf name (.error f)) (.error (.other f))
  | unmodelled {xs v f} (course : (p.resolve name).Course xs (.ok v))
      (fails : onMachine (givenEntries model) { strict := p.compiler.strictUndefined } = .fail f) :
      Renders p name model []
        (xs.map .did ++ .did (.act (.note (.rendering v.name))) :: reportOf name (.error f))
        (.error (.other f))
  | failed {xs v entries m visits log e} (course : (p.resolve name).Course xs (.ok v))
      (given : onMachine (givenEntries model) { strict := p.compiler.strictUndefined } = pure (entries, m))
      (executes : p.Executes p.room 1 v ⟨entries, [v.name]⟩ { machine := m } visits log (.error e)) :
      Renders p name model visits
        (xs.map .did ++ .did (.act (.note (.rendering v.name))) ::
          (log ++ reportOf name (.error (e.failure p)))) (.error e)
  | ended {xs v entries m visits log t s} (course : (p.resolve name).Course xs (.ok v))
      (given : onMachine (givenEntries model) { strict := p.compiler.strictUndefined } = pure (entries, m))
      (executes : p.Executes p.room 1 v ⟨entries, [v.name]⟩ { machine := m } visits log (.ok (t, s))) :
      Renders p name model visits
        (xs.map .did ++ .did (.act (.note (.rendering v.name))) ::
          (log ++ .did (.act (.count .render)) :: reportOf name (p.encoded .refuse v.name t)))
        ((p.encoded .refuse v.name t).mapError .other)

/-! ### Failures are passed on as they are -/

variable {p : Pipeline} {xs : List (Exchange Compiled)}

theorem failure_of (template : Text) (f : Failure) :
    (Origin.of template f).failure p = classify template f := by
  rw [Origin.of, classify]
  split <;> rfl

theorem failure_ofNested (template : Text) (helper : Helper) (name : Text) (f : Failure) :
    (Origin.ofNested template helper name f).failure p =
      classify template (nestedFailure name (helper.chain.getLastD []) f) := by
  rw [Origin.ofNested, nestedFailure]
  split
  · rfl
  · exact failure_of template f

/-- What is reported as it should is classified as it is. -/
theorem classify_expected (template : Text) {f : Failure} (expected : f.Expected) :
    classify template f = f := by
  rw [classify]
  exact if_pos expected

/-! ### Every course is described -/

@[simp] theorem exchanges_append (log log' : List Entry) :
    exchanges (log ++ log') = exchanges log ++ exchanges log' :=
  List.filterMap_append

@[simp] theorem exchanges_called (level : Nat) (own helper : Helper) (call : HelperCall)
    (log : List Entry) : exchanges (.called level own helper call :: log) = exchanges log := rfl

@[simp] theorem exchanges_cons (x : Exchange Compiled) (log : List Entry) :
    exchanges (.did x :: log) = x :: exchanges log := rfl

@[simp] theorem exchanges_did (xs : List (Exchange Compiled)) : exchanges (xs.map .did) = xs := by
  rw [exchanges, List.filterMap_map]
  exact List.filterMap_some

/-- What a machine computes takes no exchanges. -/
theorem course_onMachine {α : Type} {x : Exec α} {m : Machine} {o : Except Failure (α × Machine)}
    (course : (onMachine x m).Course xs o) : xs = [] ∧ onMachine x m = .finish o := by
  rw [onMachine] at course ⊢
  split at course <;> obtain ⟨rfl, rfl⟩ := course <;> exact ⟨rfl, rfl⟩

/-- The outcome of an execution is as described, once its failure is classified. -/
def Matches {α : Type} (p : Pipeline) (template : Text) (r : Except Failure α) (o : Except Origin α) :
    Prop :=
  r.mapError (classify template) = o.mapError (Origin.failure p)

theorem exists_of_matches_error {α : Type} {template : Text} {f : Failure} {o : Except Origin α}
    (same : p.Matches template (.error f) o) : ∃ e, o = .error e ∧ e.failure p = classify template f := by
  cases o with
  | ok a => cases same
  | error e => exact ⟨e, rfl, (Except.error.inj same).symm⟩

theorem matches_error {α : Type} {template : Text} {f : Failure} {e : Origin}
    (same : e.failure p = classify template f) : p.Matches (α := α) template (.error f) (.error e) :=
  congrArg Except.error same.symm

theorem eq_of_matches_ok {α : Type} {template : Text} {a : α} {o : Except Origin α}
    (same : p.Matches template (.ok a) o) : o = .ok a := by
  cases o with
  | ok b => exact congrArg _ (Except.ok.inj same).symm
  | error e => cases same

theorem follows_of_course {α : Type} {template : Text}
    {answer : HelperCall → Stage → Request (Value × Stage)}
    {answers : HelperCall → Stage → Description Value}
    (described : ∀ call s xs r, (answer call s).Course xs r →
      ∃ visits log o, answers call s visits log o ∧ exchanges log = xs ∧ p.Matches template r o)
    (level : Nat) (own : Helper) {helpers : List Helper} {x : Step α} {r : Except Failure (α × Stage)}
    (course : (follow answer helpers x).Course xs r) :
    ∃ calls visits log o, Follows answers level template own helpers x calls visits log o ∧
      exchanges log = xs ∧ p.Matches template r o := by
  induction x generalizing helpers xs with
  | done result m =>
    cases result with
    | ok a =>
      obtain ⟨rfl, rfl⟩ := course
      exact ⟨[], [], [], _, .done, rfl, rfl⟩
    | error e =>
      obtain ⟨rfl, rfl⟩ := course
      exact ⟨[], [], [], _, .raised, rfl, matches_error (failure_of template e.failure)⟩
  | nested call m resume ih =>
    obtain ⟨f, fails, rfl⟩ | ⟨⟨v, s⟩, ys, zs, rfl, succeeds, goes⟩ := Routine.Course.bind course
    · obtain ⟨visits, log, o, answered, is, same⟩ := described call _ _ _ fails
      obtain ⟨e, rfl, reported⟩ := exists_of_matches_error same
      exact ⟨_, _, _, _, .failed answered, is, matches_error reported⟩
    · obtain ⟨visits, log, o, answered, rfl, same⟩ := described call _ _ _ succeeds
      obtain rfl := eq_of_matches_ok same
      obtain ⟨calls, visits', log', o, follows, rfl, same⟩ := ih v s.machine goes
      refine ⟨_, _, _, o, .answered answered follows, ?_, same⟩
      rw [exchanges_called, exchanges_append]

theorem refuseCall_named {α : Type} (p : Pipeline) (helper : Helper) {call : HelperCall} {name : Text}
    (named : call.name.asText? = some name) (m : Machine) :
    p.refuseCall (α := α) helper call m = .fail ((Origin.nesting helper name).failure p) := by
  rw [refuseCall, chainText, named]
  rfl

/-- A refused call fails at once. -/
theorem exists_refuseCall {α β : Type} (p : Pipeline) (helper : Helper) (call : HelperCall)
    (m : Machine) : ∃ f, p.refuseCall (α := α) helper call m = .fail f ∧
      p.refuseCall (α := β) helper call m = .fail f := by
  rw [refuseCall, refuseCall, onMachine]
  split <;> exact ⟨_, rfl, rfl⟩

/-- A template is prepared by resolving its name and by making its model. -/
theorem course_prepare {helper : Helper} {call : HelperCall} {m : Machine}
    {r : Except Failure ((Compiled × Helper) × Machine)}
    (course : (p.prepare helper call m).Course xs r) :
    (∃ f, (p.resolveValue call.name m).Course xs (.error f) ∧
      r = .error (nestedFailure (call.name.asText?.getD []) (helper.chain.getLastD []) f)) ∨
    ∃ v m', (p.resolveValue call.name m).Course xs (.ok (v, m')) ∧
      ((∃ f, onMachine (nestedModel helper.model call) m' = .fail f ∧ r = .error f) ∨
        ∃ entries m'', onMachine (nestedModel helper.model call) m' = pure (entries, m'') ∧
          r = .ok ((v, ⟨entries, helper.chain ++ [call.name.asText?.getD []]⟩), m'')) := by
  obtain ⟨e, fails, rfl⟩ | ⟨⟨v, m'⟩, ys, zs, rfl, resolves, rest⟩ := course.bind
  · obtain ⟨_, _, is⟩ | ⟨f, ys, zs, rfl, resolves, rfl, is⟩ := fails.handle
    · cases is
    · obtain rfl := Except.error.inj is
      rw [List.append_nil]
      exact .inl ⟨f, resolves, rfl⟩
  · obtain ⟨_, resolves, is⟩ | ⟨_, _, _, _, _, _, is⟩ := resolves.handle
    · obtain rfl := Except.ok.inj is
      obtain ⟨e, fails, rfl⟩ | ⟨⟨entries, m''⟩, ys, zs, rfl, given, rfl, rfl⟩ := rest.bind
      · obtain ⟨rfl, is⟩ := course_onMachine fails
        rw [List.append_nil]
        exact .inr ⟨v, m', resolves, .inl ⟨e, is, rfl⟩⟩
      · obtain ⟨rfl, is⟩ := course_onMachine given
        rw [List.append_nil, List.append_nil]
        exact .inr ⟨v, m', resolves, .inr ⟨entries, m'', is, rfl⟩⟩
    · cases is

theorem calls_of_course {run : Compiled → Helper → Stage → Request (Text × Stage)}
    {runs : Compiled → Helper → Stage → Description Text}
    (described : ∀ v own s xs r, (run v own s).Course xs r →
      ∃ visits log o, runs v own s visits log o ∧ exchanges log = xs ∧
        r = o.mapError (Origin.failure p) ∧ ∀ f, r = .error f → f.Expected)
    (template : Text) {call : HelperCall} {s : Stage} {r : Except Failure (Value × Stage)}
    (course : (p.nested run call s).Course xs r) :
    ∃ visits log o, p.Calls runs template (s.helpers.getD call.helper default) call s visits log o ∧
      exchanges log = xs ∧ p.Matches template r o := by
  rw [nested] at course
  generalize s.helpers.getD call.helper default = helper at course ⊢
  by_cases deep : p.maxDepth ≤ helper.chain.length
  · simp only [deep, ↓reduceIte] at course
    cases named : call.name.asText? with
    | some name =>
      rw [refuseCall_named p helper named] at course
      obtain ⟨rfl, rfl⟩ := course
      exact ⟨[], [], _, .refused deep named, rfl, rfl⟩
    | none =>
      obtain ⟨f, fails, same⟩ := p.exists_refuseCall (α := Value × Stage) (β := Unit) helper call s.machine
      rw [fails] at course
      obtain ⟨rfl, rfl⟩ := course
      exact ⟨[], [], _, .nameless deep named same, rfl, matches_error (failure_of template f)⟩
  · simp only [deep, ↓reduceIte] at course
    have shallow := Int.lt_of_not_ge deep
    obtain ⟨f, fails, rfl⟩ | ⟨⟨⟨v, own⟩, m⟩, ys, zs, rfl, prepares, goes⟩ := course.bind
    · obtain ⟨g, resolves, is⟩ | ⟨v, m', resolves, ⟨g, given, is⟩ | ⟨_, _, _, is⟩⟩ := course_prepare fails
      · obtain rfl := Except.error.inj is
        exact ⟨[], _, _, .unresolved shallow resolves, exchanges_did xs,
          matches_error (failure_ofNested template helper _ g)⟩
      · obtain rfl := Except.error.inj is
        exact ⟨[], _, _, .unmodelled shallow resolves given, exchanges_did xs,
          matches_error (failure_of template f)⟩
      · cases is
    · obtain ⟨_, _, is⟩ | ⟨v, m', resolves, ⟨_, _, is⟩ | ⟨entries, m'', given, is⟩⟩ :=
        course_prepare prepares
      · cases is
      · cases is
      · cases is
        obtain ⟨f, fails, rfl⟩ | ⟨⟨t, s'⟩, ys', zs', rfl, succeeds, ends⟩ := goes.bind
        · obtain ⟨visits, log, o, run, rfl, same, expected⟩ := described v _ _ _ _ fails
          refine ⟨visits, _, _, .ran shallow resolves given run, ?_, ?_⟩
          · rw [exchanges_append, exchanges_did]
          · cases o with
            | ok x => cases same
            | error e =>
              refine matches_error ?_
              rw [classify_expected template (expected f rfl)]
              exact (Except.error.inj same).symm
        · obtain ⟨rfl, rfl⟩ := ends
          obtain ⟨visits, log, o, run, rfl, same, _⟩ := described v _ _ _ _ succeeds
          refine ⟨visits, _, _, .ran shallow resolves given run, ?_, ?_⟩
          · rw [exchanges_append, exchanges_did, List.append_nil]
          · cases o with
            | ok x =>
              cases same
              rfl
            | error e => cases same

/-- To execute a template is to make it ready and to follow what it computes. -/
theorem executeWith_eq (p : Pipeline) (run : Compiled → Helper → Stage → Request (Text × Stage))
    (v : Compiled) (own : Helper) (s : Stage) :
    p.executeWith run v own s = (do
      Routine.perform (.run v)
      let x ← Routine.ofExcept (p.ready v own s)
      follow (p.nested run) (s.helpers ++ [own]) x).handle fun f => .fail (classify v.name f) := by
  rw [executeWith, ready]
  cases p.compiler.materialize v with
  | error f => rfl
  | ok program => cases variablesOf own.model s.helpers.length <;> rfl

/-- **Every course of an execution is described**, and its failures are as they should be. -/
theorem executes_of_course (room level : Nat) {v : Compiled} {own : Helper} {s : Stage}
    {r : Except Failure (Text × Stage)} (course : (p.execute room v own s).Course xs r) :
    ∃ visits log o, p.Executes room level v own s visits log o ∧ exchanges log = xs ∧
      r = o.mapError (Origin.failure p) ∧ ∀ f, r = .error f → f.Expected := by
  induction room generalizing level v own s xs r with
  | zero =>
    obtain ⟨_, rfl, rfl, rfl⟩ := course
    refine ⟨_, _, _, ⟨rfl, rfl, rfl⟩, rfl, congrArg _ (failure_of v.name _).symm, ?_⟩
    rintro f ⟨⟩
    exact expected_classify v.name _
  | succ room ih =>
    rw [execute, executeWith_eq] at course
    cases is : p.ready v own s with
    | error f =>
      rw [is] at course
      obtain ⟨_, rfl, rfl, rfl⟩ := course
      refine ⟨_, _, _, .unready is, rfl, congrArg _ (failure_of v.name f).symm, ?_⟩
      rintro _ ⟨⟩
      exact expected_classify v.name f
    | ok x =>
      rw [is] at course
      -- a failure of what is followed is classified, and nothing else is done
      have ends : ∃ zs r', xs = .act (.run v) :: zs ∧
          (follow (p.nested (p.execute room)) (s.helpers ++ [own]) x).Course zs r' ∧
          r = r'.mapError (classify v.name) := by
        obtain ⟨a, ⟨zs, rfl, goes⟩, rfl⟩ | ⟨f, ys, zs, rfl, ⟨zs', rfl, goes⟩, ends⟩ := course.handle
        · exact ⟨zs, _, rfl, goes, rfl⟩
        · obtain ⟨rfl, rfl⟩ := ends
          exact ⟨zs', _, by rw [List.append_nil], goes, rfl⟩
      obtain ⟨zs, r', rfl, goes, rfl⟩ := ends
      obtain ⟨calls, visits, log, o, follows, rfl, same⟩ := follows_of_course
        (fun _ _ _ _ course => calls_of_course (fun _ _ _ _ _ => ih (level + 1)) v.name course)
        level own goes
      refine ⟨_, _, o, .ran is follows, rfl, same, ?_⟩
      rintro f is
      cases r' with
      | ok x => cases is
      | error g =>
        obtain rfl := Except.error.inj is
        exact expected_classify v.name g

/-- What is done about a failure. -/
theorem course_reported {r : Request Bytes} {name : Text} {o : Except Failure Bytes}
    (course : (reported r (.loadFailed name) (.renderFailed name)).Course xs o) :
    ∃ ys, r.Course ys o ∧ xs = ys ++ exchanges (reportOf name o) := by
  obtain ⟨a, goes, rfl⟩ | ⟨f, ys, zs, rfl, fails, reports⟩ := Routine.Course.handle course
  · exact ⟨xs, goes, (List.append_nil xs).symm⟩
  · have both : o = .error f ∧ zs = exchanges (reportOf name (.error f)) := by
      rw [reportOf]
      split at reports
      · next storage =>
        obtain ⟨_, rfl, _, rfl, rfl, rfl⟩ := reports
        exact ⟨rfl, by rw [if_pos storage]; rfl⟩
      · next other =>
        split at reports
        · next family =>
          obtain ⟨_, rfl, _, rfl, rfl, rfl⟩ := reports
          exact ⟨rfl, by rw [if_neg other, if_pos family]; rfl⟩
        · next foreign =>
          obtain ⟨rfl, rfl⟩ := reports
          exact ⟨rfl, by rw [if_neg other, if_neg foreign]; rfl⟩
    obtain ⟨rfl, rfl⟩ := both
    exact ⟨ys, fails, rfl⟩

/-- **Every course of a request is described** by the executions that come of it, and it ends with the
failure that is described. -/
theorem renders_of_course {name : Text} {model : Option Model} {r : Except Failure Bytes}
    (course : (p.renderFile name model).Course xs r) :
    ∃ visits log o, p.Renders name model visits log o ∧ exchanges log = xs ∧
      r = o.mapError (Origin.failure p) := by
  obtain ⟨ys, goes, rfl⟩ := course_reported course
  obtain ⟨f, fails, rfl⟩ | ⟨v, first, _, rfl, resolves, rest, rfl, renders⟩ := goes.bind
  · exact ⟨_, _, _, .unresolved fails, by rw [exchanges_append, exchanges_did], rfl⟩
  change Routine.Course (p.render .refuse v model) rest r at renders
  rw [render_eq] at renders
  obtain ⟨f, fails, rfl⟩ | ⟨⟨entries, m⟩, _, rest, rfl, given, runs⟩ := renders.bind
  · obtain ⟨rfl, is⟩ := course_onMachine fails
    exact ⟨_, _, _, .unmodelled resolves is, by simp, rfl⟩
  obtain ⟨rfl, is⟩ := course_onMachine given
  obtain ⟨f, fails, rfl⟩ | ⟨⟨t, s⟩, ys, _, rfl, succeeds, _, rfl, rfl, rfl⟩ := runs.bind
  · obtain ⟨visits, log, o, executes, rfl, same, _⟩ := executes_of_course p.room 1 fails
    cases o with
    | ok x => cases same
    | error e =>
      obtain rfl := Except.error.inj same
      exact ⟨_, _, _, .failed resolves is executes, by simp, rfl⟩
  · obtain ⟨visits, log, o, executes, rfl, same, _⟩ := executes_of_course p.room 1 succeeds
    cases o with
    | error e => cases same
    | ok x =>
      obtain rfl := Except.ok.inj same
      refine ⟨_, _, _, .ended resolves is executes, by simp, ?_⟩
      cases p.encoded .refuse v.name t <;> rfl

end Pipeline

end Stencil
