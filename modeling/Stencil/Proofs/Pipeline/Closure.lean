import Stencil.Proofs.Routine.Answers
import Stencil.Session

/-!
# What holds of all requests

Requests are put together from few parts in few ways. A property that is closed under these holds of all
requests of a pipeline, and this is shown here once for all such properties.

## Main definitions

- `Pipeline.pathsOf` — the paths from which a name may be loaded
- `Pipeline.Woven` — a property that is closed under the ways in which executions are put together
- `Pipeline.Closed` — a property that is closed under the ways in which requests are put together

## Main results

- `Pipeline.Woven.execute` — it holds of all executions
- `Request.closed` — it holds of all requests
- `Request.yields` — all requests yield to cancellation
-/

namespace Stencil

open Template

/-- What is done within an execution, apart from resolving names. -/
def Act.Inner {V : Type} : Act V → Prop
  | run _ | miss _ | count .miss => True
  | note _ | keep .. | count _ => False

namespace Pipeline

/-- The paths from which a name may be loaded: a safe name has the directory escaped. -/
def pathsOf (p : Pipeline) (name : Text) : List Text :=
  [p.templatePath name, if Path.isAbsolute name then name else Path.join (Markup.escape p.templateDir) name]

/-- A property that is closed under the ways in which the executions of a pipeline are put together. Failures
turn into other failures at most, and a cancellation is passed on as it is. -/
structure Woven (p : Pipeline) (P : {α : Type} → Request α → Prop) : Prop where
  finish : ∀ {α : Type} (o : Except Failure α), P (.finish o)
  perform : ∀ {a : Act Compiled}, a.Inner → P (Routine.perform a)
  bind : ∀ {α β : Type} {r : Request α} {f : α → Request β}, P r → (∀ a, P (f a)) → P (r >>= f)
  fails : ∀ {α : Type} {r : Request α} {f : Failure → Failure}, P r → f .cancelled = .cancelled →
    P (r.handle fun e => .fail (f e))
  resolveAt : ∀ {name path : Text}, path ∈ p.pathsOf name → P (p.resolveAt name path)

/-- A property that is closed under the ways in which the requests of a pipeline are put together. Failures
are only handled by reporting them and failing in turn, and a cancellation is passed on as it is. -/
structure Closed (p : Pipeline) (P : {α : Type} → Request α → Prop) : Prop where
  finish : ∀ {α : Type} (o : Except Failure α), P (.finish o)
  act : ∀ {α : Type} {a : Act Compiled} {r : Request α}, (∀ name v, a ≠ .keep name v) → P r → P (.act a r)
  bind : ∀ {α β : Type} {r : Request α} {f : α → Request β}, P r → (∀ a, P (f a)) → P (r >>= f)
  handle : ∀ {α : Type} {r : Request α} {f : Failure → Request α}, P r → (∀ e, (f e).Concedes) →
    f .cancelled = .fail .cancelled → P (r.handle f)
  resolveAt : ∀ {name path : Text}, path ∈ p.pathsOf name → P (p.resolveAt name path)

theorem classify_cancelled (template : Text) : classify template .cancelled = .cancelled := rfl

theorem nestedFailure_cancelled (name outer : Text) :
    nestedFailure name outer .cancelled = .cancelled := rfl

namespace Woven

variable {p : Pipeline} {P : {α : Type} → Request α → Prop} (woven : p.Woven P)

include woven

theorem onMachine {α : Type} (x : Exec α) (m : Machine) : P (onMachine x m) := by
  rw [Pipeline.onMachine]
  split
  · exact woven.finish _
  · exact woven.finish _
  · exact woven.finish _

theorem resolveValue (value : Value) (m : Machine) : P (p.resolveValue value m) := by
  cases value with
  | str n h => exact woven.bind (woven.resolveAt List.mem_cons_self) fun _ => woven.finish _
  | safe n h =>
    refine woven.bind (woven.resolveAt ?_) fun _ => woven.finish _
    exact List.mem_cons_of_mem _ List.mem_cons_self
  | _ =>
    refine woven.bind (woven.onMachine _ m) fun _ => ?_
    refine woven.bind (woven.perform trivial) fun _ => ?_
    refine woven.bind (woven.perform trivial) fun _ => ?_
    exact woven.bind (woven.onMachine _ _) fun _ => woven.finish _

theorem follow {α : Type} {answer : HelperCall → Stage → Request (Value × Stage)}
    (answers : ∀ call s, P (answer call s)) (helpers : List Helper) (x : Step α) :
    P (follow answer helpers x) := by
  induction x generalizing helpers with
  | done result m => cases result <;> exact woven.finish _
  | nested call m resume ih => exact woven.bind (answers call _) fun x => ih x.1 x.2.machine x.2.helpers

theorem nested {run : Compiled → Helper → Stage → Request (Text × Stage)}
    (runs : ∀ v own s, P (run v own s)) (call : HelperCall) (s : Stage) : P (p.nested run call s) := by
  rw [Pipeline.nested]
  split
  · exact woven.bind (woven.onMachine _ _) fun _ => woven.finish _
  · refine woven.bind (woven.bind (woven.fails ?_ (nestedFailure_cancelled _ _)) fun x => ?_) fun x => ?_
    · exact woven.resolveValue call.name s.machine
    · exact woven.bind (woven.onMachine _ _) fun _ => woven.finish _
    · exact woven.bind (runs x.1.1 x.1.2 _) fun _ => woven.finish _

/-- **What holds of all executions**: a property that is closed under the ways in which these are put together. -/
theorem execute (room : Nat) (v : Compiled) (own : Helper) (s : Stage) : P (p.execute room v own s) := by
  induction room generalizing v own s with
  | zero => exact woven.bind (woven.perform trivial) fun _ => woven.finish _
  | succ room ih =>
    refine woven.fails ?_ (classify_cancelled v.name)
    refine woven.bind (woven.perform trivial) fun _ => ?_
    refine woven.bind (woven.finish _) fun program => woven.bind (woven.finish _) fun given => ?_
    exact woven.follow (woven.nested ih) _ _

end Woven

namespace Closed

variable {p : Pipeline} {P : {α : Type} → Request α → Prop} (closed : p.Closed P)

include closed

theorem perform {a : Act Compiled} (other : ∀ name v, a ≠ .keep name v) : P (Routine.perform a) :=
  closed.act other (closed.finish (.ok ()))

theorem woven : p.Woven P where
  finish := closed.finish
  perform inner := closed.perform fun name v is => by
    subst is
    exact inner
  bind := closed.bind
  fails holds passes := closed.handle holds (fun _ => trivial) (congrArg Routine.fail passes)
  resolveAt := closed.resolveAt

theorem render (rule : Replacement) (v : Compiled) (model : Option Model) : P (p.render rule v model) := by
  refine closed.bind (closed.woven.onMachine _ _) fun x => closed.bind (closed.woven.execute _ v _ _) fun y => ?_
  refine closed.bind (closed.perform fun _ _ => nofun) fun _ => ?_
  dsimp only
  split
  · exact closed.finish _
  · exact closed.finish _
  · exact closed.finish _

theorem reported {α : Type} {r : Request α} (holds : P r) (storage other : Failure → Notice) :
    P (reported r storage other) := by
  refine closed.handle holds (fun f => ?_) rfl
  split
  · exact ⟨trivial, trivial, trivial⟩
  · split
    · exact ⟨trivial, trivial, trivial⟩
    · trivial

end Closed

end Pipeline

/-- **What holds of all requests**: a property that is closed under the ways in which these are put
together. -/
theorem Request.closed {p : Pipeline} {P : {α : Type} → Pipeline.Request α → Prop} (closed : p.Closed P)
    (r : Request) : P (r.routine p) := by
  cases r with
  | file name model =>
    refine closed.reported (closed.bind (closed.resolveAt List.mem_cons_self) fun v => ?_) _ _
    exact closed.bind (closed.perform fun _ _ => nofun) fun _ => closed.render _ v model
  | page model =>
    refine closed.reported (closed.bind (closed.finish _) fun v => ?_) _ _
    refine closed.bind (closed.perform fun _ _ => nofun) fun _ => ?_
    exact closed.bind (closed.perform fun _ _ => nofun) fun _ => closed.render _ v model

/-- It holds of whatever a service does for a request. -/
theorem Session.closed_routine {P : {α : Type} → Pipeline.Request α → Prop} {s : Session} {service : Nat}
    (finish : ∀ o : Except Failure Bytes, P (.finish o))
    (closed : ∀ found, s.state.services[service]? = some found → found.pipeline.Closed P) (r : Request) :
    P (s.routine service r) := by
  rw [Session.routine]
  cases at_ : s.state.services[service]? with
  | none => exact finish _
  | some found => exact r.closed (closed found at_)

/-! ### Cancellation

Wherever a request waits, it can be told that it was cancelled instead of the answer. Nothing on its way
handles that failure: classification leaves it as it is, and it is not counted. So the request ends at
once with that failure and no other. -/

namespace Routine

/-- Who concedes waits for nothing. -/
theorem Concedes.yields {V α : Type} {r : Routine V α} (concedes : r.Concedes) : r.Yields := by
  induction r with
  | finish o => trivial
  | act a next ih => exact ih concedes.2
  | lookup | read | share => exact concedes.elim

end Routine

namespace Pipeline

open Routine

/-- A load yields. -/
theorem yields_load (p : Pipeline) (name path : Text) : (p.load name path).Yields := by
  refine Yields.bind (r := Routine.note _) trivial fun _ => ?_
  refine Yields.bind (r := Routine.count _) trivial fun _ => ?_
  refine Yields.bind (r := .read path fun r => .finish r) ⟨rfl, fun _ => trivial⟩ fun source => ?_
  refine Yields.bind (r := Routine.ofExcept _) trivial fun compiled => ?_
  exact trivial

theorem yields_resolveAt (p : Pipeline) (name path : Text) : (p.resolveAt name path).Yields := by
  intro found
  cases found with
  | some compiled => exact trivial
  | none =>
    refine Yields.bind (r := Routine.count _) trivial fun _ => ?_
    split
    · exact ⟨rfl, fun _ => trivial⟩
    · exact p.yields_load name path

theorem closed_yields (p : Pipeline) : p.Closed Yields where
  finish _ := trivial
  act _ yields := yields
  bind yields next := yields.bind next
  handle yields concedes passes := yields.handle passes fun e => (concedes e).yields
  resolveAt _ := p.yields_resolveAt _ _

end Pipeline

/-- **Requests yield**: whatever a request is doing, it ends at once when it is cancelled. -/
theorem Request.yields (p : Pipeline) (r : Request) : (r.routine p).Yields :=
  r.closed p.closed_yields

theorem Session.yields_routine (s : Session) (service : Nat) (r : Request) :
    (s.routine service r).Yields :=
  closed_routine (fun _ => trivial) (fun found _ => found.pipeline.closed_yields) r

end Stencil
