import Stencil.Proofs.Pipeline.Closure
import Stencil.Proofs.Pipeline.Executions

/-!
# How names resolve

Before a template is executed its name is looked up, or its source is read and compiled, or a load is
shared. This runs no template. What it fails with it was told by a read or a load, or it comes of the source
that it was told.

## Main definitions

- `Pipeline.Unresolved` — a failure of a name to resolve
- `Pipeline.Told` — an answer on which names resolve as they should
- `Pipeline.Usual` — what a request does and asks for

## Main results

- `Pipeline.course_resolveAt`, `Pipeline.course_resolveValue` — the courses of resolving a name
- `Pipeline.resolved_of_told`
- `Pipeline.closed_usual` — requests do and ask for what is usual
-/

namespace Stencil

open Template

namespace Pipeline

variable {p : Pipeline} {xs : List (Exchange Compiled)} {name path : Text}

/-- What a load does once the source was read: what it was compiled to is reported and kept. -/
def keeping (name : Text) : Except Failure Compiled → List (Act Compiled)
  | .ok v => [.note (.compiled name v.static), .count .compile, .keep name v]
  | .error _ => []

/-- A load reads the source and compiles it. -/
theorem course_load {r : Except Failure Compiled} (course : (p.load name path).Course xs r) :
    ∃ answer, xs = .act (.note (.fetching name path)) :: .act (.count .fetch) :: .read path answer ::
        (keeping name r).map .act ∧ r = answer.bind (p.compiler.compile name) := by
  obtain ⟨_, rfl, _, rfl, answer, ys, rfl, course⟩ := course
  refine ⟨answer, ?_⟩
  cases answer with
  | error f =>
    obtain ⟨rfl, rfl⟩ := course
    exact ⟨rfl, rfl⟩
  | ok b =>
    change (Routine.ofExcept (p.compiler.compile name b) >>= _).Course ys r at course
    change _ ∧ r = p.compiler.compile name b
    cases compiles : p.compiler.compile name b with
    | error f =>
      rw [compiles] at course
      obtain ⟨rfl, rfl⟩ := course
      exact ⟨rfl, rfl⟩
    | ok v =>
      rw [compiles] at course
      obtain ⟨_, rfl, _, rfl, _, rfl, rfl, rfl⟩ := course
      exact ⟨rfl, rfl⟩

/-- A load runs no template. -/
theorem ran_keeping (name : Text) (r : Except Failure Compiled) :
    ((keeping name r).map Exchange.act).filterMap Exchange.run? = [] := by
  cases r <;> rfl

/-- A name is looked up, and it is loaded on a miss. -/
theorem course_resolveAt {r : Except Failure Compiled} (course : (p.resolveAt name path).Course xs r) :
    (∃ v, xs = [.lookup name (some v), .act (.count .hit)] ∧ r = .ok v) ∨
    ∃ ys, xs = .lookup name none :: .act (.count .miss) :: ys ∧
      (ys = [.share name path r] ∨ (p.load name path).Course ys r) := by
  obtain ⟨found, _, rfl, course⟩ := course
  cases found with
  | some v =>
    obtain ⟨_, rfl, rfl, rfl⟩ := course
    exact .inl ⟨v, rfl, rfl⟩
  | none =>
    obtain ⟨ys, rfl, course⟩ := course
    refine .inr ⟨ys, rfl, ?_⟩
    change Routine.Course (if p.singleFlight then _ else _) ys r at course
    split at course
    · obtain ⟨_, _, rfl, rfl, rfl⟩ := course
      exact .inl rfl
    · exact .inr course

/-- A nested name is resolved from one of its paths. What is no text is refused. -/
theorem course_resolveValue {value : Value} {m : Machine} {r : Except Failure (Compiled × Machine)}
    (course : (p.resolveValue value m).Course xs r) :
    (∃ name path r', value.asText? = some name ∧ path ∈ p.pathsOf name ∧
      (p.resolveAt name path).Course xs r' ∧ r = r'.map fun v => (v, m)) ∨
    value.asText? = none ∧ (xs = [] ∨ ∃ shown, xs = [.act (.miss shown), .act (.count .miss)]) ∧
      ∃ f, r = .error f ∧ f.kind.isForeign = true := by
  have resolved {name path : Text}
      (course : (p.resolveAt name path >>= fun v => pure (v, m)).Course xs r) :
      ∃ r', (p.resolveAt name path).Course xs r' ∧ r = r'.map fun v => (v, m) := by
    obtain ⟨f, fails, rfl⟩ | ⟨v, ys, _, rfl, resolves, rfl, rfl⟩ := course.bind
    · exact ⟨_, fails, rfl⟩
    · exact ⟨_, by rwa [List.append_nil], rfl⟩
  cases value with
  | str n h =>
    obtain ⟨r', course, is⟩ := resolved course
    exact .inl ⟨n, _, r', rfl, List.mem_cons_self, course, is⟩
  | safe n h =>
    obtain ⟨r', course, is⟩ := resolved course
    exact .inl ⟨n, _, r', rfl, List.mem_cons_of_mem _ List.mem_cons_self, course, is⟩
  | _ =>
    refine .inr ⟨rfl, ?_⟩
    obtain ⟨f, fails, rfl⟩ | ⟨⟨shown, _⟩, _, _, rfl, shows, _, rfl, _, rfl, rest⟩ := Routine.Course.bind course
    · obtain ⟨rfl, is⟩ := course_onMachine fails
      exact ⟨.inl rfl, f, rfl, foreign_of_onMachine is⟩
    · obtain ⟨rfl, _⟩ := course_onMachine shows
      obtain ⟨f, fails, rfl⟩ | ⟨_, _, _, rfl, refused, rfl, rfl⟩ := rest.bind
      · obtain ⟨rfl, is⟩ := course_onMachine fails
        exact ⟨.inr ⟨shown, rfl⟩, f, rfl, foreign_of_onMachine is⟩
      · obtain ⟨rfl, is⟩ := course_onMachine refused
        obtain rfl := Except.ok.inj (Routine.finish.inj is)
        exact ⟨.inr ⟨shown, rfl⟩, _, rfl, rfl⟩

theorem ran_of_resolveAt {r : Except Failure Compiled} (course : (p.resolveAt name path).Course xs r) :
    xs.filterMap Exchange.run? = [] := by
  obtain ⟨v, rfl, rfl⟩ | ⟨ys, rfl, rfl | loads⟩ := course_resolveAt course
  · rfl
  · rfl
  · obtain ⟨_, rfl, _⟩ := course_load loads
    exact ran_keeping name r

theorem ran_of_resolveValue {value : Value} {m : Machine} {r : Except Failure (Compiled × Machine)}
    (course : (p.resolveValue value m).Course xs r) : xs.filterMap Exchange.run? = [] := by
  obtain ⟨_, _, _, _, _, course, _⟩ | ⟨_, rfl | ⟨_, rfl⟩, _⟩ := course_resolveValue course
  · exact ran_of_resolveAt course
  · rfl
  · rfl

/-! ### What resolving a name comes to -/

/-- A failure of a name to resolve when paths hold certain contents: a read of one of its paths fails like
that, or what is read cannot be compiled. -/
def Unresolved (p : Pipeline) (seen : Contents → Prop) (name : Text) (f : Failure) : Prop :=
  ∃ c path, seen c ∧ path ∈ p.pathsOf name ∧ (c path).bind (p.compiler.compile name) = .error f

/-- An answer that a request should get when paths hold certain contents. -/
def Told (p : Pipeline) (seen : Contents → Prop) : Exchange Compiled → Prop
  | .lookup name (some v) => v.name = name
  | .read path answer => answer = .error .cancelled ∨ ∃ c, seen c ∧ answer = c path
  | .share name _ (.ok v) => v.name = name
  | .share name _ (.error f) => f.kind = .cancelled ∨ p.Unresolved seen name f
  | _ => True

/-- A load that is told what it should be is what a request should be told of it. -/
theorem told_of_load {seen : Contents → Prop} {r : Except Failure Compiled}
    (course : (p.load name path).Course xs r) (known : path ∈ p.pathsOf name)
    (told : ∀ x ∈ xs, p.Told seen x) : p.Told seen (.share name path r) := by
  obtain ⟨answer, rfl, rfl⟩ := course_load course
  have answered : answer = .error .cancelled ∨ ∃ c, seen c ∧ answer = c path :=
    told (.read path answer) (by simp)
  cases answer with
  | error f =>
    obtain is | ⟨c, met, is⟩ := answered
    · cases is
      exact .inl rfl
    · exact .inr ⟨c, path, met, known, by rw [← is]; rfl⟩
  | ok b =>
    obtain is | ⟨c, met, is⟩ := answered
    · cases is
    · change p.Told seen (.share name path (p.compiler.compile name b))
      cases compiles : p.compiler.compile name b with
      | ok v => exact Compiler.compile_name compiles
      | error f => exact .inr ⟨c, path, met, known, by rw [← is]; exact compiles⟩

/-- **A name that is told what it should be** resolves to a template of its name, or fails to resolve. -/
theorem resolved_of_told {seen : Contents → Prop} {r : Except Failure Compiled}
    (course : (p.resolveAt name path).Course xs r) (known : path ∈ p.pathsOf name)
    (told : ∀ x ∈ xs, p.Told seen x) :
    (∀ v, r = .ok v → v.name = name) ∧
      ∀ f, r = .error f → f.kind = .cancelled ∨ p.Unresolved seen name f := by
  have resolved : p.Told seen (.share name path r) := by
    obtain ⟨v, rfl, rfl⟩ | ⟨ys, rfl, rfl | loads⟩ := course_resolveAt course
    · exact told (.lookup name (some v)) List.mem_cons_self
    · exact told (.share name path r) (by simp)
    · exact told_of_load loads known fun x mem =>
        told x (List.mem_cons_of_mem _ (List.mem_cons_of_mem _ mem))
  refine ⟨fun v is => ?_, fun f is => ?_⟩
  · subst is
    exact resolved
  · subst is
    exact resolved

/-! ### What a request does -/

/-- What a request does and asks for: it only keeps what a source was compiled to, and it only has loads
shared of the paths of a name. -/
def Usual (p : Pipeline) : Exchange Compiled → Prop
  | .act (.keep name v) => ∃ b, p.compiler.compile name b = .ok v
  | .share name path _ => path ∈ p.pathsOf name
  | _ => True

/-- What a load does and asks for: as usual, but it has no loads shared. -/
def Loading (p : Pipeline) : Exchange Compiled → Prop
  | .act (.keep name v) => ∃ b, p.compiler.compile name b = .ok v
  | .share .. => False
  | _ => True

theorem usual_of_loading {x : Exchange Compiled} (loading : p.Loading x) : p.Usual x := by
  cases x with
  | act a => cases a <;> exact loading
  | share => exact loading.elim
  | lookup | read => trivial

theorem does_load (p : Pipeline) (name path : Text) : (p.load name path).Does p.Loading := by
  refine .act trivial (.act trivial (.read (fun _ => trivial) fun answer => ?_))
  cases answer with
  | error f => exact Routine.does_finish _
  | ok b =>
    change (Routine.ofExcept (p.compiler.compile name b) >>= _).Does p.Loading
    cases compiles : p.compiler.compile name b with
    | error f => exact Routine.does_finish (.error f)
    | ok v => exact .act trivial (.act trivial (.act ⟨b, compiles⟩ (Routine.does_finish (.ok v))))

theorem does_resolveAt (known : path ∈ p.pathsOf name) : (p.resolveAt name path).Does p.Usual := by
  refine .lookup (fun _ => trivial) fun found => ?_
  cases found with
  | some v => exact .act trivial (Routine.does_finish _)
  | none =>
    refine .act trivial ?_
    change Routine.Does _ (if p.singleFlight then _ else _)
    split
    · exact .share (fun _ => known) fun _ => Routine.does_finish _
    · exact (p.does_load name path).mono fun _ => usual_of_loading

theorem does_of_concedes {α : Type} {r : Request α} (concedes : r.Concedes) : r.Does p.Usual := by
  induction r with
  | finish o => exact Routine.does_finish o
  | act a next ih =>
    refine .act ?_ (ih concedes.2)
    cases a with
    | keep | run => exact concedes.1.elim
    | note | count | miss => trivial
  | lookup | read | share => exact concedes.elim

/-- **What a request does and asks for** is as usual. -/
theorem closed_usual (p : Pipeline) : p.Closed (Routine.Does p.Usual) where
  finish o := Routine.does_finish o
  act {_ a _} other does := .act (by cases a with | keep name v => exact absurd rfl (other name v) | _ => trivial) does
  bind does next := does.bind next
  handle does concedes _ := does.handle fun e => does_of_concedes (concedes e)
  resolveAt known := does_resolveAt known

end Pipeline

end Stencil
