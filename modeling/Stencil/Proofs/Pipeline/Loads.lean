import Stencil.Proofs.Pipeline.Closure

/-!
# How requests load templates

A load reads a source, and puts into the cache what it compiles from that. Nothing else that a request does
puts anything there. If a load fails, so does the request that it is a part of: from then on it only reports.

## Main definitions

- `Pipeline.loaded` — what is left of a load once its source is read
- `Pipeline.Heedful` — a request that reads only to load, and gives up if that fails

## Main results

- `Pipeline.closed_heedful`
-/

namespace Stencil

namespace Pipeline

/-- What is left of a load once its source is read. -/
def loaded (p : Pipeline) (name : Text) (source : Except Failure Bytes) : Request Compiled := do
  let source ← Routine.ofExcept source
  let compiled ← Routine.ofExcept (p.compiler.compile name source)
  Routine.note (.compiled name compiled.static)
  Routine.count .compile
  Routine.perform (.keep name compiled)
  pure compiled

theorem load_eq (p : Pipeline) (name path : Text) :
    p.load name path = .act (.note (.fetching name path)) (.act (.count .fetch) (.read path (p.loaded name))) :=
  rfl

/-- A load that fails does nothing more. -/
theorem loaded_of_error {p : Pipeline} {name : Text} {source : Except Failure Bytes} {f : Failure}
    (fails : source.bind (p.compiler.compile name) = .error f) : p.loaded name source = .fail f := by
  cases source with
  | error g =>
    obtain rfl := Except.error.inj fails
    rfl
  | ok b =>
    change p.compiler.compile name b = .error f at fails
    change (Routine.ofExcept (p.compiler.compile name b)).bind _ = _
    rw [fails]
    rfl

/-- A load that succeeds puts what it has compiled into the cache. -/
theorem loaded_of_ok {p : Pipeline} {name : Text} {source : Except Failure Bytes} {v : Compiled}
    (compiles : source.bind (p.compiler.compile name) = .ok v) :
    p.loaded name source = .act (.note (.compiled name v.static)) (.act (.count .compile)
      (.act (.keep name v) (.finish (.ok v)))) := by
  cases source with
  | error g => cases compiles
  | ok b =>
    change p.compiler.compile name b = .ok v at compiles
    change (Routine.ofExcept (p.compiler.compile name b)).bind _ = _
    rw [compiles]
    rfl

/-- A request that puts nothing into the cache but what one of these pipelines has loaded, and gives up if
that fails. -/
inductive Heedful (served : Pipeline → Prop) {α : Type} : Request α → Prop where
  | finish (o : Except Failure α) : Heedful served (.finish o)
  | lookup {name : Text} {next : Option Compiled → Request α} (goes : ∀ v, Heedful served (next v)) :
      Heedful served (.lookup name next)
  | act {a : Act Compiled} {r : Request α} (other : ∀ name v, a ≠ .keep name v)
      (goes : Heedful served r) : Heedful served (.act a r)
  | load {p : Pipeline} {name path : Text} {k : Except Failure Compiled → Request α} (is : served p)
      (known : path ∈ p.pathsOf name) (concedes : ∀ f, (k (.error f)).Concedes)
      (goes : ∀ v, Heedful served (k (.ok v))) :
      Heedful served (.read path fun source => (p.loaded name source).onEnd k)
  | share {p : Pipeline} {name path : Text} {next : Except Failure Compiled → Request α} (is : served p)
      (known : path ∈ p.pathsOf name) (concedes : ∀ f, (next (.error f)).Concedes)
      (goes : ∀ v, Heedful served (next (.ok v))) : Heedful served (.share name path next)

variable {served : Pipeline → Prop}

theorem heedful_of_concedes {α : Type} {r : Request α} (concedes : r.Concedes) : Heedful served r := by
  induction r with
  | finish o => exact .finish o
  | act a next ih =>
    refine .act ?_ (ih concedes.2)
    rintro name v rfl
    exact concedes.1
  | lookup | read | share => exact concedes.elim

/-- What goes on after a heedful request is heedful if it fails when the request does. -/
theorem Heedful.onEnd {α β : Type} {r : Request α} {f : Except Failure α → Request β}
    (heedful : Heedful served r) (concedes : ∀ e, (f (.error e)).Concedes)
    (next : ∀ a, Heedful served (f (.ok a))) : Heedful served (r.onEnd f) := by
  induction heedful with
  | finish o =>
    cases o with
    | ok a => exact next a
    | error e => exact heedful_of_concedes (concedes e)
  | lookup _ ih => exact .lookup ih
  | act other _ ih => exact .act other ih
  | @load p name path k is known gives _ ih =>
    have joined := Heedful.load (k := fun o => (k o).onEnd f) is known (fun e => (gives e).onEnd concedes) ih
    simp only [← Routine.onEnd_onEnd] at joined
    exact joined
  | share is known gives _ ih => exact .share is known (fun e => (gives e).onEnd concedes) ih

theorem heedful_load {p : Pipeline} {name path : Text} (is : served p) (known : path ∈ p.pathsOf name) :
    Heedful served (p.load name path) := by
  rw [load_eq]
  refine .act (fun _ _ => nofun) (.act (fun _ _ => nofun) ?_)
  have loads := Heedful.load (k := .finish) is known (fun _ => trivial) fun v => .finish (.ok v)
  simp only [Routine.onEnd_finish] at loads
  exact loads

theorem heedful_resolveAt {p : Pipeline} {name path : Text} (is : served p)
    (known : path ∈ p.pathsOf name) : Heedful served (p.resolveAt name path) := by
  refine .lookup fun found => ?_
  cases found with
  | some v => exact .act (fun _ _ => nofun) (.finish _)
  | none =>
    refine .act (fun _ _ => nofun) ?_
    change Heedful served (if p.singleFlight then _ else _)
    split
    · exact .share is known (fun _ => trivial) fun v => .finish _
    · exact heedful_load is known

/-- **Requests are heedful.** -/
theorem closed_heedful {p : Pipeline} (is : served p) : p.Closed (Heedful served) where
  finish := .finish
  act := .act
  bind heedful next := heedful.onEnd (fun _ => trivial) next
  handle heedful concedes _ := heedful.onEnd concedes fun a => .finish (.ok a)
  resolveAt known := heedful_resolveAt is known

end Pipeline

end Stencil
