import Stencil.Pipeline
import Stencil.Proofs.Compiler
import Stencil.Proofs.Routine.Answers
import Stencil.Proofs.Routine.Terms

/-!
# What requests do

All that a request asks of others is to resolve names: it looks them up, loads them or shares their
loads. So its outcome is that of the names it resolves, and it runs nothing else.

## Main definitions

- `Pipeline.flying` — a pipeline with or without single flight
- `Pipeline.resolution` — what a name resolves to, given the contents of the storage
- `Pipeline.Resolves` — the terms on which names resolve to what they should
-/

namespace Stencil

open Template

namespace Markup

/-- A text without characters that have a meaning in HTML. -/
def Plain (t : Text) : Prop :=
  ∀ c ∈ t, c ∉ ([38, 60, 62, 34, 39] : List CodePoint)

theorem escape_of_plain {t : Text} (plain : Plain t) : escape t = t := by
  induction t with
  | nil => rfl
  | cons c t ih =>
    have own : escapePoint c = [c] := by
      have := plain c List.mem_cons_self
      simp only [List.mem_cons, List.not_mem_nil, or_false, not_or] at this
      simp [escapePoint, this]
    rw [escape, List.flatMap_cons, own]
    exact congrArg (c :: ·) (ih fun c' mem => plain c' (List.mem_cons_of_mem _ mem))

end Markup

namespace Pipeline

/-- The pipeline with or without single flight. -/
def flying (p : Pipeline) (b : Bool) : Pipeline :=
  { p with singleFlight := b }

@[simp] theorem flying_compiler (p : Pipeline) (b : Bool) : (p.flying b).compiler = p.compiler := rfl

@[simp] theorem flying_encoding (p : Pipeline) (b : Bool) : (p.flying b).encoding = p.encoding := rfl

@[simp] theorem flying_maxDepth (p : Pipeline) (b : Bool) : (p.flying b).maxDepth = p.maxDepth := rfl

@[simp] theorem flying_room (p : Pipeline) (b : Bool) : (p.flying b).room = p.room := rfl

@[simp] theorem flying_pageSource (p : Pipeline) (b : Bool) :
    (p.flying b).pageSource = p.pageSource := rfl

/-- What a name resolves to when paths hold these contents. -/
def resolution (p : Pipeline) (c : Contents) (name : Text) : Except Failure Compiled :=
  (c (p.templatePath name)).bind (p.compiler.compile name)

theorem resolution_of_stored {p : Pipeline} {c : Contents} {name : Text} {b : Bytes}
    (stored : c (p.templatePath name) = .ok b) : p.resolution c name = p.compiler.compile name b := by
  rw [resolution, stored]
  rfl

/-- A name resolves to a template that was compiled from what is stored. -/
theorem exists_of_resolution {p : Pipeline} {c : Contents} {name : Text} {v : Compiled}
    (resolves : p.resolution c name = .ok v) :
    ∃ b, c (p.templatePath name) = .ok b ∧ p.compiler.compile name b = .ok v := by
  rw [resolution] at resolves
  cases source : c (p.templatePath name) with
  | error f => rw [source] at resolves; cases resolves
  | ok b => rw [source] at resolves; exact ⟨b, rfl, resolves⟩

theorem name_of_resolution {p : Pipeline} {c : Contents} {name : Text} {v : Compiled}
    (resolves : p.resolution c name = .ok v) : v.name = name := by
  obtain ⟨b, _, compiles⟩ := exists_of_resolution resolves
  exact Compiler.compile_name compiles

/-- On these terms a name resolves to what `R` says, and to one thing only if that is `sure`. -/
structure Resolves (p : Pipeline) (t : Terms Compiled) (sure : Prop)
    (R : Text → Except Failure Compiled → Prop) : Prop where
  one : sure → ∀ name o o', R name o → R name o' → o = o'
  found : ∀ name v, t.found name v → R name (.ok v)
  shared : ∀ name o, t.shared name o → R name o
  loaded : ∀ c name, t.contents c → R name (p.resolution c name)
  cancelled : t.cancellable → ∀ name, R name (.error .cancelled)
  sharable : ∀ name, t.sharable name (p.templatePath name)
  keep : ∀ c name v, t.contents c → p.resolution c name = .ok v → t.allowed c (.keep name v)
  run : ∀ c name v, R name (.ok v) → t.allowed c (.run v)
  reports : ∀ c (a : Act Compiled), a.reports → t.allowed c a
  /-- The directory of the templates has no characters that are escaped. -/
  plain : Markup.escape p.templateDir = p.templateDir

/-- A load keeps the terms of its moment and ends with what its name resolves to then. -/
theorem load_ensures (p : Pipeline) {t : Terms Compiled} {name : Text}
    (reports : ∀ c (a : Act Compiled), a.reports → t.allowed c a)
    (keep : ∀ c v, t.contents c → p.resolution c name = .ok v → t.allowed c (.keep name v))
    (c : Contents) :
    (p.load name (p.templatePath name)).Ensures t (fun c o => o = p.resolution c name ∨
      t.cancellable ∧ o = .error .cancelled) c := by
  refine ⟨reports _ _ trivial, reports _ _ trivial, fun c met => ?_, fun may c _ => .inr ⟨may, rfl⟩⟩
  cases source : c (p.templatePath name) with
  | error f => exact .inl (by rw [resolution, source]; rfl)
  | ok source' =>
    have is : p.resolution c name = p.compiler.compile name source' := by rw [resolution, source]; rfl
    dsimp only [Routine.onEnd]
    cases compiled : p.compiler.compile name source' with
    | error f => exact .inl (by rw [is, compiled])
    | ok v =>
      rw [compiled] at is
      exact ⟨reports _ _ trivial, reports _ _ trivial, keep c v met is, .inl is.symm⟩

section

variable {p : Pipeline} {t : Terms Compiled} {sure : Prop} {R : Text → Except Failure Compiled → Prop}
  (resolves : p.Resolves t sure R)

include resolves

/-- A name resolves to what it should, from the cache, by a load or by a shared one. -/
theorem Resolves.resolveAt_ensures (b : Bool) (name : Text) {c : Contents} (met : t.contents c) :
    ((p.flying b).resolveAt name (p.templatePath name)).Ensures t (fun _ => R name) c := by
  refine ⟨⟨resolves.reports _ _ trivial, ?_⟩, fun v found => ?_⟩
  · cases b with
    | true =>
      exact ⟨resolves.sharable name, fun c o _ shared => resolves.shared name o shared,
        fun may _ _ => resolves.cancelled may name⟩
    | false =>
      refine ((load_ensures p resolves.reports (fun c v => resolves.keep c name v) c).met met).mono ?_
      rintro c o ⟨met, rfl | ⟨may, rfl⟩⟩
      · exact resolves.loaded c name met
      · exact resolves.cancelled may name
  · exact ⟨resolves.reports _ _ trivial, resolves.found name v found⟩

theorem Resolves.resolveAt (name : Text) :
    EndsAlike t sure (fun v => R name (.ok v)) fun b =>
      (p.flying b).resolveAt name (p.templatePath name) :=
  ⟨R name, fun is => resolves.one is name, fun _ ends => ends,
    fun b _ met => resolves.resolveAt_ensures b name met⟩

theorem Resolves.note (n : Notice) {α : Type} {Q : α → Prop} {r : Bool → Request α}
    (alike : EndsAlike t sure Q r) : EndsAlike t sure Q fun b => Routine.note n >>= fun _ => r b :=
  .act (fun c _ => resolves.reports c (.note n) trivial) alike

theorem Resolves.count (n : Tally) {α : Type} {Q : α → Prop} {r : Bool → Request α}
    (alike : EndsAlike t sure Q r) : EndsAlike t sure Q fun b => Routine.count n >>= fun _ => r b :=
  .act (fun c _ => resolves.reports c (.count n) trivial) alike

theorem Resolves.miss (shown : Text) {α : Type} {Q : α → Prop} {r : Bool → Request α}
    (alike : EndsAlike t sure Q r) :
    EndsAlike t sure Q fun b => Routine.perform (.miss shown) >>= fun _ => r b :=
  .act (fun c _ => resolves.reports c (.miss shown) trivial) alike

theorem Resolves.runs {v : Compiled} {n : Text} (ends : R n (.ok v)) {α : Type} {Q : α → Prop}
    {r : Bool → Request α} (alike : EndsAlike t sure Q r) :
    EndsAlike t sure Q fun b => Routine.perform (.run v) >>= fun _ => r b :=
  .act (fun c _ => resolves.run c n v ends) alike

omit resolves in
/-- What a machine computes depends on nothing else. -/
theorem endsAlike_onMachine {α : Type} (x : Exec α) (m : Machine) :
    EndsAlike t sure (fun _ => True) fun _ => onMachine x m := by
  rw [onMachine]
  split
  · exact .pure trivial
  · exact .fail _
  · exact .fail _

/-- A nested name resolves like one that is asked for, and a value that is no name does not. -/
theorem Resolves.resolveValue (name : Value) (m : Machine) :
    EndsAlike t sure (fun x => ∃ n, R n (.ok x.1)) fun b => (p.flying b).resolveValue name m := by
  cases name with
  | str n h => exact (resolves.resolveAt n).bind fun v ends => .pure ⟨n, ends⟩
  | safe n h =>
    have path : (if Path.isAbsolute n then n else Path.join (Markup.escape p.templateDir) n) =
        p.templatePath n := by
      rw [resolves.plain, templatePath, Path.join]
      split <;> rfl
    have alike := resolves.resolveAt n
    rw [← path] at alike
    exact alike.bind fun v ends => .pure ⟨n, ends⟩
  | _ =>
    refine (endsAlike_onMachine _ m).bind ?_
    rintro ⟨shown, m⟩ -
    refine resolves.miss _ (resolves.count _ ?_)
    exact (endsAlike_onMachine _ m).bind fun _ _ => .fail _

omit resolves in
/-- The templates that a computation asks for decide how it goes on. -/
theorem endsAlike_follow {α : Type} {answer : Bool → HelperCall → Stage → Request (Value × Stage)}
    (answers : ∀ call s, EndsAlike t sure (fun _ => True) fun b => answer b call s)
    (helpers : List Helper) (x : Step α) :
    EndsAlike t sure (fun _ => True) fun b => follow (answer b) helpers x := by
  induction x generalizing helpers with
  | done result m =>
    cases result with
    | ok a => exact .pure trivial
    | error f => exact .fail f.failure
  | nested call m resume ih => exact (answers call _).bind fun x _ => ih x.1 x.2.machine x.2.helpers

/-- A nested template that a call prepares is what its name resolves to. -/
theorem Resolves.prepare (helper : Helper) (call : HelperCall) (m : Machine) :
    EndsAlike t sure (fun x => ∃ n, R n (.ok x.1.1)) fun b => (p.flying b).prepare helper call m := by
  simp only [Pipeline.prepare]
  refine ((resolves.resolveValue call.name m).handle fun f => .fail _).bind ?_
  rintro ⟨v, m⟩ ends
  exact (endsAlike_onMachine _ m).bind fun _ _ => .pure ends

/-- A call asks for nothing but the template that it nests. -/
theorem Resolves.nested {run : Bool → Compiled → Helper → Stage → Request (Text × Stage)}
    (runs : ∀ v own s, (∃ n, R n (.ok v)) → EndsAlike t sure (fun _ => True) fun b => run b v own s)
    (call : HelperCall) (s : Stage) :
    EndsAlike t sure (fun _ => True) fun b => (p.flying b).nested (run b) call s := by
  simp only [Pipeline.nested, flying_maxDepth]
  by_cases deep : p.maxDepth ≤ (s.helpers.getD call.helper default).chain.length
  · simp only [deep, ↓reduceIte, refuseCall, flying_maxDepth]
    exact (endsAlike_onMachine _ _).bind fun _ _ => .fail _
  · simp only [deep, ↓reduceIte]
    refine (resolves.prepare _ call _).bind ?_
    rintro ⟨⟨v, own⟩, m⟩ ends
    exact (runs v own _ ends).bind fun _ _ => .pure trivial

/-- **Running a template** asks for nothing but the templates that it nests. -/
theorem Resolves.execute (room : Nat) :
    ∀ (v : Compiled) (own : Helper) (s : Stage), (∃ n, R n (.ok v)) →
      EndsAlike t sure (fun _ => True) fun b => (p.flying b).execute room v own s := by
  induction room with
  | zero =>
    rintro v own s ⟨n, ends⟩
    exact resolves.runs ends (.fail _)
  | succ room ih =>
    rintro v own s ⟨n, ends⟩
    simp only [Pipeline.execute, executeWith, flying_compiler]
    refine EndsAlike.handle ?_ fun f => .fail _
    refine resolves.runs ends ?_
    refine (EndsAlike.ofExcept _ fun _ _ => trivial).bind fun program _ => ?_
    refine (EndsAlike.ofExcept _ fun _ _ => trivial).bind fun given _ => ?_
    exact endsAlike_follow (resolves.nested ih) _ _

theorem Resolves.render (replacement : Replacement) (v : Compiled) (model : Option Model)
    (ends : ∃ n, R n (.ok v)) :
    EndsAlike t sure (fun _ => True) fun b => (p.flying b).render replacement v model := by
  simp only [Pipeline.render, flying_compiler, flying_room, flying_encoding]
  refine (endsAlike_onMachine _ _).bind ?_
  rintro ⟨entries, m⟩ -
  refine (resolves.execute _ v _ _ ends).bind ?_
  rintro ⟨output, _⟩ -
  refine resolves.count _ ?_
  split
  · exact .pure trivial
  · exact .fail _
  · exact .fail _

theorem Resolves.reported {α : Type} {r : Bool → Request α} (alike : EndsAlike t sure (fun _ => True) r)
    (storage other : Failure → Notice) :
    EndsAlike t sure (fun _ => True) fun b => reported (r b) storage other := by
  refine alike.handle fun f => ?_
  split
  · exact resolves.count _ (resolves.note _ (.fail f))
  · split
    · exact resolves.count _ (resolves.note _ (.fail f))
    · exact .fail f

/-- **A request for a template** keeps the terms on which names resolve to what they should, and its
outcome is sure if that of each name is. -/
theorem Resolves.renderFile (name : Text) (model : Option Model) :
    EndsAlike t sure (fun _ => True) fun b => (p.flying b).renderFile name model := by
  refine resolves.reported ?_ _ _
  refine (resolves.resolveAt name).bind fun v ends => ?_
  exact resolves.note _ (resolves.render .refuse v model ⟨name, ends⟩)

/-- What holds of an outcome still holds when its failure has been reported. -/
theorem Resolves.reported_ensures {α : Type} {P : Except Failure α → Prop} {r : Request α}
    (storage other : Failure → Notice) {c : Contents} (ensures : r.Ensures t (fun _ => P) c) :
    (Pipeline.reported r storage other).Ensures t (fun _ => P) c := by
  refine ensures.handle (fun c f holds => ?_) fun c a holds => holds
  split
  · exact ⟨resolves.reports c _ trivial, resolves.reports c _ trivial, holds⟩
  · split
    · exact ⟨resolves.reports c _ trivial, resolves.reports c _ trivial, holds⟩
    · exact holds

/-- A request ends with the failure of its name to resolve, or like the rendering of the template that
the name resolves to. -/
theorem Resolves.renderFile_ends (name : Text) (model : Option Model) {c : Contents}
    (met : t.contents c) : (p.renderFile name model).Ensures t
      (fun _ o => (∃ f, o = .error f ∧ R name (.error f)) ∨
        ∃ v, R name (.ok v) ∧ (p.render .refuse v model).Ends t o) c := by
  refine resolves.reported_ensures _ _ ?_
  refine Routine.Ensures.bind ((resolves.resolveAt_ensures p.singleFlight name met).met met) ?_ ?_
  · rintro c v ⟨met, ends⟩
    obtain ⟨P, _, _, ensures⟩ := resolves.render .refuse v model ⟨name, ends⟩
    refine ⟨resolves.reports c _ trivial, ?_⟩
    exact (ensures p.singleFlight c met).ends.mono fun _ o is => .inr ⟨v, ends, is.2⟩
  · rintro c f ⟨met, ends⟩
    exact .inl ⟨f, rfl, ends⟩

theorem Resolves.renderPage (model : Option Model)
    (compiles : ∀ v, p.compiler.compileText ErrorPage.name p.pageSource = .ok v → ∃ n, R n (.ok v)) :
    EndsAlike t sure (fun _ => True) fun b => (p.flying b).renderPage model := by
  refine resolves.reported ?_ _ _
  refine (EndsAlike.ofExcept _ compiles).bind fun v ends => ?_
  exact resolves.note _ (resolves.note _ (resolves.render _ v model ends))

end

end Pipeline

end Stencil
