import Mathlib.Order.BooleanAlgebra.Basic
import Stencil.Proofs.Pipeline.Failures
import Stencil.Proofs.Pipeline.Loads

/-!
# How requests proceed

Between its beginning and its end a request resolves names, runs what it has resolved, and reports in detail. It
counts every lookup right away, it reads only to load, and it runs nothing that it has not resolved.

## Main definitions

- `Act.Plain` — an act that is neither loud nor counts lookups, loads or failures
- `Pipeline.Proceeds` — a request that proceeds in this way until it comes to one of certain ends
- `Pipeline.Forwards` — whatever goes on with the result of a request, both together proceed

## Main results

- `Request.proceeds` — requests proceed until they report how they ended
-/

namespace Stencil

open Template

/-- An act that reports in detail, or counts a render. -/
def Act.Plain : Act Compiled → Prop
  | note n => n.level = Logging.debugLevel
  | count .render => True
  | count _ | keep .. | miss _ | run _ => False

namespace Pipeline

/-- What is left of a request that only does these acts and comes to an outcome. -/
def closing {α : Type} (acts : List (Act Compiled)) (o : Except Failure α) : Request α :=
  acts.foldr .act (.finish o)

/-- A request that runs only what is `known` to it, until it comes to its end: `ends` says what it does last, and what
it comes to. What it resolves gets known to it. -/
inductive Proceeds {α : Type} (p : Pipeline) (ends : List (Act Compiled) → Except Failure α → Prop) :
    (Compiled → Prop) → Request α → Prop where
  | ends {known : Compiled → Prop} {acts : List (Act Compiled)} {o : Except Failure α} (is : ends acts o) :
      Proceeds p ends known (closing acts o)
  | act {known : Compiled → Prop} {a : Act Compiled} {r : Request α} (plain : a.Plain)
      (goes : Proceeds p ends known r) : Proceeds p ends known (.act a r)
  | run {known : Compiled → Prop} {v : Compiled} {r : Request α} (is : known v)
      (goes : Proceeds p ends known r) : Proceeds p ends known (.act (.run v) r)
  /-- What cannot be looked up is counted like what is not found. -/
  | miss {known : Compiled → Prop} {shown : Text} {r : Request α} (goes : Proceeds p ends known r) :
      Proceeds p ends known (.act (.miss shown) (.act (.count .miss) r))
  | resolve {known : Compiled → Prop} {name path : Text} {k : Except Failure Compiled → Request α}
      (from_ : path ∈ p.pathsOf name)
      (ok : ∀ more v, known ≤ more → more v → Proceeds p ends more (k (.ok v)))
      (fails : ∀ more f, known ≤ more → Proceeds p ends more (k (.error f))) :
      Proceeds p ends known ((p.resolveAt name path).onEnd k)

variable {α β γ : Type} {p : Pipeline} {ends : List (Act Compiled) → Except Failure β → Prop}

theorem Proceeds.mono {known more : Compiled → Prop}
    {r : Request β} (proceeds : Proceeds p ends known r) (le : known ≤ more) : Proceeds p ends more r := by
  induction proceeds with
  | ends is => exact .ends is
  | act plain _ ih => exact .act plain (ih le)
  | run is _ ih => exact .run (le _ is) (ih le)
  | miss _ ih => exact .miss (ih le)
  | resolve from_ ok fails _ _ =>
    exact .resolve from_ (fun _ v le' => ok _ v (le.trans le')) fun _ f le' => fails _ f (le.trans le')

/-- Whatever goes on with the result of a request, the request proceeds if that does. -/
def Forwards (p : Pipeline) (ends : List (Act Compiled) → Except Failure β → Prop) (known : Compiled → Prop)
    (r : Request α) (post : (Compiled → Prop) → α → Prop) : Prop :=
  ∀ k : Except Failure α → Request β,
    (∀ more a, known ≤ more → post more a → Proceeds p ends more (k (.ok a))) →
    (∀ more f, known ≤ more → Proceeds p ends more (k (.error f))) → Proceeds p ends known (r.onEnd k)

/-- Nothing is said of the result. -/
def anything {α : Type} (_ : Compiled → Prop) (_ : α) : Prop := True

namespace Forwards

variable {known : Compiled → Prop} {post : (Compiled → Prop) → α → Prop}
  {post' : (Compiled → Prop) → γ → Prop}

theorem pure {a : α} (is : ∀ more, known ≤ more → post more a) : p.Forwards ends known (.finish (.ok a)) post :=
  fun _ ok _ => ok known a le_rfl (is known le_rfl)

theorem fail (f : Failure) : p.Forwards ends known (.finish (.error f)) post := fun _ _ fails => fails known f le_rfl

theorem ofExcept (o : Except Failure α) : p.Forwards ends known (.finish o) anything := by
  cases o with
  | ok a => exact pure fun _ _ => trivial
  | error f => exact fail f

theorem act {a : Act Compiled} {r : Request α} (plain : a.Plain) (forwards : p.Forwards ends known r post) :
    p.Forwards ends known (.act a r) post := fun k ok fails => .act plain (forwards k ok fails)

theorem run {v : Compiled} {r : Request α} (is : known v) (forwards : p.Forwards ends known r post) :
    p.Forwards ends known (.act (.run v) r) post := fun k ok fails => .run is (forwards k ok fails)

theorem miss {shown : Text} {r : Request α} (forwards : p.Forwards ends known r post) :
    p.Forwards ends known (.act (.miss shown) (.act (.count .miss) r)) post :=
  fun k ok fails => .miss (forwards k ok fails)

theorem resolveAt {name path : Text} (from_ : path ∈ p.pathsOf name) :
    p.Forwards ends known (p.resolveAt name path) fun more v => more v :=
  fun _ ok fails => .resolve from_ ok fails

theorem bind {r : Request α} {f : α → Request γ} (forwards : p.Forwards ends known r post)
    (next : ∀ more a, known ≤ more → post more a → p.Forwards ends more (f a) post') :
    p.Forwards ends known (r >>= f) post' := by
  intro k ok fails
  change Proceeds p ends known ((r.bind f).onEnd k)
  rw [Routine.bind, Routine.onEnd_onEnd]
  refine forwards _ (fun more a le is => next more a le is k ?_ ?_) fun more e le => fails more e le
  · exact fun more' c le' => ok more' c (le.trans le')
  · exact fun more' e le' => fails more' e (le.trans le')

/-- A failure may be replaced by another one. -/
theorem handle {r : Request α} (forwards : p.Forwards ends known r post) (g : Failure → Failure) :
    p.Forwards ends known (r.handle fun f => .fail (g f)) post := by
  intro k ok fails
  rw [Routine.handle, Routine.onEnd_onEnd]
  exact forwards _ ok fun more f le => fails more (g f) le

theorem onMachine (x : Exec α) (m : Machine) : p.Forwards ends known (onMachine x m) anything := by
  rw [Pipeline.onMachine]
  split
  · exact pure fun _ _ => trivial
  · exact fail _
  · exact fail _

/-- What a nested name is resolved to is known. -/
theorem resolveValue (name : Value) (m : Machine) :
    p.Forwards ends known (p.resolveValue name m) fun more x => more x.1 := by
  cases name with
  | str t h => exact (resolveAt List.mem_cons_self).bind fun more v _ is => pure fun _ le => le v is
  | safe t h =>
    refine (resolveAt ?_).bind fun more v _ is => pure fun _ le => le v is
    exact List.mem_cons_of_mem _ List.mem_cons_self
  | _ =>
    refine (onMachine _ m).bind fun _ x _ _ => miss ?_
    exact (onMachine _ _).bind fun _ _ _ _ => fail _

theorem follow {answer : HelperCall → Stage → Request (Value × Stage)} (x : Step α) (helpers : List Helper)
    (answers : ∀ more call s, known ≤ more → p.Forwards ends more (answer call s) anything) :
    p.Forwards ends known (follow answer helpers x) anything := by
  induction x generalizing known helpers with
  | done result m => cases result with
    | ok a => exact pure fun _ _ => trivial
    | error f => exact fail _
  | nested call m resume ih =>
    refine (answers known call _ le_rfl).bind fun more x le _ => ih x.1 x.2.machine x.2.helpers ?_
    exact fun more' call s le' => answers more' call s (le.trans le')

theorem nested {run : Compiled → Helper → Stage → Request (Text × Stage)} (call : HelperCall) (s : Stage)
    (runs : ∀ more v own s, known ≤ more → more v → p.Forwards ends more (run v own s) anything) :
    p.Forwards ends known (p.nested run call s) anything := by
  rw [Pipeline.nested]
  split
  · exact (onMachine _ _).bind fun _ _ _ _ => fail _
  · have prepares : p.Forwards ends known (p.prepare (s.helpers.getD call.helper default) call s.machine)
        fun more x => more x.1.1 := by
      refine ((resolveValue call.name s.machine).handle _).bind fun more x _ is => ?_
      exact (onMachine _ _).bind fun more' y le _ => pure fun _ le' => (le.trans le') _ is
    refine prepares.bind fun more x le is => ?_
    exact (runs more x.1.1 x.1.2 _ le is).bind fun _ _ _ _ => pure fun _ _ => trivial

/-- A template that is known runs, and so do those that it nests, once they are resolved. -/
theorem execute (room : Nat) {v : Compiled} (own : Helper) (s : Stage) (is : known v) :
    p.Forwards ends known (p.execute room v own s) anything := by
  induction room generalizing known v own s with
  | zero => exact run is (fail _)
  | succ room ih =>
    refine handle (run is ?_) _
    refine (ofExcept _).bind fun more program le _ => (ofExcept _).bind fun more' given le' _ => ?_
    exact follow _ _ fun more'' call s _ => nested call s fun _ _ own s _ is => ih own s is

theorem render (rule : Replacement) {v : Compiled} (model : Option Model) (is : known v) :
    p.Forwards ends known (p.render rule v model) anything := by
  refine (onMachine _ _).bind fun more x le _ => ?_
  refine (execute _ _ _ (le v is)).bind fun _ y _ _ => act (r := _) trivial ?_
  dsimp only
  split
  · exact pure fun _ _ => trivial
  · exact fail _
  · exact fail _

end Forwards

end Pipeline

/-- What a request does before it reports how it ended. -/
def Request.body (p : Pipeline) : Request → Routine Compiled Bytes
  | file name model => do
    let compiled ← p.resolve name
    Routine.note (.rendering compiled.name)
    p.render .refuse compiled model
  | page model => do
    let compiled ← Routine.ofExcept (p.compiler.compileText ErrorPage.name p.pageSource)
    Routine.note (.compiled compiled.name compiled.static)
    Routine.note (.rendering compiled.name)
    p.render (Replacement.ofName "xmlcharrefreplace") compiled model

/-- How a request reports a failure of the template family. -/
def Request.report : Request → Failure → Notice
  | file name _, f => if f.kind.isStorage then .loadFailed name f else .renderFailed name f
  | page _, f => .pageFailed f

/-- What a request does last when it comes to an outcome. -/
def Request.closing (r : Request) : Except Failure Bytes → List (Act Compiled)
  | .error f => if f.kind.isTemplate then [.count (.failure f.kind), .note (r.report f)] else []
  | .ok _ => []

/-- A template that a request runs without having resolved it: the error page. -/
def Request.own (p : Pipeline) : Request → Compiled → Prop
  | file .., _ => False
  | page _, v => p.compiler.compileText ErrorPage.name p.pageSource = .ok v

/-- A request does its work and then reports how that ended. -/
theorem Request.routine_eq (p : Pipeline) (r : Request) :
    r.routine p = (r.body p).onEnd fun o => Pipeline.closing (r.closing o) o := by
  have reported (body : Routine Compiled Bytes) (storage other : Failure → Notice)
      (report : ∀ f, r.report f = if f.kind.isStorage then storage f else other f) :
      Pipeline.reported body storage other = body.onEnd fun o => Pipeline.closing (r.closing o) o := by
    rw [Pipeline.reported, Routine.handle]
    congr 1
    funext o
    cases o with
    | ok b => rfl
    | error f =>
      simp only [closing, report]
      by_cases storage : f.kind.isStorage = true
      · rw [if_pos storage, if_pos (Kind.isTemplate_of_isStorage storage), if_pos storage]
        rfl
      · rw [if_neg storage, if_neg storage]
        split <;> rfl
  cases r with
  | file name model => exact reported _ _ _ fun f => rfl
  | page model => exact reported _ _ _ fun f => (ite_self _).symm

/-- **Requests proceed until they report how they ended**: they run only what they have resolved, apart from the
error page. -/
theorem Request.proceeds (p : Pipeline) (r : Request) {known : Compiled → Prop} (own : r.own p ≤ known) :
    p.Proceeds (fun acts o => acts = r.closing o) known (r.routine p) := by
  have body : p.Forwards (fun acts o => acts = r.closing o) known (r.body p) Pipeline.anything := by
    cases r with
    | file name model =>
      refine (Pipeline.Forwards.resolveAt List.mem_cons_self).bind fun more v _ is => .act rfl ?_
      exact Pipeline.Forwards.render .refuse model is
    | page model =>
      rw [Request.body]
      cases compiles : p.compiler.compileText ErrorPage.name p.pageSource with
      | error f => exact .fail f
      | ok v => exact .act rfl (.act rfl (Pipeline.Forwards.render _ model (own v compiles)))
  rw [r.routine_eq]
  exact body _ (fun _ b _ _ => .ends rfl) fun _ f _ => .ends rfl

end Stencil
