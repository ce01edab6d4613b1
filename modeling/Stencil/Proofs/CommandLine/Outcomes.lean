import Stencil.CommandLine.Run
import Stencil.Proofs.Deployment
import Stencil.Proofs.ErrorPage
import Stencil.Proofs.Pipeline.Ensures
import Stencil.Proofs.Pipeline.Kinds

/-!
# A request on its own

A call makes one request of a new service, and nothing else happens meanwhile. So the request finds
the files as they are, its loads are its own, and it always comes to an outcome. A template that is
rendered so fails because its source cannot be read, because it cannot be compiled or because it cannot
be run, and each of these has a kind of failure of its own.

## Main definitions

- `Shell.Tells` — a program does this without a change to files and output
- `alone` — a routine that nothing else runs beside

## Main results

- `run_serve` — serving a request is running its routine alone
- `alone_ensures` — what a routine ensures, it comes to
- `alone_resolve` — a name resolves to what its file holds
- `alone_file` — what a template comes to
- `alone_page` — what the error page comes to
-/

namespace Stencil

namespace CommandLine

namespace Shell

variable {α β : Type}

theorem run_bind (x : Shell α) (f : α → Shell β) (w : World) : (x >>= f).run w =
    match x.run w with
    | (.ok a, w) => (f a).run w
    | (.error e, w) => (.error e, w) := by
  change (x.bind f).run w = _
  induction x generalizing w with
  | finish o => cases o <;> rfl
  | readFile path next ih => exact ih _ w
  | writeFile path content next ih =>
    simp only [bind, run]
    cases w.tree.write path content with
    | ok tree => exact ih _ _
    | error r => exact ih _ w
  | openLog path next ih =>
    simp only [bind, run]
    cases w.tree.touch path with
    | ok tree => exact ih _ _
    | error r => exact ih _ w
  | print output next ih => exact ih _
  | complain text next ih => exact ih _
  | log c r next ih => exact ih _

theorem run_bind_ok {x : Shell α} {f : α → Shell β} {w w' : World} {a : α}
    (is : x.run w = (.ok a, w')) : (x >>= f).run w = (f a).run w' := by
  rw [run_bind, is]

/-- A program ends with a result and leaves files and output as they are. -/
def Tells (x : Shell α) (w : World) (a : α) (w' : World) : Prop :=
  x.run w = (.ok a, w') ∧ w'.tree = w.tree ∧ w'.output = w.output

theorem Tells.bind {x : Shell α} {f : α → Shell β} {w w' w'' : World} {a : α} {b : β}
    (tells : x.Tells w a w') (next : (f a).Tells w' b w'') : (x >>= f).Tells w b w'' :=
  ⟨(run_bind_ok tells.1).trans next.1, next.2.1.trans tells.2.1, next.2.2.trans tells.2.2⟩

theorem tells_pure (a : α) (w : World) : (pure a : Shell α).Tells w a w := ⟨rfl, rfl, rfl⟩

theorem tells_complainLine (line : Text) (w : World) :
    ∃ w', (complainLine line).Tells w () w' := ⟨_, rfl, rfl, rfl⟩

theorem tells_complain (text : Text) (w : World) :
    ∃ w', (complain text (pure ())).Tells w () w' := ⟨_, rfl, rfl, rfl⟩

theorem tells_logAll (c : Logging.Configuration) (records : List LogRecord) (w : World) :
    ∃ w', (logAll c records).Tells w () w' := by
  rw [logAll]
  induction records.filter (Logging.passes c) generalizing w with
  | nil => exact ⟨w, tells_pure () w⟩
  | cons r rest ih =>
    obtain ⟨w', run, tree, output⟩ := ih { w with records := w.records ++ [r] }
    exact ⟨w', run, tree, output⟩

/-- Lines are written to the error stream one by one. -/
theorem tells_lines (lines : List Text) (line : Text → Text) (w : World) :
    ∃ w', Tells (forIn lines PUnit.unit fun x _ => do
      complainLine (line x)
      pure (ForInStep.yield PUnit.unit)) w PUnit.unit w' := by
  induction lines generalizing w with
  | nil => exact ⟨w, tells_pure _ w⟩
  | cons x rest ih =>
    obtain ⟨w', first⟩ := tells_complainLine (line x) w
    obtain ⟨w'', rest⟩ := ih w'
    refine ⟨w'', ?_⟩
    rw [List.forIn_cons]
    have yields := first.bind (f := fun _ => pure (ForInStep.yield PUnit.unit)) (tells_pure _ w')
    exact yields.bind rest

end Shell

/-- What the loads that a request asks for come to. -/
abbrev Loads := Text → Text → Deployment → Except Failure Compiled × Deployment

/-- A routine that nothing else runs beside, over files that stay as they are: its outcome, and the
deployment that it leaves. -/
def alone {α : Type} (tree : FileTree) (load : Loads) :
    Routine Compiled α → Deployment → Except Failure α × Deployment
  | .finish r, d => (r, d)
  | .lookup name next, d => alone tree load (next (d.lookup 0 name).1) (d.lookup 0 name).2
  | .act a next, d => alone tree load next (d.act 0 a)
  | .read path next, d =>
    let (answer, d) := d.fileAnswer path (LocalStorage.read tree none path)
    alone tree load (next answer) d
  | .share name path next, d => alone tree load (next (load name path d).1) (load name path d).2

/-- A load asks for no other. -/
def noLoads : Loads := fun _ _ d => (.error (.ofText .runtime "a load waits for no other load"), d)

/-- A load of a request that is alone. -/
def loadAlone (tree : FileTree) : Loads := fun name path d =>
  alone tree noLoads (d.load 0 name path) d

theorem run_converse {α : Type}
    {loads : Text → Text → Deployment → Shell (Except Failure Compiled × Deployment)} {load : Loads}
    {w : World} (same : ∀ name path d, (loads name path d).run w = (.ok (load name path d), w))
    (r : Routine Compiled α) (d : Deployment) :
    (converse loads r d).run w = (.ok (alone w.tree load r d), w) := by
  induction r generalizing d with
  | finish r => rfl
  | lookup name next ih => exact ih _ _
  | act a next ih => exact ih _
  | read path next ih =>
    rw [converse, alone, LocalStorage.read]
    cases is : LocalStorage.file none path with
    | error f => exact ih _ d
    | ok file => exact ih _ _
  | share name path next ih =>
    rw [converse, alone]
    exact (Shell.run_bind_ok (same name path d)).trans (ih _ _)

/-- **Serving a request is running its routine alone.** -/
theorem run_serve (s : Setup) (r : Request) (w : World) : (serve s r).run w =
    (.ok (alone w.tree (loadAlone w.tree) (r.routine s.pipeline) s.deployment), w) :=
  run_converse (fun _ _ _ => run_converse (fun _ _ _ => rfl) _ _) _ _

variable {α : Type} {tree : FileTree} {load : Loads} {t : Terms Compiled}

/-- **What a routine ensures, it comes to**, on terms that only say what files hold and what loads come
to. -/
theorem alone_ensures (met : t.contents (LocalStorage.read tree none)) (found : ∀ name v, t.found name v)
    (told : ∀ name path d, t.sharable name path → t.shared name (load name path d).1)
    {post : Contents → Except Failure α → Prop} {r : Routine Compiled α}
    (ensures : r.Ensures t post (LocalStorage.read tree none)) (d : Deployment) :
    post (LocalStorage.read tree none) (alone tree load r d).1 := by
  induction r generalizing d with
  | finish r => exact ensures
  | lookup name next ih =>
    rw [alone]
    cases (d.lookup 0 name).1 with
    | none => exact ih _ ensures.1 _
    | some v => exact ih _ (ensures.2 v (found name v)) _
  | act a next ih => exact ih ensures.2 _
  | read path next ih =>
    have answer : (d.fileAnswer path (LocalStorage.read tree none path)).1 =
        LocalStorage.read tree none path := by
      cases LocalStorage.read tree none path <;> rfl
    rw [alone]
    dsimp only
    rw [answer]
    exact ih _ (ensures.1 _ met) _
  | share name path next ih =>
    exact ih _ (ensures.2.1 _ _ met (told name path d ensures.1)) _

end CommandLine


/-- A read fails by the storage, or because no file can have the path. -/
theorem LocalStorage.read_fails (tree : FileTree) (path : Text) :
    FailsWith Failure.Loading (read tree none path) := by
  intro f fails
  obtain unusable | ⟨place, _, refused⟩ := error_of_bind fails
  · rw [file] at unusable
    split at unusable
    · next g is =>
      obtain rfl := Except.error.inj unusable
      rw [unusable?] at is
      split at is
      · obtain rfl := Option.some.inj is
        exact .inr (.inr rfl)
      · split at is <;> cases is
        exact .inr (.inr rfl)
    · cases unusable
  · rw [answer] at refused
    cases content : tree.read place with
    | ok b =>
      rw [content] at refused
      cases refused
    | error r =>
      rw [content] at refused
      obtain rfl := Except.error.inj refused
      cases r <;> exact .inl rfl

/-- A read of a path that a file can have fails by the storage. -/
theorem LocalStorage.storage_of_read {tree : FileTree} {path place : Text}
    (usable : file none path = .ok place) {f : Failure} (fails : read tree none path = .error f) :
    f.kind.isStorage = true := by
  rw [read, usable] at fails
  change answer place (tree.read place) = _ at fails
  cases content : tree.read place with
  | ok b =>
    rw [answer, content] at fails
    cases fails
  | error r =>
    rw [answer, content] at fails
    obtain rfl := Except.error.inj fails
    cases r <;> rfl

/-- A read of a path that no file can have fails by what says so, which is no failure of a template. -/
theorem LocalStorage.foreign_of_read {tree : FileTree} {path : Text} {g : Failure}
    (unusable : file none path = .error g) {f : Failure} (fails : read tree none path = .error f) :
    g = f ∧ f.kind.isStorage = false ∧ ¬(f.kind = .compile ∨ f.kind = .render) := by
  rw [read, unusable] at fails
  obtain rfl := Except.error.inj fails
  refine ⟨rfl, ?_⟩
  rw [file] at unusable
  split at unusable
  · next h is =>
    obtain rfl := Except.error.inj unusable
    rw [unusable?] at is
    split at is
    · obtain rfl := Option.some.inj is
      exact ⟨rfl, by rintro (other | other) <;> cases other⟩
    · split at is <;> cases is
      exact ⟨rfl, by rintro (other | other) <;> cases other⟩
  · cases unusable

namespace CommandLine

open Pipeline

variable {tree : FileTree} {load : Loads}

theorem alone_onEnd {α β : Type} (r : Routine Compiled α) (f : Except Failure α → Routine Compiled β)
    (d : Deployment) : alone tree load (r.onEnd f) d =
      alone tree load (f (alone tree load r d).1) (alone tree load r d).2 := by
  induction r generalizing d with
  | finish o => rfl
  | lookup name next ih => exact ih _ _
  | act a next ih => exact ih _
  | read path next ih => exact ih _ _
  | share name path next ih => exact ih _ _

/-- Reporting a failure does not change it. -/
theorem alone_reported {α : Type} (r : Pipeline.Request α) (storage other : Failure → Notice)
    (d : Deployment) :
    (alone tree load (reported r storage other) d).1 = (alone tree load r d).1 := by
  rw [reported, Routine.handle, alone_onEnd]
  cases (alone tree load r d).1 with
  | ok a => rfl
  | error f =>
    dsimp only
    split
    · rfl
    · split <;> rfl

theorem alone_bind_ok {α β : Type} {r : Routine Compiled α} {f : α → Routine Compiled β}
    {d : Deployment} {a : α} (is : (alone tree load r d).1 = .ok a) :
    alone tree load (r >>= f) d = alone tree load (f a) (alone tree load r d).2 := by
  refine (alone_onEnd r _ d).trans ?_
  rw [is]

theorem alone_bind_error {α β : Type} {r : Routine Compiled α} {f : α → Routine Compiled β}
    {d : Deployment} {e : Failure} (is : (alone tree load r d).1 = .error e) :
    (alone tree load (r >>= f) d).1 = .error e := by
  refine congrArg Prod.fst (alone_onEnd r _ d) |>.trans ?_
  rw [is]
  rfl

/-! ### Resolving -/

theorem alone_load (p : Pipeline) (name path : Text) (d : Deployment) :
    (alone tree load (p.load name path) d).1 =
      (LocalStorage.read tree none path).bind (p.compiler.compile name) := by
  have answer : ∀ d, (alone tree load (.read path fun r => .finish r) d).1 =
      LocalStorage.read tree none path := by
    intro d
    rw [alone]
    cases LocalStorage.read tree none path <;> rfl
  rw [Pipeline.load, alone_bind_ok (a := ()) rfl, alone_bind_ok (a := ()) rfl]
  cases source : LocalStorage.read tree none path with
  | error f => exact alone_bind_error ((answer _).trans source)
  | ok b =>
    rw [alone_bind_ok ((answer _).trans source)]
    change _ = p.compiler.compile name b
    cases compiles : p.compiler.compile name b with
    | error f => exact alone_bind_error rfl
    | ok v => exact congrArg Prod.fst (alone_bind_ok (a := v) rfl)

/-- The deployment of a call. -/
def newDeployment (p : Pipeline) (size : Nat) : Deployment :=
  .create [(p, size)] none (.files {})

/-- **A name resolves to what its file holds**, whether its load is shared or not. -/
theorem alone_resolve (tree : FileTree) (p : Pipeline) (size : Nat) (name : Text) :
    (alone tree (loadAlone tree) (p.resolve name) (newDeployment p size)).1 =
      p.resolution (LocalStorage.read tree none) name := by
  -- there is nothing in the cache yet
  have missed : (alone tree (loadAlone tree) (p.resolve name) (newDeployment p size)).1 =
      (alone tree (loadAlone tree)
        (if p.singleFlight then .share name (p.templatePath name) fun r => .finish r
          else p.load name (p.templatePath name))
        (((newDeployment p size).lookup 0 name).2.act 0 (.count .miss))).1 := rfl
  rw [missed]
  split
  · exact alone_load p name _ _
  · exact alone_load p name _ _

/-! ### Rendering -/

/-- The terms of a call: files stay as they are. -/
def callTerms (tree : FileTree) : Terms Compiled where
  contents c := c = LocalStorage.read tree none
  found _ _ := True
  shared _ o := FailsWith Failure.Loading o
  allowed _ _ := True
  sharable _ _ := True
  cancellable := False
  gated := False

theorem lasting_callTerms (tree : FileTree) : (callTerms tree).Lasting where
  allowed _ _ := trivial
  sharable _ _ := trivial
  lasts := id
  reads := by
    rintro _ path rfl
    exact LocalStorage.read_fails tree path
  shared _ _ told := told

/-- A request that is alone comes to what it ensures on the terms of a call. -/
theorem alone_comes {α : Type} (post : Except Failure α → Prop) {r : Routine Compiled α}
    (ensures : r.Ensures (callTerms tree) (fun _ => post) (LocalStorage.read tree none))
    (d : Deployment) : post (alone tree (loadAlone tree) r d).1 := by
  refine alone_ensures rfl (fun _ _ => trivial) (fun name path d _ => ?_) ensures d
  -- a load asks for no other
  have refused : ∀ name path d, (callTerms tree).sharable name path →
      (callTerms tree).shared name (noLoads name path d).1 :=
    fun _ _ _ _ => failsWith_error (.inr (.inr rfl))
  have loads (r : Routine Compiled Compiled)
      (loading : r.Ensures (callTerms tree) (fun _ => FailsWith Failure.Loading)
        (LocalStorage.read tree none)) : FailsWith Failure.Loading (alone tree noLoads r d).1 :=
    alone_ensures rfl (fun _ _ => trivial) refused loading d
  apply loads
  rw [Deployment.load]
  cases d.services[0]? with
  | none => exact failsWith_error (.inr (.inr rfl))
  | some s => exact s.pipeline.load_loading (lasting_callTerms tree) name path _

/-- A failure to compile or to run a template. -/
def Fault (f : Failure) : Prop :=
  f.kind = .compile ∨ f.kind = .render

theorem Fault.other {f : Failure} (fault : Fault f) : f.kind.isStorage = false := by
  obtain is | is := fault <;> rw [is] <;> rfl

variable {p : Pipeline} (coded : p.Coded) (isText : Encoding.isText p.encoding = true)

include coded isText

variable (tree) in
/-- **What a template comes to**: it fails as its file cannot be read, it has a fault, or there is
output. -/
theorem alone_file (size : Nat) (name : Text) (model : List (Text × Model)) :
    let o := (alone tree (loadAlone tree) (p.renderFile name (some (.dict model)))
      (newDeployment p size)).1
    (∀ f, LocalStorage.read tree none (p.templatePath name) = .error f → o = .error f) ∧
    ∀ b, LocalStorage.read tree none (p.templatePath name) = .ok b → FailsWith Fault o := by
  intro o
  have resolved := alone_resolve tree p size name
  have is : o = _ := alone_reported _ _ _ _
  constructor
  · intro f fails
    have unresolved : p.resolution (LocalStorage.read tree none) name = .error f := by
      rw [resolution, fails]
      rfl
    rw [is]
    exact alone_bind_error (resolved.trans unresolved)
  · intro b stored
    have compiled := resolution_of_stored stored
    cases compiles : p.compiler.compile name b with
    | error f =>
      rw [compiles] at compiled
      rw [is, alone_bind_error (resolved.trans compiled)]
      refine failsWith_error (.inl ?_)
      obtain ⟨_, is⟩ | ⟨_, is, kind⟩ | ⟨other, _⟩ :=
        Compiler.compile_cases (coded.same ▸ coded.accepted) name b
      · cases is.symm.trans compiles
      · cases is.symm.trans compiles
        exact kind
      · rw [coded.same, isText] at other
        cases other
    | ok v =>
      rw [compiles] at compiled
      rw [is, alone_bind_ok (resolved.trans compiled)]
      refine alone_comes (FailsWith Fault) ?_ _
      have usable : Encoding.defect? false .refuse = none := rfl
      have mapping : givenModel (some (.dict model)) = .dict model := rfl
      have renders := p.render_fails (lasting_callTerms tree) coded isText usable v mapping
        (LocalStorage.read tree none)
      exact ⟨trivial, renders.mono fun _ o fails f is => .inr (fails f is)⟩

/-- **What the error page comes to**: it has a fault, or there is output. -/
theorem alone_page (model : List (Text × Model)) (d : Deployment) :
    FailsWith Fault (alone tree (loadAlone tree) (p.renderPage (some (.dict model))) d).1 := by
  rw [renderPage, alone_reported]
  cases compiled : p.compiler.compileText ErrorPage.name p.pageSource with
  | error f => exact failsWith_error (.inl (Compiler.compileText_kind compiled))
  | ok v =>
    have usable : Encoding.defect? false (Replacement.ofName "xmlcharrefreplace") = none := by decide
    refine alone_comes (FailsWith Fault) ?_ _
    have mapping : givenModel (some (.dict model)) = .dict model := rfl
    have renders := p.render_fails (lasting_callTerms tree) coded isText usable v mapping
      (LocalStorage.read tree none)
    exact ⟨trivial, trivial, renders.mono fun _ o fails f is => .inr (fails f is)⟩

end CommandLine

end Stencil
