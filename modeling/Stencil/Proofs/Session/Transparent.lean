import Stencil.Proofs.Schedule.Progress
import Stencil.Proofs.Session.Regime

/-!
# Caching and concurrency are invisible

While the storage stays as it is, a request ends with the outcome that it has on its own, without a
cache and without single flight. It does not matter how the cache is used, dropped and refilled
meanwhile, nor which other requests run or are cancelled.

## Main definitions

- `Storage.Uncancelled` — a storage whose reads never fail like something that was cancelled
- `Session.fresh` — a service over a storage in memory
- `Session.Operation.Quiet` — an operation that leaves the storage as it is

## Main results

- `Session.render_transparent`
-/

namespace Stencil

/-- No read of a file fails like something that was cancelled. -/
theorem LocalStorage.kind_of_read {tree : FileTree} {base : Option Text} {path : Text} {f : Failure}
    (fails : read tree base path = .error f) : f.kind ≠ .cancelled := by
  obtain unusable | ⟨place, _, refused⟩ := error_of_bind fails
  · rw [file] at unusable
    split at unusable
    · next g is =>
      obtain rfl := Except.error.inj unusable
      rw [unusable?] at is
      split at is
      · obtain rfl := Option.some.inj is
        exact Kind.noConfusion
      · split at is <;> cases is
        exact Kind.noConfusion
    · cases unusable
  · rw [answer] at refused
    cases content : tree.read place with
    | ok b =>
      rw [content] at refused
      cases refused
    | error r =>
      rw [content] at refused
      obtain rfl := Except.error.inj refused
      cases r <;> exact Kind.noConfusion

/-- A storage in memory can be told to fail, but not like something that was cancelled. -/
def Storage.Uncancelled : Storage → Prop
  | memory m => ∀ f, m.failWith = some f → f.kind ≠ .cancelled
  | files _ => True

theorem Storage.Uncancelled.reads {storage : Storage} (uncancelled : storage.Uncancelled) (path : Text)
    (f : Failure) (fails : storage.contents path = .error f) : f.kind ≠ .cancelled := by
  cases storage with
  | memory m =>
    change m.serve path = _ at fails
    rw [MemoryStorage.serve] at fails
    split at fails
    · next g is =>
      obtain rfl := Except.error.inj fails
      exact uncancelled g is
    · split at fails
      · cases fails
      · obtain rfl := Except.error.inj fails
        exact Kind.noConfusion
  | files tree => exact LocalStorage.kind_of_read fails

namespace Pipeline

/-- If no read fails like something that was cancelled, no name does. -/
theorem toldOf_resolution (p : Pipeline) {c : Contents}
    (reads : ∀ path f, c path = .error f → f.kind ≠ .cancelled) (name : Text) :
    toldOf (p.resolution c name) = p.resolution c name := by
  cases resolves : p.resolution c name with
  | ok v => rfl
  | error f =>
    have kind : f.kind ≠ .cancelled := by
      rw [resolution] at resolves
      obtain missing | ⟨b, _, fails⟩ := error_of_bind resolves
      · exact reads _ f missing
      · exact Compiler.compile_kind fails
    rw [toldOf, if_neg kind]

/-- Storage in memory that works never fails like something that was cancelled. -/
theorem told_resolution (p : Pipeline) {m : MemoryStorage} (works : m.failWith = none) (name : Text) :
    toldOf (p.resolution m.serve name) = p.resolution m.serve name := by
  have uncancelled : (Storage.memory m).Uncancelled := fun f is => by
    rw [works] at is
    cases is
  exact p.toldOf_resolution uncancelled.reads name

/-- The terms on which all names resolve to what is stored. -/
def idealTerms (p : Pipeline) (c₀ : Contents) : Terms Compiled where
  contents c := c = c₀
  found name v := p.resolution c₀ name = .ok v
  shared name o := o = p.resolution c₀ name
  allowed _
    | .keep name v => p.resolution c₀ name = .ok v
    | .run _ | .note _ | .count _ | .miss _ => True
  sharable name path := path = p.templatePath name
  cancellable := False
  gated := False

theorem resolves_ideal (p : Pipeline) (c₀ : Contents)
    (plain : Markup.escape p.templateDir = p.templateDir) :
    p.Resolves (p.idealTerms c₀) True fun name o => o = p.resolution c₀ name where
  one _ _ _ _ e e' := e.trans e'.symm
  found _ _ found := found.symm
  shared _ _ e := e
  loaded c name met := by rw [show c = c₀ from met]
  cancelled may := may.elim
  sharable _ := rfl
  keep c name v met e := by rwa [show c = c₀ from met] at e
  run _ _ _ _ := trivial
  reports c a reports := by
    cases a <;> first | exact trivial | exact reports.elim
  plain := plain

end Pipeline

namespace Session

/-- A service over a storage in memory, with a cache of this size. -/
def fresh (p : Pipeline) (size : Nat) (m : MemoryStorage) : Session :=
  start (.create [(p, size)] none (.memory m))

/-- An operation that leaves the storage as it is. -/
def Operation.Quiet : Operation → Prop
  | step | submit .. | start .. | cancel _ | invalidate .. | clear _ => True
  | add .. | remove _ | hold | release => False

/-- The regime over a storage that stays as it is, for a request with a known outcome. -/
def steady (p : Pipeline) (m : MemoryStorage) (id : Nat) (P : Except Failure Bytes → Prop)
    (plain : Markup.escape p.templateDir = p.templateDir) (works : m.failWith = none) : Regime where
  services := [(p, 0)]
  contents c := c = m.serve
  fresh _ name v := p.resolution m.serve name = .ok v
  shared id' _ name o := id' = id → o = p.resolution m.serve name
  runs _ _ := True
  post id' o := id' = id → P o
  cancellable id' := id' ≠ id
  gated := False
  first := 0
  stale _ := False
  recent := Regime.recent_of_none
  plain service p' k is := by
    obtain rfl : service = 0 := by simpa using (List.getElem?_eq_some_iff.mp is).1
    obtain ⟨rfl, rfl⟩ := Prod.mk.inj (Option.some.inj is)
    exact plain
  keeps service p' k c name v is met e := by
    obtain rfl : service = 0 := by simpa using (List.getElem?_eq_some_iff.mp is).1
    obtain ⟨rfl, rfl⟩ := Prod.mk.inj (Option.some.inj is)
    rwa [show c = m.serve from met] at e
  tells id' service p' k c name is met _ := by
    obtain rfl : service = 0 := by simpa using (List.getElem?_eq_some_iff.mp is).1
    obtain ⟨rfl, rfl⟩ := Prod.mk.inj (Option.some.inj is)
    rw [show c = m.serve from met]
    exact p.told_resolution works name

section

variable {p : Pipeline} {m : MemoryStorage} {id : Nat} {P : Except Failure Bytes → Prop}
  {plain : Markup.escape p.templateDir = p.templateDir} {works : m.failWith = none}

theorem steady_free {id' : Nat} (other : id' ≠ id) : (steady p m id P plain works).Free id' where
  runs _ := trivial
  shared _ _ _ e := absurd e other
  post _ e := absurd e other

theorem steady_within :
    ((steady p m id P plain works).terms id 0).Within (p.idealTerms m.serve) where
  contents _ met := met
  found _ _ found := by
    obtain ⟨_, _, _, fresh⟩ := found
    exact fresh
  shared _ _ shared := shared rfl
  allowed c a met allowed := by
    cases a with
    | keep name v =>
      refine ⟨p, 0, rfl, ?_⟩
      rw [show c = m.serve from met]
      exact allowed
    | _ => trivial
  sharable _ _ e := ⟨p, 0, rfl, e⟩
  cancellable may := absurd rfl may
  gated may := may

theorem steady_sound_fresh (size : Nat) :
    (steady p m id P plain works).contract.Sound (fresh p size m) := by
  have caches := Deployment.cachesHold_create (steady p m id P plain works).fresh [(p, size)] none
    (.memory m)
  exact Regime.sound_start ⟨rfl, rfl, rfl, caches, fun held => absurd held Bool.false_ne_true⟩ rfl

/-- A quiet operation that does not cancel the request. -/
theorem steady_allows {s : Session} {op : Operation} (quiet : op.Quiet)
    (apart : (s.operate op).jobs.length ≤ id ∨ id < s.jobs.length)
    (spared : id < s.jobs.length → op ≠ .cancel id) :
    (steady p m id P plain works).Allows s op := by
  refine Regime.allows_of_apart (fun k other => ⟨steady_free other, other⟩) apart
    (fun e lt => absurd e (spared lt)) (fun changes => ?_) (fun e => ?_)
  · cases op <;> first | exact quiet.elim | exact changes.elim
  · rw [e] at quiet
    exact quiet.elim

theorem steady_free_contract : (steady p m id P plain works).contract.Free where
  requests _ _ := not_false
  loads _ := not_false

end

/-- A request comes to an outcome that it can have on ideal terms, however it is served. -/
theorem settles_ideal (p : Pipeline) {m : MemoryStorage} {name : Text} {model : Option Model}
    {P : Except Failure Bytes → Prop} (size : Nat) (before after : List Operation) {own : Operation}
    (plain : Markup.escape p.templateDir = p.templateDir) (works : m.failWith = none)
    (ensures : (p.renderFile name model).Ensures (p.idealTerms m.serve) (fun _ => P) m.serve)
    (asks : own.Asks 0 (.file name model)) (quiet : ∀ op ∈ before ++ after, op.Quiet)
    (spared : .cancel ((fresh p size m).run before).jobs.length ∉ after) :
    ∃ o, P o ∧ ((fresh p size m).run (before ++ own :: after)).Settles Deployment.host
      ((fresh p size m).run before).jobs.length o := by
  let s := (fresh p size m).run before
  let G := steady p m s.jobs.length P plain works
  have reached : G.contract.Sound s := by
    refine Regime.sound_run (steady_sound_fresh size) fun pre op post e => ?_
    have soon : (((fresh p size m).run pre).operate op).jobs.length ≤ s.jobs.length :=
      length_operate_le _ e
    refine steady_allows (quiet op (by simp [e])) (.inl soon) fun lt => ?_
    exact absurd (Nat.lt_of_lt_of_le lt (length_le_run _ [op])) (Nat.not_lt_of_le soon)
  have keeps : ∀ c, G.contents c → (p.renderFile name model).Ensures (G.terms s.jobs.length 0)
      (fun _ o => G.post s.jobs.length o) c := by
    rintro c rfl
    exact ensures.within steady_within (fun _ _ _ ends _ => ends) rfl
  obtain ⟨sound, st, cancelling, at_⟩ := Regime.sound_request reached rfl asks after keeps
    (fun may => absurd rfl may)
    (fun service' n l _ => .inl fun c o => G.contract.tells _ l service' n c o (Nat.zero_le l))
    fun pre op post e there => by
      have mem : op ∈ after := by simp [e]
      exact steady_allows (quiet op (List.mem_append_right _ mem)) (.inr there)
        fun _ cancels => spared (cancels ▸ mem)
  obtain ⟨o, _, settles, _, post⟩ := sound.settles steady_free_contract at_
  refine ⟨o, post rfl, ?_⟩
  rwa [run_append, run_cons]

end Session

end Stencil
