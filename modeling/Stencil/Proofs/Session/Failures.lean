import Stencil.Proofs.Pipeline.Failures
import Stencil.Proofs.Schedule.Gate
import Stencil.Proofs.Session.Regime

/-!
# How requests fail

However the requests to a service are served, and whatever a storage in memory comes to hold and how
often it fails as a storage does: a request ends with bytes or with a failure of the template family, or
it was cancelled. The exception are encodings that are not for text. Settings accept them, and no request
ends well under them.

## Main definitions

- `Session.Incident` — an operation, or a change in how the storage fails
- `Deployment.Serves` — what holds of a deployment whose storage fails as it should
- `Session.ownContract` — the contract of one request, which asks nothing of the others

## Main results

- `Session.fails_as_template`
-/

namespace Stencil

/-! ### Storages that fail as storages -/

namespace MemoryStorage

/-- A storage that fails as a storage does, if it has to fail. -/
def FailsWell (m : MemoryStorage) : Prop :=
  ∀ f, m.failWith = some f → f.kind.isStorage = true

/-- A storage fails well if all reads do. -/
theorem failsWell_iff (m : MemoryStorage) :
    m.FailsWell ↔ ∀ path f, m.serve path = .error f → f.kind.isStorage = true := by
  refine ⟨fun well path f fails => ?_, fun well f fails => well [] f ?_⟩
  · rw [serve] at fails
    split at fails
    · next g is =>
      obtain rfl := Except.error.inj fails
      exact well g is
    · split at fails
      · cases fails
      · obtain rfl := Except.error.inj fails
        rfl
  · rw [serve, fails]

end MemoryStorage

namespace Deployment

/-- A deployment of these services over a storage in memory that fails as a storage does. -/
structure Serves (services : List (Pipeline × Nat)) (d : Deployment) : Prop where
  roster : d.roster = services
  memory : d.storage.isMemory = true
  reads : ∀ path f, d.storage.contents path = .error f → f.kind.isStorage = true

variable {services : List (Pipeline × Nat)} {d d' : Deployment}

theorem Serves.of_frame (serves : d.Serves services) (frame : d.Frame d') : d'.Serves services where
  roster := frame.roster.trans serves.roster
  memory := frame.memory.trans serves.memory
  reads path f fails := serves.reads path f (frame.contents ▸ fails)

/-- The storage may be changed as long as it fails as it should. -/
theorem Serves.updateMemory (serves : d.Serves services) {f : MemoryStorage → MemoryStorage}
    (well : ∀ m, m.FailsWell → (f m).FailsWell) : (d.updateMemory f).Serves services := by
  rw [Deployment.updateMemory]
  cases storage : d.storage with
  | files tree =>
    have memory := serves.memory
    rw [storage] at memory
    cases memory
  | memory m =>
    refine ⟨serves.roster, rfl, (MemoryStorage.failsWell_iff (f m)).mp (well m ?_)⟩
    refine (MemoryStorage.failsWell_iff m).mpr fun path e fails => serves.reads path e ?_
    rw [storage]
    exact fails

/-- The jobs of a deployment leave the gate as it is. -/
theorem calm : host.Calm where
  lookup service name d := (d.frame_lookup service name).held
  act service a d := (d.frame_act service a).held
  beginRead path d := (d.frame_beginRead path).held
  serve path d := (d.frame_serve path).held

end Deployment

namespace Session

/-! ### The contract of one request -/

/-- A property of the pipeline that a service stands for, if settings accept its encoding. -/
def AtService (services : List (Pipeline × Nat)) (service : Nat) (P : Pipeline → Prop) : Prop :=
  ∀ p k, services[service]? = some (p, k) → p.Coded → P p

/-- The terms of a request of which only the answers are known. -/
def laxTerms (services : List (Pipeline × Nat)) (service : Nat) : Terms Compiled where
  contents c := ∀ path f, c path = .error f → f.kind.isStorage = true
  found _ _ := True
  shared _ o := AtService services service fun p => ∀ f, o = .error f → p.Fails f
  allowed _ _ := True
  sharable _ _ := True
  cancellable := True
  gated := True

/-- The terms of a load. -/
def laxLoadTerms (services : List (Pipeline × Nat)) (service : Nat) : Terms Compiled :=
  { laxTerms services service with
    sharable := fun _ _ => False
    cancellable := False }

variable {services : List (Pipeline × Nat)}

theorem lax_laxTerms (service : Nat) : (laxTerms services service).Lax where
  allowed _ _ := trivial
  sharable _ _ := trivial

theorem honors_lax (service : Nat) :
    Deployment.host.Honors (Deployment.Serves services) service (laxTerms services service) where
  contents d serves := by
    rw [Deployment.host_contents]
    exact serves.reads
  lookup d name serves :=
    have frame := d.frame_lookup service name
    ⟨serves.of_frame frame, frame.host_contents, fun _ _ => trivial⟩
  act d a serves _ :=
    have frame := d.frame_act service a
    ⟨serves.of_frame frame, frame.host_contents⟩
  joined _ _ := trivial
  beginRead d path serves :=
    have frame := d.frame_beginRead path
    ⟨serves.of_frame frame, frame.host_contents⟩
  serve d path serves :=
    have frame := d.frame_serve path
    ⟨serves.of_frame frame, frame.host_contents⟩
  holding _ _ _ := trivial

/-- A load that is started keeps its terms, whatever others do. -/
theorem starts_lax {service : Nat} {d : Deployment} (serves : d.Serves services) (name path : Text)
    (c : Contents) : (Deployment.host.load service name path d).Ensures (laxLoadTerms services service)
      (fun _ o => AtService services service fun p => ∀ f, o = .error f → p.Fails f) c := by
  change (d.load service name path).Ensures _ _ c
  rw [Deployment.load]
  cases at_ : d.services[service]? with
  | none =>
    intro p k is
    rw [← serves.roster, Deployment.roster_getElem?, at_] at is
    cases is
  | some s =>
    have reads : ∀ c path f, (laxLoadTerms services service).contents c → c path = .error f →
        f.kind.isStorage = true := fun c path f met => met path f
    refine (s.pipeline.load_fails (fun _ _ => trivial) reads name path c).mono ?_
    intro _ o fails p k is coded
    rw [← serves.roster, Deployment.roster_getElem?, at_] at is
    obtain ⟨rfl, -⟩ := Prod.mk.inj (Option.some.inj is)
    exact fails coded

/-- The contract of the request of number `own`. -/
def ownContract (services : List (Pipeline × Nat)) (own : Nat) : Contract Deployment.host Bytes where
  inv := Deployment.Serves services
  first := 0
  terms _ service := laxTerms services service
  post id service _ o := id = own → AtService services service fun p => p.Comes o
  loadTerms := laxLoadTerms services
  loadPost _ service _ _ o := AtService services service fun p => ∀ f, o = .error f → p.Fails f
  honors _ service := honors_lax service
  loadHonors service := { honors_lax service with }
  solo _ _ _ := id
  steady _ := id
  starts _ _ name path _ serves _ _ c _ := starts_lax serves name path c
  tells _ _ service _ _ o _ _ ends p k is coded f told := by
    cases o with
    | ok v => cases told
    | error e =>
      obtain rfl := Except.error.inj told
      split
      · exact .inl Failure.expected_cancelled
      · exact ends p k is coded e rfl

/-! ### Runs in which the storage fails -/

/-- What happens to a session: something is done to it, or its storage fails in another way. -/
inductive Incident where
  | operation (op : Operation)
  /-- From now on all reads fail like this, or none does. -/
  | failing (f : Option Failure)

def Incident.events (s : Session) : Incident → List (Event Deployment Compiled Bytes)
  | operation op => op.events s
  | failing f => [.update fun d => d.updateMemory fun m => { m with failWith := f }]

/-- The storage is to fail as a storage does. -/
def Incident.Fair : Incident → Prop
  | operation _ => True
  | failing f => ∀ e, f = some e → e.kind.isStorage = true

def meet (s : Session) (i : Incident) : Session :=
  s.play Deployment.host (i.events s)

/-- A session after all of these, in this order. -/
def through (s : Session) (is : List Incident) : Session :=
  is.foldl meet s

theorem through_append (s : Session) (is is' : List Incident) :
    s.through (is ++ is') = (s.through is).through is' :=
  List.foldl_append

theorem through_play (s : Session) (is : List Incident) :
    ∃ es, s.through is = s.play Deployment.host es := by
  induction is generalizing s with
  | nil => exact ⟨[], rfl⟩
  | cons i is ih =>
    obtain ⟨es, e⟩ := ih (s.meet i)
    refine ⟨i.events s ++ es, ?_⟩
    rw [Scheduler.play_append]
    exact e

theorem length_le_through (s : Session) (is : List Incident) :
    s.jobs.length ≤ (s.through is).jobs.length := by
  obtain ⟨es, e⟩ := s.through_play is
  rw [e]
  exact Scheduler.length_le_play Deployment.host s es

/-- How an incident changes a deployment by itself, and not by the jobs. -/
inductive Incident.Effect (d : Deployment) : Incident → Deployment → Prop
  | operation {op : Operation} {d' : Deployment} (effect : op.Effect d d') : Effect d (.operation op) d'
  | failing (f : Option Failure) :
      Effect d (.failing f) (d.updateMemory fun m => { m with failWith := f })

/-- An incident keeps a contract under which all may be cancelled, if it admits what is asked for and what
the incident changes. -/
theorem sound_incident {K : Contract Deployment.host Bytes} {s : Session} (sound : K.Sound s) {i : Incident}
    (asked : ∀ op service r, i = .operation op → op.Asks service r →
      (Standing.fresh (s.routine service r)).Keeps (K.terms s.jobs.length service)
        (K.post s.jobs.length service) (fun _ _ => False) ∧ K.Informed s s.jobs.length)
    (cancels : ∀ id service, (K.terms id service).cancellable)
    (changes : ∀ d, i.Effect s.state d → K.inv d) : K.Sound (s.meet i) := by
  cases i with
  | operation op =>
    exact sound_operate sound (fun service r => asked op service r rfl) (fun id service _ _ => cancels id service)
      fun d effect => changes d (.operation effect)
  | failing f =>
    exact sound.after (e := .update fun d => d.updateMemory fun m => { m with failWith := f })
      (changes _ (.failing f))

/-- What each incident keeps is kept through all of them. -/
theorem keeps_through {Q : Session → Prop} {s : Session} {is : List Incident} (holds : Q s)
    (step : ∀ pre i post, is = pre ++ i :: post → Q (s.through pre) → Q ((s.through pre).meet i)) :
    Q (s.through is) := by
  induction is generalizing s with
  | nil => exact holds
  | cons i is ih =>
    refine ih (step [] i is rfl holds) fun pre i' post split => ?_
    exact step (i :: pre) i' post (by rw [split, List.cons_append])

theorem linked_through {s : Session} (linked : s.Linked s.queue) (is : List Incident) :
    (s.through is).Linked (s.through is).queue := by
  obtain ⟨es, e⟩ := s.through_play is
  rw [e]
  exact linked.play

variable {own : Nat} {s : Session}

theorem informed_own (s : Session) (id : Nat) : (ownContract services own).Informed s id :=
  fun service name l _ c o => (ownContract services own).tells id l service name c o (Nat.zero_le l)

/-- Nothing is said about other requests. -/
theorem fits_other {id : Nat} (other : id ≠ own) (service : Nat) (r : Routine Compiled Bytes) :
    (Standing.fresh r).Keeps ((ownContract services own).terms id service)
      ((ownContract services own).post id service) fun _ _ => False := by
  refine ⟨fun c _ => ?_, fun _ _ _ is => absurd is other⟩
  exact (Routine.ensures_of_lax (lax_laxTerms service) r c).mono fun _ _ _ is => absurd is other

/-- What a service does for a request, its pipeline says. -/
theorem routine_of_served {service k : Nat} {p : Pipeline} (roster : s.state.roster = services)
    (served : services[service]? = some (p, k)) (r : Request) : s.routine service r = r.routine p := by
  rw [← roster, Deployment.roster_getElem?, Option.map_eq_some_iff] at served
  obtain ⟨found, at_, same⟩ := served
  obtain ⟨rfl, -⟩ := Prod.mk.inj same
  rw [Session.routine, at_]

/-- The request itself comes to what it should. -/
theorem fits_own {service : Nat} {p : Pipeline} {k : Nat} (roster : s.state.roster = services)
    (served : services[service]? = some (p, k)) (coded : p.Coded) {r : Request} (mapped : r.Mapped) :
    (Standing.fresh (s.routine service r)).Keeps ((ownContract services own).terms own service)
      ((ownContract services own).post own service) fun _ _ => False := by
  have answered : p.Answered (laxTerms services service) :=
    ⟨fun c path f met => met path f, fun name f told => told p k served coded f rfl⟩
  have one : ∀ {o}, p.Comes o → AtService services service fun p => p.Comes o := by
    intro o comes p' k' served' _
    obtain ⟨rfl, -⟩ := Prod.mk.inj (Option.some.inj (served.symm.trans served'))
    exact comes
  rw [routine_of_served roster served]
  refine ⟨fun c _ => ?_, fun _ _ _ _ => one (.inl Failure.expected_cancelled)⟩
  exact (Request.comes coded (lax_laxTerms service) answered mapped c).mono fun _ o comes _ => one comes

/-- An operation asks for one thing only. -/
theorem Operation.Asks.unique {op : Operation} {service service' : Nat} {r r' : Request}
    (asks : op.Asks service r) (asks' : op.Asks service' r') : service' = service ∧ r' = r := by
  obtain rfl | rfl := asks <;> obtain is | is := asks' <;> cases is <;> exact ⟨rfl, rfl⟩

/-- An operation that asks for something brings a job. -/
theorem Operation.Asks.length {op : Operation} {service : Nat} {r : Request} (asks : op.Asks service r)
    (s : Session) : s.jobs.length < (s.operate op).jobs.length := by
  obtain ⟨_, _, at_⟩ := asks.job? s
  exact Scheduler.lt_of_job? at_

theorem sound_operate_own (sound : (ownContract services own).Sound s) {op : Operation}
    (asked : ∀ service r, op.Asks service r → s.jobs.length = own →
      (Standing.fresh (s.routine service r)).Keeps ((ownContract services own).terms own service)
        ((ownContract services own).post own service) fun _ _ => False) :
    (ownContract services own).Sound (s.operate op) := by
  have serves : s.state.Serves services := sound.holds.inv
  refine sound_operate sound (fun service r asks => ⟨?_, informed_own s _⟩) (fun _ _ _ _ => trivial)
    fun d effect => ?_
  · by_cases is : s.jobs.length = own
    · exact is ▸ asked service r asks is
    · exact fits_other is service _
  · cases effect with
    | invalidate service name => exact serves.of_frame (s.state.frame_invalidate service name)
    | clear service => exact serves.of_frame (s.state.frame_clear service)
    | add path content => exact serves.updateMemory fun m well => well
    | remove path => exact serves.updateMemory fun m well => well
    | hold | release => exact ⟨serves.roster, serves.memory, serves.reads⟩

/-- **One incident** after which the request is still to come, or before which it was there. -/
theorem sound_meet (sound : (ownContract services own).Sound s) {i : Incident} (fair : i.Fair)
    (apart : (s.meet i).jobs.length ≤ own ∨ own < s.jobs.length) :
    (ownContract services own).Sound (s.meet i) := by
  cases i with
  | operation op =>
    refine sound_operate_own sound fun service r asks is => ?_
    have grows := asks.length s
    have apart : (s.operate op).jobs.length ≤ own ∨ own < s.jobs.length := apart
    omega
  | failing f =>
    have serves : s.state.Serves services := sound.holds.inv
    have well : ∀ m : MemoryStorage, m.FailsWell → { m with failWith := f }.FailsWell :=
      fun m _ e is => fair e is
    exact sound.after (e := .update fun d => d.updateMemory fun m => { m with failWith := f })
      (serves.updateMemory well)

theorem sound_through {is : List Incident} (sound : (ownContract services own).Sound s)
    (fair : ∀ i ∈ is, i.Fair)
    (apart : (s.through is).jobs.length ≤ own ∨ own < s.jobs.length) :
    (ownContract services own).Sound (s.through is) := by
  induction is generalizing s with
  | nil => exact sound
  | cons i is ih =>
    -- jobs are never taken away, so every incident has the request ahead of it or behind it
    have later : (s.meet i).jobs.length ≤ (s.through (i :: is)).jobs.length :=
      length_le_through (s.meet i) is
    have sooner : s.jobs.length ≤ (s.meet i).jobs.length := length_le_through s [i]
    have met := sound_meet sound (fair i List.mem_cons_self) (by omega)
    refine ih met (fun i mem => fair i (List.mem_cons_of_mem _ mem)) ?_
    exact apart.imp_right fun lt => Nat.lt_of_lt_of_le lt sooner

/-- **The contract of a request** is kept through all incidents before and after it. -/
theorem sound_own {d : Deployment} (serves : d.Serves services) {service k : Nat} {p : Pipeline}
    (served : services[service]? = some (p, k)) (coded : p.Coded) {before after : List Incident}
    (fair : ∀ i ∈ before ++ after, i.Fair) {own : Operation} {r : Request}
    (asks : own.Asks service r) (mapped : r.Mapped) :
    let s : Session := (start d).through before
    (ownContract services s.jobs.length).Sound ((s.operate own).through after) := by
  intro s
  -- the contract is made before the request is there, and the request joins it when it comes
  have reached : (ownContract services s.jobs.length).Sound s :=
    sound_through (sound_start serves rfl) (fun i mem => fair i (List.mem_append_left _ mem))
      (.inl (Nat.le_refl _))
  have asked : (ownContract services s.jobs.length).Sound (s.operate own) := by
    refine sound_operate_own reached fun service' r' asks' _ => ?_
    obtain ⟨rfl, rfl⟩ := asks.unique asks'
    exact fits_own reached.holds.inv.roster served coded mapped
  exact sound_through asked (fun i mem => fair i (List.mem_append_right _ mem)) (.inr (asks.length s))

/-- No read is held once the gate was opened. -/
theorem unheld_release (linked : s.Linked s.queue) : (s.operate .release).Unheld Deployment.host where
  passing := by
    let shut : Session := s.update fun d => { d with held := false }
    have same : shut.openGate.state = shut.state := by
      refine Scheduler.openGate_keeps (P := fun t => t.state = shut.state) (fun t id same => ?_)
        (fun _ same => same) rfl
      obtain wakes | ⟨_, e⟩ := t.wake_cases id fun st => st.pass?
      · exact wakes.state.trans same
      · rw [e]
        exact same
    exact congrArg Deployment.held same
  jobs _ _ at_ := (linked.after (.update fun d => { d with held := false })).unheld_openGate at_

end Session

end Stencil
