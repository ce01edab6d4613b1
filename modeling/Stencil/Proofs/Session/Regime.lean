import Stencil.Proofs.Compiler
import Stencil.Proofs.Deployment
import Stencil.Proofs.Pipeline.Ensures
import Stencil.Proofs.Schedule.Contract
import Stencil.Proofs.Session.Operation

/-!
# Regimes

What the requests of a session may rely on while it runs: what is stored, what the caches hold and what
loads come to. A regime lasts as long as the operations on the session allow it.

## Main definitions

- `Regime` — what holds of a session
- `Regime.contract` — the contract of the jobs of a session under a regime
- `Regime.Free` — a request of which nothing is asked
- `Regime.Allows` — the operations under which a regime lasts

## Design notes

Caches only get what a load has just read, so what they hold follows from what is stored. What a load
that is `stale` ends with does not count.
-/

namespace Stencil

namespace Session

/-- A session without jobs keeps every contract that its deployment keeps. -/
theorem sound_start {K : Contract Deployment.host Bytes} {d : Deployment} (inv : K.inv d)
    (first : K.first = 0) : K.Sound (start d) where
  linked := Scheduler.linked_empty d
  holds :=
    { inv
      first := Nat.le_of_eq first
      jobs := fun id job at_ => by
        rw [Scheduler.job?, start, List.getElem?_nil] at at_
        cases at_ }
  informed id job at_ := by
    rw [Scheduler.job?, start, List.getElem?_nil] at at_
    cases at_

/-- An operation keeps a contract that admits what it asks for, what it cancels and what it changes. -/
theorem sound_operate {K : Contract Deployment.host Bytes} {s : Session} (sound : K.Sound s)
    {op : Operation}
    (asked : ∀ service r, op.Asks service r →
      (Standing.fresh (s.routine service r)).Keeps (K.terms s.jobs.length service)
        (K.post s.jobs.length service) (fun _ _ => False) ∧ K.Informed s s.jobs.length)
    (cancels : ∀ id service, op = .cancel id → id < s.jobs.length → (K.terms id service).cancellable)
    (changes : ∀ d, op.Effect s.state d → K.inv d) : K.Sound (s.operate op) := by
  have updated : ∀ f, op.events s = [.update f] → op.Effect s.state (f s.state) →
      K.Sound (s.operate op) := by
    intro f events effect
    rw [operate, events]
    exact sound.after (e := .update f) (changes _ effect)
  cases op with
  | step => exact sound.after (e := .step) trivial
  | submit service r =>
    obtain ⟨fits, informed⟩ := asked service r (.inl rfl)
    exact sound.after (e := .submit service _)
      ⟨fits, fun service name l mem => .inl (informed service name l mem)⟩
  | start service r => exact sound.after (e := .start service _) (asked service r (.inr rfl))
  | cancel id =>
    rw [operate, Operation.events]
    split
    · next st _ at_ =>
      refine sound.after (e := .cancel id) fun job at_' => ?_
      obtain rfl := Option.some.inj (at_.symm.trans at_')
      exact ⟨rfl, cancels id _ rfl (Scheduler.lt_of_job? at_)⟩
    · exact sound
  | invalidate service name => exact updated _ rfl (.invalidate service name)
  | clear service => exact updated _ rfl (.clear service)
  | add path content => exact updated _ rfl (.add path content)
  | remove path => exact updated _ rfl (.remove path)
  | hold => exact updated _ rfl .hold
  | release =>
    have opened := sound.after (e := .update fun d => { d with held := false }) (changes _ .release)
    exact opened.after (e := .openGate) trivial

end Session

/-- What holds of a session while it runs. Requests and loads are given by the numbers of their jobs. -/
structure Regime where
  /-- The pipelines of the services, with the numbers of their caches. -/
  services : List (Pipeline × Nat)
  /-- What may be stored. -/
  contents : Contents → Prop
  /-- What a cache may hold under a name. -/
  fresh : Nat → Text → Compiled → Prop
  /-- What a request of a service may be told of the load of a name. -/
  shared : Nat → Nat → Text → Except Failure Compiled → Prop
  /-- What a request may run. -/
  runs : Nat → Compiled → Prop
  /-- What a request ends with. -/
  post : Nat → Except Failure Bytes → Prop
  cancellable : Nat → Prop
  gated : Prop
  /-- Whether the storage is in memory. -/
  inMemory : Bool := true
  /-- The number from which on no load is stale. -/
  first : Nat
  stale : Nat → Prop
  recent : ∀ l, stale l → l < first
  plain : ∀ (service : Nat) (p : Pipeline) (k : Nat), services[service]? = some (p, k) →
    Markup.escape p.templateDir = p.templateDir
  keeps : ∀ (service : Nat) (p : Pipeline) (k : Nat) (c : Contents) (name : Text) (v : Compiled),
    services[service]? = some (p, k) → contents c → p.resolution c name = .ok v → fresh k name v
  tells : ∀ (id service : Nat) (p : Pipeline) (k : Nat) (c : Contents) (name : Text),
    services[service]? = some (p, k) → contents c →
      shared id service name (toldOf (p.resolution c name))

namespace Regime

/-- Where no load is stale, any number will do. -/
theorem recent_of_none : ∀ l : Nat, False → l < 0 := fun _ stale => stale.elim

variable (G : Regime)

/-- The terms of a request of a service. -/
def terms (id service : Nat) : Terms Compiled where
  contents := G.contents
  found name v := ∃ (p : Pipeline) (k : Nat), G.services[service]? = some (p, k) ∧ G.fresh k name v
  shared := G.shared id service
  allowed c
    | .keep name v =>
      ∃ (p : Pipeline) (k : Nat), G.services[service]? = some (p, k) ∧ p.resolution c name = .ok v
    | .run v => G.runs id v
    | .note _ | .count _ | .miss _ => True
  sharable name path :=
    ∃ (p : Pipeline) (k : Nat), G.services[service]? = some (p, k) ∧ path = p.templatePath name
  cancellable := G.cancellable id
  gated := G.gated

/-- The terms of a load. It runs nothing and shares no loads. -/
def loadTerms (service : Nat) : Terms Compiled :=
  { G.terms 0 service with
    allowed := fun c a => (∀ v, a ≠ .run v) ∧ (G.terms 0 service).allowed c a
    sharable := fun _ _ => False
    cancellable := False }

/-- What holds of a deployment. -/
structure Inv (d : Deployment) : Prop where
  roster : d.roster = G.services
  contents : G.contents d.storage.contents
  memory : d.storage.isMemory = G.inMemory
  caches : d.CachesHold G.fresh
  held : d.held = true → G.gated

variable {G} {d d' : Deployment}

theorem Inv.of_frame (inv : G.Inv d) (frame : d.Frame d') (caches : d'.CachesHold G.fresh) :
    G.Inv d' where
  roster := frame.roster.trans inv.roster
  contents := frame.contents ▸ inv.contents
  memory := frame.memory.trans inv.memory
  caches := caches
  held held := inv.held (frame.held ▸ held)

/-- A deployment gives requests what they rely on, as long as they keep what they have just read. -/
theorem honors (id service : Nat) : Deployment.host.Honors G.Inv service (G.terms id service) where
  contents d inv := Deployment.host_contents d ▸ inv.contents
  lookup d name inv := by
    have frame := d.frame_lookup service name
    refine ⟨inv.of_frame frame (inv.caches.lookup service name), frame.host_contents, fun v found => ?_⟩
    obtain ⟨p, k, is, fresh⟩ := inv.caches.found found
    exact ⟨p, k, inv.roster ▸ is, fresh⟩
  act d a inv allowed := by
    have frame := d.frame_act service a
    refine ⟨inv.of_frame frame (inv.caches.act ?_), frame.host_contents⟩
    rintro name v p k rfl is
    obtain ⟨p', k', is', resolves⟩ := allowed
    obtain ⟨rfl, rfl⟩ := Prod.mk.inj (Option.some.inj ((inv.roster ▸ is).symm.trans is'))
    rw [Deployment.host_contents] at resolves
    exact G.keeps service p k _ name v is' inv.contents resolves
  joined _ _ := trivial
  beginRead d path inv :=
    have frame := d.frame_beginRead path
    ⟨inv.of_frame frame (inv.caches.beginRead path), frame.host_contents⟩
  serve d path inv :=
    have frame := d.frame_serve path
    ⟨inv.of_frame frame (inv.caches.serve path), frame.host_contents⟩
  holding _ inv held := inv.held held

/-- The load of a service keeps its terms. -/
private theorem starts {service id l : Nat} {name path : Text} {x : Deployment} (inv : G.Inv x)
    (sharable : (G.terms id service).sharable name path) (c : Contents) :
    (Deployment.host.load service name path x).Ensures (G.loadTerms service)
      (fun c o => ¬G.stale l →
        ∃ (p : Pipeline) (k : Nat), G.services[service]? = some (p, k) ∧ o = p.resolution c name) c := by
  obtain ⟨p, k, is, rfl⟩ := sharable
  have is' := is
  rw [← inv.roster, Deployment.roster_getElem?, Option.map_eq_some_iff] at is'
  obtain ⟨s, at_, same⟩ := is'
  obtain ⟨rfl, rfl⟩ := Prod.mk.inj same
  have load : Deployment.host.load service name (s.pipeline.templatePath name) x =
      s.pipeline.load name (s.pipeline.templatePath name) := by
    change x.load service name _ = _
    rw [Deployment.load, at_]
  rw [load]
  have reports : ∀ c (a : Act Compiled), a.reports → (G.loadTerms service).allowed c a := by
    intro c a reports
    cases a <;> first | exact ⟨(fun _ same => by cases same), trivial⟩ | exact reports.elim
  have keep : ∀ c v, G.contents c → s.pipeline.resolution c name = .ok v →
      (G.loadTerms service).allowed c (.keep name v) := fun c v _ e =>
        ⟨(fun _ same => by cases same), _, _, is, e⟩
  refine (s.pipeline.load_ensures reports keep c).mono ?_
  rintro c o (e | ⟨may, _⟩)
  · exact fun _ => ⟨_, _, is, e⟩
  · exact may.elim

variable (G) in
/-- The contract of the jobs of a session. -/
def contract : Contract Deployment.host Bytes where
  inv := G.Inv
  first := G.first
  terms := G.terms
  post id _ _ o := G.post id o
  loadTerms := G.loadTerms
  loadPost l service name c o :=
    ¬G.stale l → ∃ (p : Pipeline) (k : Nat), G.services[service]? = some (p, k) ∧ o = p.resolution c name
  honors := honors
  loadHonors service :=
    { honors 0 service with
      act := fun x a inv allowed => (honors 0 service).act x a inv allowed.2
      joined := fun _ _ => ⟨(fun _ same => by cases same), trivial⟩ }
  solo _ _ _ := id
  steady _ := id
  starts _ _ _ _ _ inv sharable _ c _ := starts inv sharable c
  tells id l service name c o recent met ends := by
    obtain ⟨p, k, is, rfl⟩ := ends fun stale => Nat.not_lt_of_le recent (G.recent l stale)
    exact G.tells id service p k c name is met

/-- On the terms of a request the names of its service resolve to what they should. -/
theorem resolves {id service : Nat} {p : Pipeline} {k : Nat} {sure : Prop}
    {R : Text → Except Failure Compiled → Prop} (is : G.services[service]? = some (p, k))
    (one : sure → ∀ name o o', R name o → R name o' → o = o')
    (found : ∀ name v, G.fresh k name v → R name (.ok v))
    (shared : ∀ name o, G.shared id service name o → R name o)
    (loaded : ∀ c name, G.contents c → R name (p.resolution c name))
    (cancelled : G.cancellable id → ∀ name, R name (.error .cancelled))
    (run : ∀ name v, R name (.ok v) → G.runs id v) : p.Resolves (G.terms id service) sure R where
  one := one
  found name v := by
    rintro ⟨p', k', is', fresh⟩
    obtain ⟨rfl, rfl⟩ := Prod.mk.inj (Option.some.inj (is.symm.trans is'))
    exact found name v fresh
  shared := shared
  loaded := loaded
  cancelled := cancelled
  sharable _ := ⟨p, k, is, rfl⟩
  keep _ _ _ _ e := ⟨p, k, is, e⟩
  run _ name v := run name v
  reports c a reports := by
    cases a <;> first | exact trivial | exact reports.elim
  plain := G.plain service p k is

/-! ### Requests of which nothing is asked -/

variable (G) in
/-- A request that may do anything, is promised nothing and may end in any way. -/
structure Free (id : Nat) : Prop where
  runs : ∀ v, G.runs id v
  shared : ∀ service name o, G.shared id service name o
  post : ∀ o, G.post id o

theorem Free.fits {id : Nat} (free : G.Free id) {s : Session} (roster : s.state.roster = G.services)
    (service : Nat) (r : Request) : (Standing.fresh (s.routine service r)).Keeps (G.terms id service)
      (fun _ o => G.post id o) fun _ _ => False := by
  refine ⟨fun c met => ?_, fun _ _ _ => free.post _⟩
  rw [Session.routine]
  cases at_ : s.state.services[service]? with
  | none => exact free.post _
  | some found =>
    have is : G.services[service]? = some (found.pipeline, found.cache) := by
      rw [← roster, Deployment.roster_getElem?, at_]
      rfl
    have resolves : found.pipeline.Resolves (G.terms id service) False fun _ _ => True :=
      G.resolves is (fun sure => sure.elim) (fun _ _ _ => trivial) (fun _ _ _ => trivial)
        (fun _ _ _ => trivial) (fun _ _ => trivial) fun _ v _ => free.runs v
    cases r with
    | file name model =>
      obtain ⟨P, _, _, ensures⟩ := resolves.renderFile name model
      exact (ensures found.pipeline.singleFlight c met).mono fun _ o _ => free.post o
    | page model =>
      obtain ⟨P, _, _, ensures⟩ := resolves.renderPage model fun _ _ => ⟨[], trivial⟩
      exact (ensures found.pipeline.singleFlight c met).mono fun _ o _ => free.post o

/-! ### Operations -/

theorem sound_start (inv : G.Inv d) (first : G.first = 0) : G.contract.Sound (Session.start d) :=
  Session.sound_start inv first

variable (G) in
/-- A regime lasts through an operation. -/
def Allows (s : Session) : Session.Operation → Prop
  | .step | .invalidate .. | .clear _ | .release => True
  | .submit .. | .start .. => G.Free s.jobs.length
  | .cancel id => id < s.jobs.length → G.cancellable id
  | .add path content => G.contents (s.operate (.add path content)).state.storage.contents
  | .remove path => G.contents (s.operate (.remove path)).state.storage.contents
  | .hold => G.gated

private theorem Inv.updateMemory (inv : G.Inv d) (f : MemoryStorage → MemoryStorage)
    (met : G.contents (d.updateMemory f).storage.contents) : G.Inv (d.updateMemory f) := by
  obtain ⟨roster, caches, memory, held⟩ := d.updateMemory_same f
  exact ⟨roster.trans inv.roster, met, memory.trans inv.memory,
    fun k c at_k => inv.caches k c (caches ▸ at_k), fun holds => inv.held (held ▸ holds)⟩

/-- **A regime lasts** through the operations that it allows. -/
theorem sound_operate {s : Session} (sound : G.contract.Sound s) {op : Session.Operation}
    (allows : G.Allows s op) : G.contract.Sound (s.operate op) := by
  have inv : G.Inv s.state := sound.holds.inv
  have free : ∀ service r, op.Asks service r → G.Free s.jobs.length := by
    rintro service r (rfl | rfl)
    · exact allows
    · exact allows
  refine Session.sound_operate sound (fun service r asks => ⟨?_, fun service name l _ _ _ _ _ => ?_⟩)
    (fun id service is lt => ?_) fun d effect => ?_
  · exact (free service r asks).fits inv.roster service r
  · exact (free _ r asks).shared service name _
  · subst is
    exact allows lt
  · cases effect with
    | invalidate service name =>
      refine inv.of_frame (s.state.frame_invalidate service name) ?_
      exact inv.caches.invalidate fun _ _ _ _ fresh => fresh
    | clear service => exact inv.of_frame (s.state.frame_clear service) (inv.caches.clear service)
    | add path content => exact inv.updateMemory _ allows
    | remove path => exact inv.updateMemory _ allows
    | hold => exact { inv with held := fun _ => allows }
    | release => exact { inv with held := fun held => absurd held Bool.false_ne_true }

/-- All operations are allowed that do not concern a job of which something is asked. -/
theorem allows_of_apart {s : Session} {op : Session.Operation} {id : Nat}
    (others : ∀ k, k ≠ id → G.Free k ∧ G.cancellable k)
    (apart : (s.operate op).jobs.length ≤ id ∨ id < s.jobs.length)
    (cancels : op = .cancel id → id < s.jobs.length → G.cancellable id)
    (met : op.Changes → G.contents (s.operate op).state.storage.contents)
    (gated : op = .hold → G.gated) : G.Allows s op := by
  have asked : ∀ service r, op.Asks service r → G.Free s.jobs.length := by
    intro service r asks
    obtain ⟨st, c, now⟩ := asks.job? s
    have lt := Scheduler.lt_of_job? now
    refine (others _ ?_).1
    omega
  cases op with
  | submit service r => exact asked service r (.inl rfl)
  | start service r => exact asked service r (.inr rfl)
  | cancel k =>
    intro lt
    by_cases own : k = id
    · subst own
      exact cancels rfl lt
    · exact (others k own).2
  | add path content => exact met trivial
  | remove path => exact met trivial
  | hold => exact gated rfl
  | _ => trivial

theorem sound_run {s : Session} {ops : List Session.Operation} (sound : G.contract.Sound s)
    (allows : ∀ pre op post, ops = pre ++ op :: post → G.Allows (s.run pre) op) :
    G.contract.Sound (s.run ops) := by
  induction ops generalizing s with
  | nil => exact sound
  | cons op ops ih =>
    refine ih (sound_operate sound (allows [] op ops rfl)) fun pre op' post e => ?_
    exact allows (op :: pre) op' post (by rw [e, List.cons_append])

end Regime

/-- The jobs of a session that have ended. -/
def Session.Ended (s : Session) (id : Nat) : Prop :=
  ∃ job, s.job? id = some job ∧ job.work.phase = .ended

theorem Session.Ended.lt {s : Session} {id : Nat} (ended : s.Ended id) : id < s.jobs.length := by
  obtain ⟨_, at_, _⟩ := ended
  exact Scheduler.lt_of_job? at_

theorem Session.Ended.run {s : Session} {id : Nat} (ended : s.Ended id)
    (ops : List Session.Operation) : (s.run ops).Ended id := by
  obtain ⟨job, at_, phase⟩ := ended
  obtain ⟨es, run⟩ := s.run_play ops
  obtain ⟨job', now, same⟩ := Scheduler.play_ended (h := Deployment.host) es at_ phase
  exact ⟨job', run ▸ now, (Job.phase_of_bare same).trans phase⟩

namespace Regime

/-- **A regime lasts through a request** to a service, if the request keeps its terms, and through what it
allows after that. A request that is submitted as a new task need not be told what it relies on by loads
that have ended. -/
theorem sound_request {G : Regime} {s : Session} (sound : G.contract.Sound s) {service k : Nat}
    {p : Pipeline} (served : G.services[service]? = some (p, k)) {own : Session.Operation} {name : Text}
    {model : Option Model} (asks : own.Asks service (.file name model))
    (after : List Session.Operation)
    (ensures : ∀ c, G.contents c → (p.renderFile name model).Ensures (G.terms s.jobs.length service)
      (fun _ o => G.post s.jobs.length o) c)
    (spared : ¬G.cancellable s.jobs.length)
    (told : ∀ service' n l, ((service', n), l) ∈ s.flights →
      G.contract.Tells s.jobs.length l service' n ∨ s.Ended l ∧ own = .submit service (.file name model))
    (allows : ∀ pre op post, after = pre ++ op :: post →
      s.jobs.length < ((s.operate own).run pre).jobs.length → G.Allows ((s.operate own).run pre) op) :
    G.contract.Sound ((s.operate own).run after) ∧ ∃ st cancelling,
      ((s.operate own).run after).job? s.jobs.length = some ⟨service, .request st, cancelling⟩ := by
  have fits : (Standing.fresh (s.routine service (.file name model))).Keeps
      (G.terms s.jobs.length service) (fun _ o => G.post s.jobs.length o) fun _ _ => False := by
    have roster : s.state.roster[service]? = some (p, k) := by
      rw [sound.holds.inv.roster]
      exact served
    rw [Deployment.roster_getElem?, Option.map_eq_some_iff] at roster
    obtain ⟨found, at_, same⟩ := roster
    obtain ⟨rfl, -⟩ := Prod.mk.inj same
    refine ⟨fun c met => ?_, fun may => absurd may spared⟩
    rw [Session.routine, at_]
    exact ensures c met
  have asked : G.contract.Sound (s.operate own) := by
    obtain rfl | rfl := asks
    · refine sound.after (e := .submit service _) ⟨fits, fun service' n l flying => ?_⟩
      exact (told service' n l flying).imp_right fun ended => ended.1
    · refine sound.after (e := .start service _) ⟨fits, fun service' n l flying => ?_⟩
      refine (told service' n l flying).resolve_right fun ended => ?_
      cases ended.2
  obtain ⟨st, cancelling, at_⟩ := asks.job? s
  refine ⟨sound_run asked fun pre op post e => allows pre op post e ?_, Session.run_request at_ after⟩
  exact Nat.lt_of_lt_of_le (Scheduler.lt_of_job? at_) (Session.length_le_run _ pre)

/-! ### One regime after another -/

/-- A regime in which nothing is asked of any job. It is about what is stored and what the caches hold
since a moment. -/
def undemanding (services : List (Pipeline × Nat))
    (plain : ∀ (service : Nat) (p : Pipeline) (k : Nat), services[service]? = some (p, k) →
      Markup.escape p.templateDir = p.templateDir)
    (contents : Contents → Prop) (fresh : Nat → Text → Compiled → Prop)
    (keeps : ∀ (service : Nat) (p : Pipeline) (k : Nat) (c : Contents) (name : Text) (v : Compiled),
      services[service]? = some (p, k) → contents c → p.resolution c name = .ok v → fresh k name v)
    (since : Session) : Regime where
  services
  contents
  fresh
  shared _ _ _ _ := True
  runs _ _ := True
  post _ _ := True
  cancellable _ := True
  gated := True
  first := since.jobs.length
  stale := since.Ended
  recent _ ended := ended.lt
  plain
  keeps
  tells _ _ _ _ _ _ _ _ := trivial

section

variable {services : List (Pipeline × Nat)}
  {plain : ∀ (service : Nat) (p : Pipeline) (k : Nat), services[service]? = some (p, k) →
    Markup.escape p.templateDir = p.templateDir}
  {contents : Contents → Prop} {fresh : Nat → Text → Compiled → Prop}
  {keeps : ∀ (service : Nat) (p : Pipeline) (k : Nat) (c : Contents) (name : Text) (v : Compiled),
    services[service]? = some (p, k) → contents c → p.resolution c name = .ok v → fresh k name v}
  {since : Session}

theorem undemanding_free (id : Nat) :
    (undemanding services plain contents fresh keeps since).Free id where
  runs _ := trivial
  shared _ _ _ := trivial
  post _ := trivial

/-- Anything may be done as long as the contents stay as they should. -/
theorem undemanding_allows {s : Session} {op : Session.Operation}
    (met : op.Changes → contents (s.operate op).state.storage.contents) :
    (undemanding services plain contents fresh keeps since).Allows s op := by
  cases op with
  | submit | start => exact undemanding_free _
  | cancel id => exact fun _ => trivial
  | add | remove => exact met trivial
  | _ => trivial

theorem undemanding_run {s : Session} {ops : List Session.Operation}
    (sound : (undemanding services plain contents fresh keeps since).contract.Sound s)
    (met : ∀ pre post, ops = pre ++ post → contents (s.run pre).state.storage.contents) :
    (undemanding services plain contents fresh keeps since).contract.Sound (s.run ops) := by
  refine sound_run sound fun pre op post e => undemanding_allows fun _ => ?_
  have after : (s.run pre).operate op = s.run (pre ++ [op]) := (Session.run_append s pre [op]).symm
  rw [after]
  exact met _ post (by rw [e, List.append_assoc]; rfl)

end

/-- **One regime gives way to another** in which no more may be stored and kept, if nothing is asked of
the jobs that are there. What the loads end with does not count that have ended. -/
theorem gives_way {G G' : Regime} {s : Session} (sound : G.contract.Sound s)
    (free : ∀ id, G.Free id ∧ G.cancellable id) (inv : G'.Inv s.state)
    (services : G'.services = G.services) (contents : ∀ c, G'.contents c → G.contents c)
    (fresh : ∀ k name v, G'.fresh k name v → G.fresh k name v)
    (free' : ∀ id, id < s.jobs.length → G'.Free id ∧ G'.cancellable id) (gated : G'.gated)
    (first : G'.first ≤ s.jobs.length) (stale : ∀ l, s.Ended l ∨ G.stale l → G'.stale l) :
    G'.contract.Sound s := by
  have found : ∀ service name v, (G'.terms 0 service).found name v → (G.terms 0 service).found name v :=
    fun _ name v ⟨p, k, is, kept⟩ => ⟨p, k, services ▸ is, fresh k name v kept⟩
  have keeps : ∀ {service : Nat} {c : Contents} {name : Text} {v : Compiled},
      (∃ (p : Pipeline) (k : Nat), G.services[service]? = some (p, k) ∧ p.resolution c name = .ok v) →
      ∃ (p : Pipeline) (k : Nat), G'.services[service]? = some (p, k) ∧ p.resolution c name = .ok v :=
    fun ⟨p, k, is, resolves⟩ => ⟨p, k, services ▸ is, resolves⟩
  have terms : ∀ id service, id < s.jobs.length →
      (G'.contract.terms id service).Within (G.contract.terms id service) := by
    refine fun id service lt => ⟨contents, found service, fun name o _ => ?_, fun c a _ allowed => ?_,
      fun name path sharable => ?_, fun _ => (free id).2, fun _ => gated⟩
    · exact (free id).1.shared service name o
    · cases a with
      | keep name v => exact keeps allowed
      | run v => exact (free' id lt).1.runs v
      | _ => trivial
    · obtain ⟨p, k, is, path⟩ := sharable
      exact ⟨p, k, services ▸ is, path⟩
  have loadTerms : ∀ service, (G'.contract.loadTerms service).Within (G.contract.loadTerms service) := by
    refine fun service => ⟨contents, found service, fun name o _ => (free 0).1.shared service name o,
      fun c a _ allowed => ⟨allowed.1, ?_⟩, fun _ _ sharable => sharable, id, fun _ => gated⟩
    obtain ⟨runs, allowed⟩ := allowed
    cases a with
    | keep name v => exact keeps allowed
    | run v => exact absurd rfl (runs v)
    | _ => trivial
  refine sound.within inv first terms (fun id _ lt _ => (free' id lt).2) loadTerms
    (fun id _ _ o lt _ _ => (free' id lt).1.post o) (fun l service name c o _ ends recent => ?_)
    (fun id _ o _ at_ => ⟨_, inv.contents, (free' id (Scheduler.lt_of_job? at_)).1.post o⟩)
    (fun l _ _ o _ _ at_ => ?_) fun id l service name lt _ _ _ _ => (free' id lt).1.shared service name _
  · obtain ⟨p, k, is, resolves⟩ := ends fun before => recent (stale l (.inr before))
    exact ⟨p, k, services ▸ is, resolves⟩
  · exact ⟨_, inv.contents, fun recent => absurd (stale l (.inl ⟨_, at_, rfl⟩)) recent⟩

end Regime

end Stencil
