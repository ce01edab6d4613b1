import Stencil.Proofs.Schedule.Flight
import Stencil.Proofs.Schedule.Honors

/-!
# Contracts of a scheduler

A contract gives each job the terms on which it runs and says what it ends with. If the host honors the
terms of all jobs and each new request keeps its own, all jobs keep theirs through every run.

## Main definitions

- `Contract` — terms and outcomes of all jobs, with what makes them fit together
- `Contract.Holds` — all jobs keep their terms
- `Contract.Sound` — the invariant of a run under a contract
- `Contract.Admits` — what may happen under a contract

## Design notes

A request relies on what the loads end with that it waits for, and a load relies on no other. So what
loads end with is proved first, within the same invariant. A load may end with something that a request
cannot rely on, as long as the load is forgotten before the request takes its turn.
-/

namespace Stencil

/-- What is told of the outcome of a load. -/
def toldOf {V : Type} : Except Failure V → Except Failure V
  | .error f => .error (if f.kind = .cancelled then .cancelled else f)
  | .ok v => .ok v

theorem ok_of_told {V : Type} {o : Except Failure V} {v : V} (told : toldOf o = .ok v) : o = .ok v := by
  cases o with
  | ok v' => exact told
  | error f => cases told

theorem Work.landed?_ended {V α : Type} (name : Text) (o : Except Failure V) (waiters : List Nat) :
    (Work.load name (.ended o) waiters : Work V α).landed? = some (toldOf o) := by
  cases o <;> rfl

/-- The terms of all jobs, what they end with, and what makes these fit together. -/
structure Contract {σ V : Type} (h : Host σ V) (α : Type) where
  /-- What holds of the state at all times. -/
  inv : σ → Prop
  /-- The number from which on loads tell what the requests rely on. -/
  first : Nat
  /-- The terms of a request of a service. -/
  terms : Nat → Nat → Terms V
  /-- What a request of a service ends with. -/
  post : Nat → Nat → Contents → Except Failure α → Prop
  loadTerms : Nat → Terms V
  /-- What a load of a service ends with that is for a name. -/
  loadPost : Nat → Nat → Text → Contents → Except Failure V → Prop
  honors : ∀ id service, h.Honors inv service (terms id service)
  loadHonors : ∀ service, h.Honors inv service (loadTerms service)
  /-- Loads do not wait for loads. -/
  solo : ∀ service name path, ¬(loadTerms service).sharable name path
  steady : ∀ service, ¬(loadTerms service).cancellable
  starts : ∀ id service name path x, inv x → (terms id service).sharable name path → ∀ l c,
    (loadTerms service).contents c →
      (h.load service name path x).Ensures (loadTerms service) (loadPost l service name) c
  tells : ∀ id l service name c o, first ≤ l → (loadTerms service).contents c →
    loadPost l service name c o → (terms id service).shared name (toldOf o)

namespace Contract

variable {σ V α : Type} {h : Host σ V} (K : Contract h α)

/-- A load tells a request what it relies on. -/
def Tells (id l service : Nat) (name : Text) : Prop :=
  ∀ c o, (K.loadTerms service).contents c → K.loadPost l service name c o →
    (K.terms id service).shared name (toldOf o)

/-- All loads in flight tell a request what it relies on. -/
def Informed (s : Scheduler σ V α) (id : Nat) : Prop :=
  ∀ service name l, ((service, name), l) ∈ s.flights → K.Tells id l service name

/-- The terms of a job by the seat of its standing, what it ends with, and the loads that it may wait
for. -/
inductive Seats (s : Scheduler σ V α) (id service : Nat) : (β : Type) → (Standing V β → Work V α) →
    Terms V → (Contents → Except Failure β → Prop) → (Nat → Text → Prop) → Prop where
  | request : Seats s id service α .request (K.terms id service) (K.post id service) fun l name =>
      K.Tells id l service name ∧ ∃ load, s.job? l = some load ∧ load.key? = some (service, name)
  | load (name : Text) (waiters : List Nat) :
      Seats s id service V (fun st => .load name st waiters) (K.loadTerms service)
        (K.loadPost id service name) fun _ _ => False

/-- A job keeps its terms. -/
def Keeps (s : Scheduler σ V α) (id : Nat) (job : Job V α) : Prop :=
  ∃ (β : Type) (wrap : Standing V β → Work V α) (st : Standing V β) (t : Terms V)
    (post : Contents → Except Failure β → Prop) (tie : Nat → Text → Prop),
    K.Seats s id job.service β wrap t post tie ∧ job.work = wrap st ∧ st.Keeps t post tie ∧
      (job.cancelling = true → t.cancellable)

/-- All jobs keep their terms. -/
structure Holds (s : Scheduler σ V α) : Prop where
  inv : K.inv s.state
  first : K.first ≤ s.jobs.length
  jobs : ∀ id job, s.job? id = some job → K.Keeps s id job

/-- **The invariant under a contract.** A request is told what it relies on, or a load that tells it
something else is forgotten before. -/
structure Sound (s : Scheduler σ V α) : Prop where
  linked : s.Linked s.queue
  holds : K.Holds s
  informed : ∀ id job, s.job? id = some job → job.key? = none → ∀ service name l,
    ((service, name), l) ∈ s.flights → K.Tells id l service name ∨ s.Precedes l id

variable {K} {s s' : Scheduler σ V α}

theorem Seats.honors {β : Type} {wrap : Standing V β → Work V α} {t : Terms V}
    {post : Contents → Except Failure β → Prop} {tie : Nat → Text → Prop} {id service : Nat}
    (seats : K.Seats s id service β wrap t post tie) : h.Honors K.inv service t := by
  cases seats with
  | request => exact K.honors id service
  | load => exact K.loadHonors service

theorem Keeps.request {id service : Nat} {st : Standing V α} {cancelling : Bool}
    (keeps : K.Keeps s id ⟨service, .request st, cancelling⟩) :
    st.Keeps (K.terms id service) (K.post id service)
      (fun l name => K.Tells id l service name ∧
        ∃ load, s.job? l = some load ∧ load.key? = some (service, name)) ∧
      (cancelling = true → (K.terms id service).cancellable) := by
  obtain ⟨β, wrap, st', t, post, tie, seats, is, keeps, may⟩ := keeps
  cases seats with
  | request =>
    obtain rfl := Work.request.inj is
    exact ⟨keeps, may⟩
  | load => cases is

theorem Keeps.load {id service : Nat} {name : Text} {st : Standing V V} {waiters : List Nat}
    {cancelling : Bool} (keeps : K.Keeps s id ⟨service, .load name st waiters, cancelling⟩) :
    st.Keeps (K.loadTerms service) (K.loadPost id service name) (fun _ _ => False) ∧
      cancelling = false := by
  obtain ⟨β, wrap, st', t, post, tie, seats, is, keeps, may⟩ := keeps
  cases seats with
  | request => cases is
  | load name' waiters' =>
    obtain ⟨rfl, rfl, rfl⟩ := Work.load.inj is
    refine ⟨keeps, ?_⟩
    cases cancelling with
    | false => rfl
    | true => exact absurd (may rfl) (K.steady service)

/-- The seat of a job that keeps its terms. -/
theorem Keeps.seats {β : Type} {wrap : Standing V β → Work V α} {id service : Nat}
    {st : Standing V β} {cancelling : Bool} (seat : Seat V α β wrap)
    (keeps : K.Keeps s id ⟨service, wrap st, cancelling⟩) :
    ∃ (t : Terms V) (post : Contents → Except Failure β → Prop) (tie : Nat → Text → Prop),
      K.Seats s id service β wrap t post tie ∧ st.Keeps t post tie ∧
      (cancelling = true → t.cancellable) := by
  cases seat with
  | request => exact ⟨_, _, _, .request, keeps.request⟩
  | load name waiters =>
    obtain ⟨keeps, steady⟩ := keeps.load
    exact ⟨_, _, _, .load name waiters, keeps,
      fun may => absurd (steady.symm.trans may) Bool.false_ne_true⟩

/-! ### What keeps the invariant -/

/-- Jobs stay for what they are, though others come. -/
def Persists (s s' : Scheduler σ V α) : Prop :=
  ∀ l job, s.job? l = some job → ∃ job', s'.job? l = some job' ∧ job'.key? = job.key?

theorem Keeps.mono {id : Nat} {job : Job V α} (persists : Persists s s') (keeps : K.Keeps s id job) :
    K.Keeps s' id job := by
  obtain ⟨β, wrap, st, t, post, tie, seats, is, keeps, may⟩ := keeps
  cases seats with
  | load name waiters => exact ⟨_, _, st, _, _, _, .load name waiters, is, keeps, may⟩
  | request =>
    refine ⟨_, _, st, _, _, _, .request, is, ?_, may⟩
    cases st with
    | waiting l next =>
      obtain ⟨name, ⟨tells, load, at_, isLoad⟩, shares⟩ := keeps
      obtain ⟨load', at_', same⟩ := persists l load at_
      exact ⟨name, ⟨tells, load', at_', same.trans isLoad⟩, shares⟩
    | _ => exact keeps

theorem Keeps.of_bare {id : Nat} {job job' : Job V α} (same : job'.bare = job.bare)
    (keeps : K.Keeps s id job) : K.Keeps s id job' := by
  obtain ⟨service, work, cancelling⟩ := job
  obtain ⟨service', work', cancelling'⟩ := job'
  simp only [Job.bare, Job.mk.injEq] at same
  obtain ⟨rfl, same, rfl⟩ := same
  cases work with
  | request st => rwa [Work.bare_eq_request.mp same]
  | load name st waiters =>
    cases work' with
    | request st' => cases same
    | load name' st' waiters' =>
      simp only [Work.bare, Work.load.injEq, and_true] at same
      obtain ⟨rfl, rfl⟩ := same
      obtain ⟨keeps, steady⟩ := keeps.load
      exact ⟨_, _, _, _, _, _, .load _ _, rfl, keeps,
        fun may => absurd (steady.symm.trans may) Bool.false_ne_true⟩

theorem Holds.of_changes (holds : K.Holds s) (inv : K.inv s'.state) (persists : Persists s s')
    (grows : s.jobs.length ≤ s'.jobs.length)
    (jobs : ∀ k job', s'.job? k = some job' →
      (∃ job, s.job? k = some job ∧ job'.bare = job.bare) ∨ K.Keeps s' k job') :
    K.Holds s' where
  inv := inv
  first := Nat.le_trans holds.first grows
  jobs k job' at_ := by
    obtain ⟨job, at_, same⟩ | keeps := jobs k job' at_
    · exact ((holds.jobs k job at_).mono persists).of_bare same
    · exact keeps

/-- What a load in flight tells that has landed. -/
theorem Holds.shared (holds : K.Holds s)
    (flight : ∀ key l, (key, l) ∈ s.flights → ∃ job, s.job? l = some job ∧ job.key? = some key)
    {id service : Nat} {name : Text} {o : Except Failure V} (informed : K.Informed s id)
    (landed : s.landed? service name = some o) : (K.terms id service).shared name o := by
  obtain ⟨l, flying, told⟩ := Option.bind_eq_some_iff.mp landed
  obtain ⟨job, at_, told⟩ := Option.bind_eq_some_iff.mp told
  obtain ⟨job', at_', isLoad⟩ := flight _ l (Scheduler.mem_of_lookup flying)
  obtain rfl := Option.some.inj (at_.symm.trans at_')
  have tells := informed service name l (Scheduler.mem_of_lookup flying)
  obtain ⟨service', work, cancelling⟩ := job
  cases work with
  | request st => cases isLoad
  | load name' st waiters =>
    simp only [Job.key?, Work.name?, Option.map_some, Option.some.injEq, Prod.mk.injEq] at isLoad
    obtain ⟨rfl, rfl⟩ := isLoad
    obtain ⟨keeps, _⟩ := (holds.jobs l _ at_).load
    cases st with
    | ended o' =>
      rw [Work.landed?_ended] at told
      obtain ⟨c, met, post⟩ := keeps
      exact Option.some.inj told ▸ tells c o' met post
    | _ => cases told

private theorem Holds.acting {β : Type} {id service : Nat} {wrap : Standing V β → Work V α}
    {halt : Halt V β} {x : σ} (holds : K.Holds s)
    (flight : ∀ key l, (key, l) ∈ s.flights → ∃ job, s.job? l = some job ∧ job.key? = some key)
    (informed : ∀ job, s.job? id = some job → job.key? = none → K.Informed s id)
    (acting : s.Acting h id service wrap halt x) :
    ∃ (t : Terms V) (post : Contents → Except Failure β → Prop) (tie : Nat → Text → Prop),
      K.Seats s id service β wrap t post tie ∧ K.inv x ∧ t.contents (h.contents x) ∧
      halt.Keeps t post (h.contents x) := by
  obtain ⟨seat, st, cancelling, at_, goes⟩ := acting
  obtain ⟨t, post, tie, seats, keeps, may⟩ := (holds.jobs id _ at_).seats seat
  have tells : ∀ name path o, t.sharable name path → s.landed? service name = some o →
      t.shared name o := by
    intro name path o shares landed
    cases seats with
    | request => exact holds.shared flight (informed _ at_ rfl) landed
    | load => exact absurd shares (K.solo service name path)
  obtain ⟨inv, same, halts⟩ := Host.turn_keeps seats.honors tells holds.inv keeps may goes
  exact ⟨t, post, tie, seats, inv, seats.honors.contents x inv, same ▸ halts⟩

private theorem Seats.keeps_standing {β : Type} {wrap : Standing V β → Work V α} {t : Terms V}
    {post : Contents → Except Failure β → Prop} {tie : Nat → Text → Prop} {id service l : Nat}
    {halt : Halt V β} {c : Contents} (seats : K.Seats s id service β wrap t post tie)
    (halts : halt.Keeps t post c) (met : t.contents c)
    (tied : ∀ name path next, halt = .sharing name path next → K.Tells id l service name ∧
      ∃ load, s'.job? l = some load ∧ load.key? = some (service, name)) :
    K.Keeps s' id { service, work := wrap (halt.standing l) } := by
  cases seats with
  | request =>
    exact ⟨_, _, _, _, _, _, .request, rfl, halts.standing met tied,
      fun may => absurd may Bool.false_ne_true⟩
  | load name waiters =>
    refine ⟨_, _, _, _, _, _, .load name waiters, rfl, halts.standing met ?_,
      fun may => absurd may Bool.false_ne_true⟩
    rintro name path next rfl
    exact K.solo service name path halts.1

/-- A job acts, and the others keep their terms. -/
private theorem Holds.acted {β : Type} {id service l : Nat} {wrap : Standing V β → Work V α}
    {halt : Halt V β} {x : σ} (holds : K.Holds s)
    (flight : ∀ key l, (key, l) ∈ s.flights → ∃ job, s.job? l = some job ∧ job.key? = some key)
    (informed : ∀ job, s.job? id = some job → job.key? = none → K.Informed s id)
    (acting : s.Acting h id service wrap halt x)
    (state : s'.state = x ∨ ∃ name, s'.state = h.act service (.note (.joined name)) x)
    (now : s'.job? id = some { service, work := wrap (halt.standing l) })
    (others : ∀ k job, k ≠ id → s.job? k = some job →
      ∃ job', s'.job? k = some job' ∧ job'.bare = job.bare)
    (new : ∀ k job', s.job? k = none → s'.job? k = some job' → K.inv x → K.Keeps s' k job')
    (tied : Persists s s' → ∀ name path next, halt = .sharing name path next →
      K.Tells id l service name ∧ ∃ load, s'.job? l = some load ∧ load.key? = some (service, name))
    (grows : s.jobs.length ≤ s'.jobs.length) : K.Holds s' := by
  obtain ⟨t, post, tie, seats, inv, met, halts⟩ := holds.acting flight informed acting
  have persists : Persists s s' := by
    intro k job at_
    by_cases e : k = id
    · obtain ⟨job', at_', service_eq, _, same⟩ := acting.exists_job
      obtain rfl := Option.some.inj (at_'.symm.trans (e ▸ at_))
      refine ⟨_, e ▸ now, ?_⟩
      simp only [Job.key?, (same _).1, service_eq]
    · obtain ⟨job', at_', same⟩ := others k job e at_
      exact ⟨job', at_', Job.key?_of_bare same⟩
  refine holds.of_changes ?_ persists grows fun k job' at_ => ?_
  · obtain e | ⟨name, e⟩ := state
    · exact e ▸ inv
    · exact e ▸ (seats.honors.act x _ inv (seats.honors.joined _ name)).1
  · by_cases e : k = id
    · subst e
      obtain rfl := Option.some.inj (now.symm.trans at_)
      exact .inr (seats.keeps_standing halts met (tied persists))
    · cases old : s.job? k with
      | none => exact .inr (new k job' old at_ inv)
      | some job =>
        obtain ⟨job'', at_', same⟩ := others k job e old
        obtain rfl := Option.some.inj (at_'.symm.trans at_)
        exact .inl ⟨job, rfl, same⟩

/-- A job stops without asking for a load. -/
private theorem Holds.reseated {β : Type} {id service : Nat} {wrap : Standing V β → Work V α}
    {halt : Halt V β} {x : σ} (holds : K.Holds s)
    (flight : ∀ key l, (key, l) ∈ s.flights → ∃ job, s.job? l = some job ∧ job.key? = some key)
    (informed : ∀ job, s.job? id = some job → job.key? = none → K.Informed s id)
    (acting : s.Acting h id service wrap halt x)
    (alone : ∀ name path next, halt ≠ .sharing name path next) (state : s'.state = x)
    (jobs : s'.jobs = s.jobs.set id { service, work := wrap (halt.standing 0) }) : K.Holds s' := by
  obtain ⟨_, _, at_, _⟩ := acting.acts
  have lt := Scheduler.lt_of_job? at_
  have others : ∀ k, k ≠ id → s'.job? k = s.job? k := by
    intro k other
    simp [Scheduler.job?, jobs, Ne.symm other]
  refine holds.acted (l := 0) flight informed acting (.inl state) (by simp [Scheduler.job?, jobs, lt])
    (fun k job other at_ => ⟨job, (others k other).trans at_, rfl⟩) (fun k job' old at_ _ => ?_)
    (fun _ name path next shares => absurd shares (alone name path next)) (by simp [jobs])
  have other : k ≠ id := by
    rintro rfl
    cases old.symm.trans at_
  cases (old.symm.trans (others k other).symm).trans at_

/-- A job comes to wait for a load that is in flight. -/
private theorem Holds.joined {β : Type} {id service l : Nat} {wrap : Standing V β → Work V α}
    {name path : Text} {next : Except Failure V → Routine V β} {x : σ} (holds : K.Holds s)
    (flight : ∀ key l, (key, l) ∈ s.flights → ∃ job, s.job? l = some job ∧ job.key? = some key)
    (informed : ∀ job, s.job? id = some job → job.key? = none → K.Informed s id)
    (acting : s.Acting h id service wrap (.sharing name path next) x)
    (flying : s.flights.lookup (service, name) = some l)
    (state : s'.state = h.act service (.note (.joined name)) x)
    (now : s'.job? id = some { service, work := wrap (.waiting l next) })
    (others : ∀ k job, k ≠ id → s.job? k = some job →
      ∃ job', s'.job? k = some job' ∧ job'.bare = job.bare)
    (length : s'.jobs.length = s.jobs.length) : K.Holds s' := by
  obtain ⟨load, at_l, isLoad⟩ := flight _ l (Scheduler.mem_of_lookup flying)
  refine holds.acted (l := l) flight informed acting (.inr ⟨name, state⟩) now others
    (fun k job' old at_ _ => ?_) ?_ (Nat.le_of_eq length.symm)
  · have lt := Scheduler.lt_of_job? at_
    rw [length] at lt
    exact absurd lt (Nat.not_lt_of_le (List.getElem?_eq_none_iff.mp old))
  · rintro persists name' path' next' ⟨⟩
    obtain ⟨load', at_l', same⟩ := persists l load at_l
    refine ⟨?_, load', at_l', same.trans isLoad⟩
    obtain ⟨st, cancelling, at_id, _⟩ := acting.acts
    obtain ⟨_, _, _, seats, _, _, halts⟩ := holds.acting flight informed acting
    cases seats with
    | request => exact informed _ at_id rfl service name l (Scheduler.mem_of_lookup flying)
    | load => exact absurd halts.1 (K.solo service name path)

/-- A job comes to wait for a load that is started for it. -/
private theorem Holds.started {β : Type} {id service : Nat} {wrap : Standing V β → Work V α}
    {name path : Text} {next : Except Failure V → Routine V β} {x : σ} (holds : K.Holds s)
    (flight : ∀ key l, (key, l) ∈ s.flights → ∃ job, s.job? l = some job ∧ job.key? = some key)
    (informed : ∀ job, s.job? id = some job → job.key? = none → K.Informed s id)
    (acting : s.Acting h id service wrap (.sharing name path next) x) (state : s'.state = x)
    (jobs : ∀ k, s'.job? k =
      if k = id then some { service, work := wrap (.waiting s.jobs.length next) }
      else if k = s.jobs.length then
        some { service, work := .load name (.fresh (h.load service name path x)) [id] }
      else s.job? k)
    (others : ∀ k job, k ≠ id → s.job? k = some job →
      ∃ job', s'.job? k = some job' ∧ job'.bare = job.bare)
    (grows : s.jobs.length ≤ s'.jobs.length) : K.Holds s' := by
  obtain ⟨_, at_id, _⟩ := acting.exists_job
  have added : s.jobs.length ≠ id := Ne.symm (Nat.ne_of_lt (Scheduler.lt_of_job? at_id))
  have shares : (K.terms id service).sharable name path := by
    obtain ⟨_, _, _, seats, _, _, halts⟩ := holds.acting flight informed acting
    cases seats with
    | request => exact halts.1
    | load => exact absurd halts.1 (K.solo service name path)
  have at_load := jobs s.jobs.length
  rw [if_neg added, if_pos rfl] at at_load
  refine holds.acted (l := s.jobs.length) flight informed acting (.inl state) ?_ others
    (fun k job' old at_ inv => ?_) ?_ grows
  · rw [jobs, if_pos rfl]
    rfl
  · have other : k ≠ id := by
      rintro rfl
      cases old.symm.trans at_id
    rw [jobs, if_neg other, old] at at_
    split at at_
    · next e =>
      obtain rfl := Option.some.inj at_
      exact ⟨_, _, _, _, _, _, .load name [id], rfl, ⟨K.starts id service name path x inv shares k,
        fun may => absurd may (K.steady service)⟩, fun may => absurd may Bool.false_ne_true⟩
    · cases at_
  · rintro persists name' path' next' ⟨⟩
    exact ⟨fun c o => K.tells id _ service name c o holds.first, _, at_load, rfl⟩

theorem Holds.turned {id : Nat} (holds : K.Holds s)
    (flight : ∀ key l, (key, l) ∈ s.flights → ∃ job, s.job? l = some job ∧ job.key? = some key)
    (informed : ∀ job, s.job? id = some job → job.key? = none → K.Informed s id)
    (turns : s.Turns h id s') : K.Holds s' := by
  have others : ∀ k job, k ≠ id → s.job? k = some job →
      ∃ job', s'.job? k = some job' ∧ job'.bare = job.bare :=
    fun _ _ other at_ => turns.job?_other other at_
  cases turns with
  | idle => exact holds
  | ended acting => exact holds.reseated flight informed acting (by simp) rfl rfl
  | held acting => exact holds.reseated flight informed acting (by simp) rfl rfl
  | paused acting => exact holds.reseated flight informed acting (by simp) rfl rfl
  | joined acting flying aloft =>
    obtain ⟨_, at_id, _⟩ := acting.exists_job
    refine holds.joined flight informed acting flying rfl ?_ others (by simp)
    rw [Scheduler.job?_join, if_pos rfl, at_id]
    rfl
  | started acting grounded =>
    obtain ⟨_, at_id, _⟩ := acting.exists_job
    exact holds.started flight informed acting rfl (Scheduler.job?_start (Scheduler.lt_of_job? at_id))
      others (by simp)

theorem Holds.congr (holds : K.Holds s) (state : s'.state = s.state) (jobs : s'.jobs = s.jobs) :
    K.Holds s' := by
  have same : ∀ k, s'.job? k = s.job? k := fun k => by rw [Scheduler.job?, Scheduler.job?, jobs]
  exact holds.of_changes (state ▸ holds.inv) (fun l job at_ => ⟨job, (same l).trans at_, rfl⟩)
    (Nat.le_of_eq (by rw [jobs])) fun k job at_ => .inl ⟨job, (same k).symm.trans at_, rfl⟩

/-- A job is woken and keeps its terms. -/
private theorem Holds.woken {f : {β : Type} → Standing V β → Option (Standing V β)} {id : Nat}
    (holds : K.Holds s) (wakes : s.Wakes f s' id)
    (stays : ∀ {β : Type} {wrap : Standing V β → Work V α} {t : Terms V}
      {post : Contents → Except Failure β → Prop} {tie : Nat → Text → Prop} {service : Nat}
      {st st' : Standing V β} {cancelling : Bool}, K.Seats s id service β wrap t post tie →
      s.job? id = some ⟨service, wrap st, cancelling⟩ → f st = some st' → st.Keeps t post tie →
      st'.Keeps t post tie) : K.Holds s' := by
  obtain ⟨β, wrap, st, st', service, cancelling, seat, at_, roused, job?_eq⟩ := wakes.seat
  obtain ⟨t, post, tie, seats, keeps, may⟩ := (holds.jobs id _ at_).seats seat
  have persists : Persists s s' := by
    intro k job at_k
    by_cases e : k = id
    · rw [e, Option.some.inj (at_k.symm.trans (e ▸ at_))]
      refine ⟨_, by rw [job?_eq, if_pos rfl], ?_⟩
      simp only [Job.key?, seat.name? st' st]
    · exact ⟨job, by rw [job?_eq, if_neg e, at_k], rfl⟩
  have le : s.jobs.length ≤ s'.jobs.length := by
    by_contra shrinks
    obtain ⟨job', at_', _⟩ := persists s'.jobs.length _ (List.getElem?_eq_getElem (by omega))
    exact Nat.lt_irrefl _ (Scheduler.lt_of_job? at_')
  refine holds.of_changes (wakes.state ▸ holds.inv) persists le fun k job' at_k => ?_
  rw [job?_eq] at at_k
  split at at_k
  · next e =>
    subst e
    obtain rfl := Option.some.inj at_k
    have keeps' : K.Keeps s k ⟨service, wrap st', cancelling⟩ :=
      ⟨β, wrap, st', t, post, tie, seats, rfl, stays seats at_ roused keeps, may⟩
    exact .inr (keeps'.mono persists)
  · exact .inl ⟨job', at_k, rfl⟩

theorem Sound.performed (sound : K.Sound s) {x : Handle} {rest : List Handle}
    (queue : s.queue = x :: rest) : K.Holds (Scheduler.perform h { s with queue := rest } x) := by
  have holds' : K.Holds { s with queue := rest } := sound.holds.congr rfl rfl
  cases x with
  | turn id =>
    refine holds'.turned sound.linked.flight (fun job at_ isRequest service name l flying => ?_)
      (Scheduler.takeTurn_turns h _ id)
    exact (sound.informed id job at_ isRequest service name l flying).resolve_right
      fun precedes => precedes.forgotten queue _ flying
  | forget l => exact holds'.congr rfl rfl
  | report id => exact holds'.congr rfl rfl
  | relay l id =>
    rw [Scheduler.perform]
    split
    · exact holds'
    · next o told =>
      obtain wakes | ⟨_, e⟩ := Scheduler.wake_cases _ id fun st => st.land? l o
      · refine holds'.woken wakes
          fun {β wrap t post tie service st st' cancelling} seats at_ lands keeps => ?_
        cases st with
        | waiting l' next =>
          by_cases e : l' = l <;> simp [Standing.land?, e] at lands
          subst e lands
          obtain ⟨name, tied, shares⟩ := keeps
          cases seats with
          | load => exact tied.elim
          | request =>
            -- what the load has ended with, it tells
            obtain ⟨tells, load, at_l, isLoad⟩ := tied
            obtain ⟨load', at_l', told⟩ := Option.bind_eq_some_iff.mp told
            obtain rfl := Option.some.inj (at_l.symm.trans at_l')
            obtain ⟨service', work, cancelling'⟩ := load
            cases work with
            | request => cases isLoad
            | load name' st waiters =>
              simp only [Job.key?, Work.name?, Option.map_some, Option.some.injEq,
                Prod.mk.injEq] at isLoad
              obtain ⟨rfl, rfl⟩ := isLoad
              obtain ⟨keeps, _⟩ := (holds'.jobs l' _ at_l).load
              cases st with
              | ended o' =>
                rw [Work.landed?_ended] at told
                obtain ⟨c, met, post⟩ := keeps
                have shared := Option.some.inj told ▸ tells c o' met post
                exact ⟨fun c met => shares.1 c o met shared, shares.2⟩
              | _ => cases told
        | _ => simp [Standing.land?] at lands
      · rw [e]
        exact holds'

/-- **One contract gives way to another** that promises the jobs no less and demands no more of them. -/
theorem Sound.within {K' : Contract h α} (sound : K.Sound s) (inv : K'.inv s.state)
    (first : K'.first ≤ s.jobs.length)
    (terms : ∀ id service, id < s.jobs.length → (K'.terms id service).Within (K.terms id service))
    (cancellable : ∀ id service, id < s.jobs.length → (K.terms id service).cancellable →
      (K'.terms id service).cancellable)
    (loadTerms : ∀ service, (K'.loadTerms service).Within (K.loadTerms service))
    (weaker : ∀ id service c o, id < s.jobs.length → (K'.terms id service).contents c →
      K.post id service c o → K'.post id service c o)
    (loadWeaker : ∀ l service name c o, (K'.loadTerms service).contents c →
      K.loadPost l service name c o → K'.loadPost l service name c o)
    (past : ∀ id service o cancelling, s.job? id = some ⟨service, .request (.ended o), cancelling⟩ →
      ∃ c, (K'.terms id service).contents c ∧ K'.post id service c o)
    (loadPast : ∀ l service name o waiters cancelling,
      s.job? l = some ⟨service, .load name (.ended o) waiters, cancelling⟩ →
      ∃ c, (K'.loadTerms service).contents c ∧ K'.loadPost l service name c o)
    (told : ∀ id l service name, id < s.jobs.length → K'.Tells id l service name) : K'.Sound s where
  linked := sound.linked
  holds := {
    inv, first
    jobs := fun id job at_ => by
      have lt := Scheduler.lt_of_job? at_
      have keeps := sound.holds.jobs id job at_
      obtain ⟨service, work, cancelling⟩ := job
      cases work with
      | request st =>
        obtain ⟨keeps, may⟩ := keeps.request
        refine ⟨_, _, _, _, _, _, .request, rfl, keeps.within (terms id service lt)
          (fun c o => weaker id service c o lt) (fun l name tie => ⟨told id l service name lt, tie.2⟩)
          fun o is => ?_, fun cancelled => ?_⟩
        · exact past id service o cancelling (is ▸ at_)
        · exact cancellable id service lt (may cancelled)
      | load name st waiters =>
        obtain ⟨keeps, steady⟩ := keeps.load
        refine ⟨_, _, _, _, _, _, .load name waiters, rfl, keeps.within (loadTerms service)
          (fun c o => loadWeaker id service name c o) (fun _ _ tie => tie) fun o is => ?_,
          fun may => absurd (steady.symm.trans may) Bool.false_ne_true⟩
        exact loadPast id service name o waiters cancelling (is ▸ at_) }
  informed id job at_ _ service name l _ := .inl (told id l service name (Scheduler.lt_of_job? at_))

/-- What may happen under a contract. A request that is submitted may find loads that have ended, and
one that begins at once may not. -/
def Admits (K : Contract h α) (s : Scheduler σ V α) : Event σ V α → Prop
  | .step | .openGate => True
  | .submit service r =>
    (Standing.fresh r).Keeps (K.terms s.jobs.length service) (K.post s.jobs.length service)
      (fun _ _ => False) ∧
    ∀ service name l, ((service, name), l) ∈ s.flights → K.Tells s.jobs.length l service name ∨
      ∃ job, s.job? l = some job ∧ job.work.phase = .ended
  | .start service r =>
    (Standing.fresh r).Keeps (K.terms s.jobs.length service) (K.post s.jobs.length service)
      (fun _ _ => False) ∧ K.Informed s s.jobs.length
  | .cancel id => ∀ job, s.job? id = some job →
    job.key? = none ∧ (K.terms id job.service).cancellable
  | .answer .. => False
  | .update f => K.inv (f s.state)

private theorem Holds.appended (holds : K.Holds s) {service : Nat} {r : Routine V α}
    (fits : (Standing.fresh r).Keeps (K.terms s.jobs.length service) (K.post s.jobs.length service)
      fun _ _ => False) :
    K.Holds { s with jobs := s.jobs ++ [{ service, work := .request (.fresh r) }] } := by
  let s' : Scheduler σ V α := { s with jobs := s.jobs ++ [{ service, work := .request (.fresh r) }] }
  change K.Holds s'
  have stays : ∀ k job, s.job? k = some job → s'.job? k = some job := by
    intro k job at_
    rw [← at_, Scheduler.job?, List.getElem?_append_left (Scheduler.lt_of_job? at_), Scheduler.job?]
  refine holds.of_changes holds.inv (fun k job at_ => ⟨job, stays k job at_, rfl⟩) (by simp [s'])
    fun k job at_ => ?_
  cases old : s.job? k with
  | some job' =>
    obtain rfl := Option.some.inj ((stays k job' old).symm.trans at_)
    exact .inl ⟨_, rfl, rfl⟩
  | none =>
    have le : s.jobs.length ≤ k := List.getElem?_eq_none_iff.mp old
    have lt : k < s.jobs.length + 1 := by simpa [s'] using Scheduler.lt_of_job? at_
    obtain rfl : k = s.jobs.length := by omega
    have : job = { service, work := .request (.fresh r) } := by simpa [s', Scheduler.job?] using at_.symm
    subst this
    exact .inr ⟨_, _, _, _, _, _, .request, rfl, fits, fun may => absurd may Bool.false_ne_true⟩

private theorem Holds.cancelled (holds : K.Holds s) {id : Nat} (admits : K.Admits s (.cancel id)) :
    K.Holds (s.cancel id).2 := by
  obtain ⟨e, _⟩ | wakes | ⟨job, at_, _, e⟩ := s.cancel_cases id
  · rwa [e]
  · have holds' : K.Holds { s with gate := s.gate.filter (· != id) } := holds.congr rfl rfl
    refine holds'.woken wakes fun {β wrap t post tie service st st' cancelling} seats at_ goes keeps => ?_
    obtain ⟨isRequest, may⟩ := admits _ at_
    cases seats with
    | load => cases isRequest
    | request =>
      cases st with
      | held path next =>
        obtain rfl := Option.some.inj goes
        exact keeps.2.2 may
      | waiting l next =>
        obtain rfl := Option.some.inj goes
        obtain ⟨_, _, shares⟩ := keeps
        exact shares.2 may
      | _ => cases goes
  · rw [e]
    obtain ⟨isRequest, may⟩ := admits job at_
    obtain ⟨service, work, cancelling⟩ := job
    have job?_eq := s.job?_setJob id
    have persists : Persists s (s.setJob id ⟨service, work, true⟩) := by
      intro k job' at_k
      by_cases e : k = id
      · obtain rfl := Option.some.inj ((e ▸ at_).symm.trans at_k)
        exact ⟨⟨service, work, true⟩, by rw [job?_eq, if_pos e, at_k]; rfl, rfl⟩
      · exact ⟨job', by rw [job?_eq, if_neg e, at_k], rfl⟩
    refine holds.of_changes holds.inv persists (by simp [Scheduler.setJob]) fun k job' at_k => ?_
    rw [job?_eq] at at_k
    split at at_k
    · next e =>
      subst e
      rw [at_] at at_k
      obtain rfl := Option.some.inj at_k
      cases work with
      | load => cases isRequest
      | request st =>
        have keeps : K.Keeps s k ⟨service, .request st, true⟩ :=
          ⟨_, _, _, _, _, _, .request, rfl, (holds.jobs k _ at_).request.1, fun _ => may⟩
        exact .inr (keeps.mono persists)
    · exact .inl ⟨job', at_k, rfl⟩

private theorem Holds.opened (holds : K.Holds s) : K.Holds s.openGate := by
  refine Scheduler.openGate_keeps (fun s id holds => ?_) (fun s holds => holds.congr rfl rfl) holds
  obtain wakes | ⟨_, e⟩ := s.wake_cases id fun st => st.pass?
  · refine holds.woken wakes fun {β wrap t post tie service st st' cancelling} _ _ goes keeps => ?_
    cases st with
    | held path next =>
      obtain rfl := Option.some.inj goes
      exact keeps.2
    | _ => cases goes
  · rw [e]
    exact holds

/-- Jobs that keep their terms go on keeping them. -/
theorem Sound.holds_after (sound : K.Sound s) {e : Event σ V α} (admits : K.Admits s e) :
    K.Holds (s.after h e) := by
  cases e with
  | step =>
    cases queue : s.queue with
    | nil =>
      rw [Scheduler.after, Scheduler.step_of_empty queue]
      exact sound.holds
    | cons x rest =>
      rw [Scheduler.after, Scheduler.step_of_queue queue]
      exact sound.performed queue
  | submit service r => exact (sound.holds.appended admits.1).congr rfl rfl
  | start service r =>
    refine (sound.holds.appended admits.1).turned (fun key l flying => ?_) (fun _ _ _ => admits.2)
      (Scheduler.takeTurn_turns h _ _)
    obtain ⟨job, at_, isLoad⟩ := sound.linked.flight key l flying
    refine ⟨job, ?_, isLoad⟩
    rw [← at_, Scheduler.job?, List.getElem?_append_left (Scheduler.lt_of_job? at_), Scheduler.job?]
  | cancel id => exact sound.holds.cancelled admits
  | openGate => exact sound.holds.opened
  | answer id a => exact admits.elim
  | update f =>
    exact sound.holds.of_changes admits (fun l job at_ => ⟨job, at_, rfl⟩) (Nat.le_refl _)
      fun k job at_ => .inl ⟨job, at_, rfl⟩

/-- Requests go on being told what they rely on. -/
theorem Sound.informed_after (sound : K.Sound s) {e : Event σ V α} (admits : K.Admits s e) {id : Nat}
    {job : Job V α} (at_ : (s.after h e).job? id = some job) (isRequest : job.key? = none)
    {service l : Nat} {name : Text} (flying : ((service, name), l) ∈ (s.after h e).flights) :
    K.Tells id l service name ∨ (s.after h e).Precedes l id := by
  obtain before | new := Scheduler.after_flights flying
  · obtain ⟨load, at_l, _⟩ := sound.linked.flight _ l before
    cases old : s.job? id with
    | some job' =>
      obtain ⟨job'', at_', same⟩ := Scheduler.play_kind (h := h) old [e]
      obtain rfl := Option.some.inj (at_.symm.trans at_')
      have isRequest' : job'.key? = none := by
        simpa only [Job.key?, same.2, Option.map_eq_none_iff] using isRequest
      refine (sound.informed id job' old isRequest' service name l before).imp_right fun precedes => ?_
      exact precedes.after (Scheduler.lt_of_job? at_l) e
    | none =>
      obtain ⟨rfl, _, r, rfl | rfl⟩ | ⟨key, isLoad, _⟩ := Scheduler.after_new old at_
      · refine (admits.2 service name l before).imp_right fun load => ?_
        obtain ⟨load, at_l, ended⟩ := load
        exact sound.linked.precedes at_l ended _ r
      · exact .inl (admits.2 service name l before)
      · cases isRequest.symm.trans isLoad
  · exact .inl fun c o => K.tells id l service name c o (Nat.le_trans sound.holds.first new)

/-- **Jobs that keep their terms go on keeping them**, whatever happens that the contract admits. -/
theorem Sound.after (sound : K.Sound s) {e : Event σ V α} (admits : K.Admits s e) :
    K.Sound (s.after h e) where
  linked := sound.linked.after e
  holds := sound.holds_after admits
  informed _ _ at_ isRequest _ _ _ flying := sound.informed_after admits at_ isRequest flying

/-- What a run may consist of under a contract. -/
def AdmitsAll (K : Contract h α) (s : Scheduler σ V α) : List (Event σ V α) → Prop
  | [] => True
  | e :: es => K.Admits s e ∧ K.AdmitsAll (s.after h e) es

theorem Sound.play (sound : K.Sound s) {es : List (Event σ V α)} (admits : K.AdmitsAll s es) :
    K.Sound (s.play h es) := by
  induction es generalizing s with
  | nil => exact sound
  | cons e es ih => exact ih (sound.after admits.1) admits.2

/-- Every contract admits that the jobs take their turns. -/
theorem Sound.steps (sound : K.Sound s) (n : Nat) : K.Sound (s.steps h n) := by
  refine sound.play ?_
  induction n generalizing s with
  | zero => trivial
  | succ n ih => exact ⟨trivial, ih (sound.after (e := .step) trivial)⟩

end Contract

end Stencil
