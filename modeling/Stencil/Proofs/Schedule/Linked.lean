import Stencil.Proofs.Schedule.Run

/-!
# Well-linked schedulers

Whatever a job waits for is under way: its turn is queued, or it stands at the gate, or a load will tell
it the outcome. A name has one load in flight at most, and one that has ended is about to be forgotten.

## Main definitions

- `Scheduler.Linked` — what holds between the jobs, the loads in flight, the gate and the queue

## Main results

- `Scheduler.Linked.after`, `Scheduler.linked_play` — every event keeps it, so it holds in every run
-/

namespace Stencil

/-- The service and the name that a load is for. -/
def Job.key? {V α : Type} (job : Job V α) : Option (Nat × Text) :=
  job.work.name?.map (job.service, ·)

theorem Job.key?_eq_some {V α : Type} {job : Job V α} {key : Nat × Text} :
    job.key? = some key ↔ job.service = key.1 ∧ job.work.name? = some key.2 := by
  obtain ⟨service, name⟩ := key
  cases h : job.work.name? <;> simp [key?, h, Prod.ext_iff]

theorem Job.key?_isSome {V α : Type} {job : Job V α} :
    job.key?.isSome = job.work.name?.isSome := by
  cases h : job.work.name? <;> simp [key?, h]

namespace Work

variable {V α : Type}

/-- What a job with new work puts into the queue. -/
def followUp (id : Nat) (w : Work V α) : List Handle :=
  match w.phase with
  | .ready => [.turn id]
  | .ended => w.endHandles id
  | .held | .waiting _ => []

theorem turn_mem_followUp {id k : Nat} {w : Work V α} :
    .turn k ∈ w.followUp id ↔ k = id ∧ w.phase = .ready := by
  cases w <;> simp only [followUp] <;> split <;> simp_all [endHandles]

theorem count_forget_followUp {id k : Nat} {w : Work V α} :
    (w.followUp id).count (.forget k) =
      if k = id ∧ w.phase = .ended ∧ w.name?.isSome then 1 else 0 := by
  cases w with
  | request st =>
    simp only [followUp]
    split <;> simp_all [endHandles, name?]
  | load name st waiters =>
    have relays : (waiters.map (Handle.relay id)).count (.forget k) = 0 :=
      List.count_eq_zero.mpr (by simp)
    simp only [followUp]
    split
    · simp_all
    · simp_all [endHandles, name?, List.count_cons, @eq_comm _ id]
    · simp_all
    · simp_all

theorem forget_mem_followUp {id k : Nat} {w : Work V α} :
    .forget k ∈ w.followUp id ↔ k = id ∧ w.phase = .ended ∧ w.name?.isSome := by
  rw [← List.count_pos_iff, count_forget_followUp]
  split <;> simp [*]

theorem relay_mem_followUp {id l k : Nat} {w : Work V α} :
    .relay l k ∈ w.followUp id ↔ l = id ∧ w.phase = .ended ∧ k ∈ w.waiters := by
  cases w <;> simp only [followUp] <;> split <;> simp_all [endHandles, waiters]
  grind

theorem count_report_followUp {id k : Nat} {w : Work V α} :
    (w.followUp id).count (.report k) =
      if k = id ∧ w.phase = .ended ∧ w.name? = none then 1 else 0 := by
  cases w with
  | request st =>
    simp only [followUp]
    split <;> simp_all [endHandles, name?]
    grind
  | load name st waiters =>
    simp only [followUp]
    split <;> simp_all [endHandles, name?, List.count_eq_zero]

theorem mem_waiters_joinedBy {id k : Nat} {w : Work V α} (mem : k ∈ w.waiters) :
    k ∈ (w.joinedBy id).waiters := by
  cases w with
  | request st => exact mem
  | load name st waiters => exact List.mem_append_left _ mem

theorem self_mem_waiters_joinedBy {id : Nat} {w : Work V α} (name : w.name?.isSome) :
    id ∈ (w.joinedBy id).waiters := by
  cases w with
  | request st => cases name
  | load name st waiters => exact List.mem_append_right _ (List.mem_singleton_self id)

end Work

namespace Scheduler

variable {σ V α : Type}

/-- **The invariant of the scheduler**, with `q` for the entries that are still to be performed. -/
structure Linked (q : List Handle) (s : Scheduler σ V α) : Prop where
  ready : ∀ id job, s.job? id = some job → job.work.phase = .ready → .turn id ∈ q
  known : ∀ id, .turn id ∈ q → ∃ job, s.job? id = some job
  held : ∀ id job, s.job? id = some job → job.work.phase = .held → id ∈ s.gate
  waiting : ∀ id job l, s.job? id = some job → job.work.name? = none →
    job.work.phase = .waiting l → ∃ load, s.job? l = some load ∧ load.service = job.service ∧
      load.work.name?.isSome ∧ (load.work.phase ≠ .ended → id ∈ load.work.waiters) ∧
      (load.work.phase = .ended → .relay l id ∈ q)
  keys : (s.flights.map Prod.fst).Nodup
  flight : ∀ key l, (key, l) ∈ s.flights → ∃ job, s.job? l = some job ∧ job.key? = some key
  flying : ∀ l job key, s.job? l = some job → job.key? = some key → job.work.phase ≠ .ended →
    (key, l) ∈ s.flights
  landed : ∀ key l job, (key, l) ∈ s.flights → s.job? l = some job → job.work.phase = .ended →
    q.count (.forget l) = 1
  forget : ∀ l, .forget l ∈ q → ∃ job key, s.job? l = some job ∧ job.key? = some key ∧
    job.work.phase = .ended ∧ (key, l) ∈ s.flights
  reported : ∀ id job, s.job? id = some job → job.work.name? = none → job.work.phase = .ended →
    q.count (.report id) + s.reported.count id = 1
  unreported : ∀ id, (∀ job, s.job? id = some job → job.work.name? = none →
    job.work.phase ≠ .ended) → q.count (.report id) + s.reported.count id = 0

/-- A job gets new work for which it need not wait for a load. It may use up entries of its own. -/
theorem Linked.replace {s s' : Scheduler σ V α} {id : Nat} {job : Job V α} {q : List Handle}
    (lost : List Handle) (job' : Job V α) (linked : s.Linked (lost ++ q))
    (own : ∀ x ∈ lost, x = .turn id ∨ ∃ l, x = .relay l id)
    (at_ : s.job? id = some job) (live : job.work.phase ≠ .ended)
    (job?_eq : ∀ k, s'.job? k = if k = id then some job' else s.job? k)
    (service : job'.service = job.service) (name : job'.work.name? = job.work.name?)
    (waiters : job'.work.waiters = job.work.waiters) (free : ∀ l, job'.work.phase ≠ .waiting l)
    (flights : s'.flights = s.flights) (reported : s'.reported = s.reported)
    (gate : ∀ k, k ≠ id → k ∈ s.gate → k ∈ s'.gate)
    (held : job'.work.phase = .held → id ∈ s'.gate) :
    s'.Linked (q ++ job'.work.followUp id) := by
  have turns : ∀ k, k ≠ id → .turn k ∈ lost ++ q → .turn k ∈ q := by grind
  have relays : ∀ l k, k ≠ id → .relay l k ∈ lost ++ q → .relay l k ∈ q := by grind
  have counts : ∀ x, (∀ k, x ≠ .turn k) → (∀ l k, x ≠ .relay l k) →
      (lost ++ q).count x = q.count x := by
    intro x turn relay
    have : lost.count x = 0 := List.count_eq_zero.mpr fun mem => by
      obtain e | ⟨l, e⟩ := own x mem
      · exact turn id e
      · exact relay l id e
    simp [this]
  have forgets : ∀ l, (lost ++ q).count (.forget l) = q.count (.forget l) :=
    fun l => counts _ (by simp) (by simp)
  have reports : ∀ k, (lost ++ q).count (.report k) = q.count (.report k) :=
    fun k => counts _ (by simp) (by simp)
  constructor
  · intro k j
    have := linked.ready k j
    grind [Work.turn_mem_followUp]
  · intro k mem
    have := linked.known k
    grind [Work.turn_mem_followUp]
  · intro k j
    have := linked.held k j
    grind
  · intro k j l at_k name_k waits
    obtain ⟨load, at_l, service_l, name_l, before, after⟩ := linked.waiting k j l (by grind) name_k waits
    by_cases e : l = id
    · have : load = job := by grind
      subst this
      refine ⟨job', by grind, by grind, by grind, by grind, fun _ => ?_⟩
      simp only [List.mem_append, Work.relay_mem_followUp]
      grind
    · exact ⟨load, by grind, by grind, by grind, by grind, by grind⟩
  · exact flights ▸ linked.keys
  · intro key l
    have := linked.flight key l
    grind [Job.key?_eq_some]
  · intro l j key
    have := linked.flying l j key
    have := linked.flying l job key
    grind [Job.key?_eq_some]
  · intro key l j flying at_l ended
    rw [flights] at flying
    rw [List.count_append, Work.count_forget_followUp]
    by_cases e : l = id
    · obtain ⟨old, at_old, isLoad⟩ := linked.flight key l flying
      have absent : q.count (.forget l) = 0 := by
        rw [← forgets, List.count_eq_zero]
        intro mem
        have := linked.forget l mem
        grind
      grind [Job.key?_eq_some]
    · have := linked.landed key l j flying (by grind) ended
      grind
  · intro l mem
    rw [← List.count_pos_iff, List.count_append, ← forgets, ← List.count_append, List.count_pos_iff,
      List.mem_append, Work.forget_mem_followUp] at mem
    obtain mem | ⟨rfl, ended, isLoad⟩ := mem
    · obtain ⟨j, key, at_l, isLoad, ended, flying⟩ := linked.forget l mem
      exact ⟨j, key, by grind, isLoad, ended, flights ▸ flying⟩
    · have isLoad' : job'.key?.isSome := Job.key?_isSome.trans isLoad
      obtain ⟨key, keyed⟩ := Option.isSome_iff_exists.mp isLoad'
      have old : job.key? = some key := by grind [Job.key?_eq_some]
      exact ⟨job', key, by grind, keyed, ended, flights ▸ linked.flying l job key at_ old live⟩
  · intro k j
    have := linked.reported k j
    have := linked.unreported k
    grind [Work.count_report_followUp]
  · intro k
    have := linked.unreported k
    grind [Work.count_report_followUp]

/-- A job comes to wait for a load in flight. -/
theorem Linked.await {s s' : Scheduler σ V α} {id l : Nat} {job load : Job V α}
    {q : List Handle} (job' : Job V α) (linked : s.Linked (.turn id :: q))
    (at_ : s.job? id = some job) (ready : job.work.phase = .ready)
    (at_l : s.job? l = some load) (isLoad : load.work.name?.isSome)
    (live : load.work.phase ≠ .ended) (shared : load.service = job.service)
    (job?_eq : ∀ k, s'.job? k = if k = id then some job'
      else if k = l then some { load with work := load.work.joinedBy id } else s.job? k)
    (service : job'.service = job.service) (name : job'.work.name? = job.work.name?)
    (waiters : job'.work.waiters = job.work.waiters) (waits : job'.work.phase = .waiting l)
    (flights : s'.flights = s.flights) (gate : s'.gate = s.gate)
    (reported : s'.reported = s.reported) : s'.Linked q := by
  have turns : ∀ k, k ≠ id → .turn k ∈ Handle.turn id :: q → .turn k ∈ q := by grind
  have reports : ∀ k, (Handle.turn id :: q).count (.report k) = q.count (.report k) := by grind
  constructor
  · intro k j
    have := linked.ready k j
    have := linked.ready k load
    grind [Work.phase_joinedBy]
  · intro k mem
    have := linked.known k
    grind
  · intro k j
    have := linked.held k j
    have := linked.held k load
    grind [Work.phase_joinedBy]
  · intro k j m at_k name_k waits_k
    by_cases e : k = id
    · -- the job itself is a request, so it does not wait for its own end
      have e' : l ≠ id := by grind
      refine ⟨{ load with work := load.work.joinedBy id }, by grind, by grind, ?_, fun _ => ?_, ?_⟩
      · simpa using isLoad
      · exact e ▸ Work.self_mem_waiters_joinedBy isLoad
      · simp [live]
    · have e' : k ≠ l := by grind [Work.name?_joinedBy]
      obtain ⟨other, at_m, service_m, name_m, before, after⟩ :=
        linked.waiting k j m (by grind) name_k waits_k
      by_cases e₁ : m = id
      · exact ⟨job', by grind, by grind, by grind, by grind, by grind⟩
      · by_cases e₂ : m = l
        · have : other = load := by grind
          subst this
          refine ⟨{ other with work := other.work.joinedBy id }, by grind, service_m,
            by simpa using name_m, fun _ => ?_, by simp [live]⟩
          exact Work.mem_waiters_joinedBy (before live)
        · exact ⟨other, by grind, service_m, name_m, before, by grind⟩
  · exact flights ▸ linked.keys
  · intro key k
    have := linked.flight key k
    grind [Job.key?_eq_some, Work.name?_joinedBy]
  · intro k j key
    have := linked.flying k j key
    have := linked.flying k job key
    have := linked.flying k load key
    grind [Job.key?_eq_some, Work.phase_joinedBy, Work.name?_joinedBy]
  · intro key k j
    have := linked.landed key k j
    have := linked.landed key k load
    grind [Work.phase_joinedBy]
  · intro k
    have := linked.forget k
    grind
  · intro k j
    have := linked.reported k j
    grind [Work.phase_joinedBy, Work.name?_joinedBy]
  · intro k
    have := linked.unreported k
    grind [Work.phase_joinedBy, Work.name?_joinedBy]

/-- A job comes to wait for a load that is started for it. -/
theorem Linked.launch {s s' : Scheduler σ V α} {id : Nat} {job : Job V α} {key : Nat × Text}
    {q : List Handle} (job' load : Job V α) (linked : s.Linked (.turn id :: q))
    (at_ : s.job? id = some job) (ready : job.work.phase = .ready)
    (isLoad : load.key? = some key) (fresh : load.work.phase = .ready)
    (waiter : id ∈ load.work.waiters) (shared : load.service = job.service)
    (grounded : ∀ l, (key, l) ∉ s.flights)
    (job?_eq : ∀ k, s'.job? k = if k = id then some job'
      else if k = s.jobs.length then some load else s.job? k)
    (service : job'.service = job.service) (name : job'.work.name? = job.work.name?)
    (waiters : job'.work.waiters = job.work.waiters)
    (waits : job'.work.phase = .waiting s.jobs.length)
    (flights : s'.flights = s.flights ++ [(key, s.jobs.length)]) (gate : s'.gate = s.gate)
    (reported : s'.reported = s.reported) : s'.Linked (q ++ [.turn s.jobs.length]) := by
  have bound : ∀ k j, s.job? k = some j → k < s.jobs.length := fun k j => lt_of_job?
  have turns : ∀ k, k ≠ id → .turn k ∈ Handle.turn id :: q → .turn k ∈ q := by grind
  have reports : ∀ k, (Handle.turn id :: q ++ [Handle.turn s.jobs.length]).count (.report k) =
      q.count (.report k) := by grind
  rw [Job.key?_eq_some] at isLoad
  constructor
  · intro k j
    have := linked.ready k j
    grind
  · intro k mem
    have := linked.known k
    grind
  · intro k j
    have := linked.held k j
    grind
  · intro k j m at_k name_k waits_k
    by_cases e : k = id
    · exact ⟨load, by grind, by grind, by grind, by grind, by grind⟩
    · obtain ⟨other, at_m, service_m, name_m, before, after⟩ :=
        linked.waiting k j m (by grind) name_k waits_k
      by_cases e₁ : m = id
      · exact ⟨job', by grind, by grind, by grind, by grind, by grind⟩
      · exact ⟨other, by grind, service_m, name_m, before, by grind⟩
  · rw [flights, List.map_append, List.nodup_append]
    refine ⟨linked.keys, by simp, ?_⟩
    rintro _ mem _ single rfl
    obtain ⟨⟨key', l⟩, flying, rfl⟩ := List.mem_map.mp mem
    simp only [List.map_cons, List.map_nil, List.mem_singleton] at single
    exact grounded l (single ▸ flying)
  · intro key' k
    have := linked.flight key' k
    grind [Job.key?_eq_some]
  · intro k j key'
    have := linked.flying k j key'
    have := linked.flying k job key'
    grind [Job.key?_eq_some]
  · intro key' k j
    have := linked.landed key' k j
    have := linked.flight key' k
    grind
  · intro k
    have := linked.forget k
    grind
  · intro k j
    have := linked.reported k j
    grind
  · intro k
    have := linked.unreported k
    grind

/-- A new request, whose turn is still to come. -/
theorem Linked.append {s : Scheduler σ V α} {q : List Handle} (job : Job V α)
    (s' : Scheduler σ V α) (linked : s.Linked q) (isRequest : job.work.name? = none)
    (fresh : job.work.phase = .ready)
    (jobs : s'.jobs = s.jobs ++ [job]) (flights : s'.flights = s.flights) (gate : s'.gate = s.gate)
    (reported : s'.reported = s.reported) : s'.Linked (.turn s.jobs.length :: q) := by
  have bound : ∀ k j, s.job? k = some j → k < s.jobs.length := fun k j => lt_of_job?
  have job?_eq : ∀ k, s'.job? k = if k = s.jobs.length then some job else s.job? k := by
    intro k
    simp only [job?, jobs]
    grind
  have reports : ∀ k, (Handle.turn s.jobs.length :: q).count (.report k) = q.count (.report k) := by
    grind
  constructor
  · intro k j
    have := linked.ready k j
    grind
  · intro k mem
    by_cases e : k = s.jobs.length
    · exact ⟨job, by rw [job?_eq, if_pos e]⟩
    · obtain ⟨j, at_⟩ := linked.known k (by grind)
      exact ⟨j, by rw [job?_eq, if_neg e, at_]⟩
  · intro k j
    have := linked.held k j
    grind
  · intro k j m at_k name_k waits_k
    obtain ⟨other, at_m, service_m, name_m, before, after⟩ :=
      linked.waiting k j m (by grind) name_k waits_k
    exact ⟨other, by grind, service_m, name_m, before, by grind⟩
  · exact flights ▸ linked.keys
  · intro key k
    have := linked.flight key k
    grind
  · intro k j key
    have := linked.flying k j key
    grind [Job.key?_eq_some]
  · intro key k j
    have := linked.landed key k j
    grind
  · intro k
    have := linked.forget k
    grind
  · intro k j
    have := linked.reported k j
    grind
  · intro k
    have := linked.unreported k
    grind

theorem Linked.perm {s : Scheduler σ V α} {q q' : List Handle} (linked : s.Linked q)
    (perm : q.Perm q') : s.Linked q' where
  ready k j at_ phase := perm.mem_iff.mp (linked.ready k j at_ phase)
  known k mem := linked.known k (perm.mem_iff.mpr mem)
  held := linked.held
  waiting k j l at_ name phase := by
    obtain ⟨load, at_l, service, isLoad, before, after⟩ := linked.waiting k j l at_ name phase
    exact ⟨load, at_l, service, isLoad, before, fun ended => perm.mem_iff.mp (after ended)⟩
  keys := linked.keys
  flight := linked.flight
  flying := linked.flying
  landed key l j mem at_ ended := (perm.count_eq _).symm.trans (linked.landed key l j mem at_ ended)
  forget l mem := linked.forget l (perm.mem_iff.mpr mem)
  reported k j at_ name ended := perm.count_eq (.report k) ▸ linked.reported k j at_ name ended
  unreported k live := perm.count_eq (.report k) ▸ linked.unreported k live

/-- An entry that has nothing left to do can be dropped. -/
theorem Linked.drop {s : Scheduler σ V α} {x : Handle} {q : List Handle} (linked : s.Linked (x :: q))
    (silent : ∀ k, x ≠ .report k) (kept : ∀ l, x ≠ .forget l)
    (turn : ∀ id job, x = .turn id → s.job? id = some job → job.work.phase ≠ .ready)
    (relay : ∀ l id job, x = .relay l id → s.job? id = some job → job.work.phase ≠ .waiting l ∨
      ∀ load, s.job? l = some load → load.work.name?.isSome → load.work.phase ≠ .ended) :
    s.Linked q where
  ready k j at_ phase := by
    have := linked.ready k j at_ phase
    grind
  known k mem := linked.known k (List.mem_cons_of_mem _ mem)
  held := linked.held
  waiting k j l at_ name phase := by
    obtain ⟨load, at_l, service, isLoad, before, after⟩ := linked.waiting k j l at_ name phase
    refine ⟨load, at_l, service, isLoad, before, fun ended => ?_⟩
    have := after ended
    grind
  keys := linked.keys
  flight := linked.flight
  flying := linked.flying
  landed key l j mem at_ ended := by
    have := linked.landed key l j mem at_ ended
    grind
  forget l mem := linked.forget l (List.mem_cons_of_mem x mem)
  reported k j at_ name ended := by
    have := linked.reported k j at_ name ended
    grind
  unreported k live := by
    have := linked.unreported k live
    grind

/-- A load that has ended leaves the loads in flight. -/
theorem Linked.forgotten {s : Scheduler σ V α} {l : Nat} {q : List Handle}
    (linked : s.Linked (.forget l :: q)) :
    Linked q { s with flights := s.flights.filter (·.2 != l) } where
  ready k j at_ phase := by
    have := linked.ready k j at_ phase
    grind
  known k mem := linked.known k (List.mem_cons_of_mem _ mem)
  held := linked.held
  waiting k j m at_ name phase := by
    obtain ⟨load, at_m, service, isLoad, before, after⟩ := linked.waiting k j m at_ name phase
    exact ⟨load, at_m, service, isLoad, before, by grind⟩
  keys := linked.keys.sublist (List.filter_sublist.map _)
  flight key k mem := linked.flight key k (List.mem_filter.mp mem).1
  flying k j key at_ isLoad live := by
    obtain ⟨job, _, at_l, _, ended, _⟩ := linked.forget l List.mem_cons_self
    have : k ≠ l := fun e => live (by
      have : j = job := Option.some.inj ((e ▸ at_).symm.trans at_l)
      exact this ▸ ended)
    exact List.mem_filter.mpr ⟨linked.flying k j key at_ isLoad live, by simpa using this⟩
  landed key k j mem at_ ended := by
    rw [List.mem_filter] at mem
    have := linked.landed key k j mem.1 at_ ended
    grind
  forget k mem := by
    -- the entry of `l` was the only one
    obtain ⟨job, key, at_l, _, ended, flying⟩ := linked.forget l List.mem_cons_self
    have once := linked.landed key l job flying at_l ended
    obtain ⟨j, key, at_k, isLoad, ended, flying⟩ := linked.forget k (List.mem_cons_of_mem _ mem)
    refine ⟨j, key, at_k, isLoad, ended, List.mem_filter.mpr ⟨flying, ?_⟩⟩
    have : k ≠ l := by
      rintro rfl
      rw [List.count_cons_self, Nat.add_eq_right, List.count_eq_zero] at once
      exact once mem
    simpa using this
  reported k j at_ name ended := by
    have := linked.reported k j at_ name ended
    grind
  unreported k live := by
    have := linked.unreported k live
    grind

/-- The end of a request is reported. -/
theorem Linked.told {s : Scheduler σ V α} {id : Nat} {q : List Handle}
    (linked : s.Linked (.report id :: q)) :
    Linked q { s with reported := s.reported ++ [id] } where
  ready k j at_ phase := by
    have := linked.ready k j at_ phase
    grind
  known k mem := linked.known k (List.mem_cons_of_mem _ mem)
  held := linked.held
  waiting k j m at_ name phase := by
    obtain ⟨load, at_m, service, isLoad, before, after⟩ := linked.waiting k j m at_ name phase
    exact ⟨load, at_m, service, isLoad, before, by grind⟩
  keys := linked.keys
  flight := linked.flight
  flying := linked.flying
  landed key k j mem at_ ended := by
    have := linked.landed key k j mem at_ ended
    grind
  forget k mem := linked.forget k (List.mem_cons_of_mem _ mem)
  reported k j at_ name ended := by
    have := linked.reported k j at_ name ended
    grind
  unreported k live := by
    have := linked.unreported k live
    grind

/-- The invariant speaks neither of the state nor of the queue itself. -/
theorem Linked.congr {s : Scheduler σ V α} {q : List Handle} (linked : s.Linked q) (x : σ)
    (r : List Handle) : Linked q { s with state := x, queue := r } :=
  ⟨linked.ready, linked.known, linked.held, linked.waiting, linked.keys, linked.flight, linked.flying,
    linked.landed, linked.forget, linked.reported, linked.unreported⟩

/-! ### What keeps the invariant -/

private theorem Linked.reseated {β : Type} {h : Host σ V} {s s' : Scheduler σ V α} {id service : Nat}
    {wrap : Standing V β → Work V α} {halt : Halt V β} {x : σ} {st : Standing V β}
    (linked : s.Linked (.turn id :: s.queue)) (acting : s.Acting h id service wrap halt x)
    (free : ∀ l, st.phase ≠ .waiting l) (jobs : s'.jobs = s.jobs.set id { service, work := wrap st })
    (flights : s'.flights = s.flights) (reported : s'.reported = s.reported)
    (gate : ∀ k, k ≠ id → k ∈ s.gate → k ∈ s'.gate) (held : st.phase = .held → id ∈ s'.gate) :
    s'.Linked (s.queue ++ (wrap st).followUp id) := by
  obtain ⟨job, at_, service_eq, ready, same⟩ := acting.exists_job
  obtain ⟨name, waiters, phase⟩ := same st
  refine linked.replace [.turn id] { service, work := wrap st } (by simp) at_
    (by simp [ready]) (fun k => ?_) service_eq.symm name waiters (by simpa only [phase] using free)
    flights reported gate (by simpa only [phase] using held)
  have := s.job?_reseat id service k (wrap st) x
  simp only [job?, reseat, jobs] at this at_ ⊢
  grind

theorem Linked.turned {h : Host σ V} {s s' : Scheduler σ V α} {id : Nat}
    (linked : s.Linked (.turn id :: s.queue)) (turns : s.Turns h id s') : s'.Linked s'.queue := by
  cases turns with
  | idle unready =>
    refine linked.drop (by simp) (by simp) (fun k job e at_ => ?_) (by simp)
    cases e
    exact unready job at_
  | @ended β service wrap o x acting =>
    have e : (wrap (.ended o)).endHandles id = (wrap (.ended o)).followUp id := by
      simp [Work.followUp, acting.seat.phase, Standing.phase]
    rw [e]
    exact linked.reseated acting (by simp [Standing.phase]) rfl rfl rfl (fun _ _ mem => mem)
      (by simp [Standing.phase])
  | @held β service wrap path next x acting =>
    have e : s.queue = s.queue ++ (wrap (.held path next)).followUp id := by
      simp [Work.followUp, acting.seat.phase, Standing.phase]
    change Linked s.queue _
    rw [e]
    exact linked.reseated acting (by simp [Standing.phase]) rfl rfl rfl
      (fun _ _ mem => List.mem_append_left _ mem) (by simp)
  | @paused β service wrap path next x acting =>
    have e : [Handle.turn id] = (wrap (.paused path next)).followUp id := by
      simp [Work.followUp, acting.seat.phase, Standing.phase]
    rw [e]
    exact linked.reseated acting (by simp [Standing.phase]) rfl rfl rfl (fun _ _ mem => mem)
      (by simp [Standing.phase])
  | @joined β service wrap name path next x load acting flying aloft =>
    obtain ⟨job, at_, service_eq, ready, same⟩ := acting.exists_job
    obtain ⟨name_eq, waiters, phase⟩ := same (.waiting load next)
    obtain ⟨other, at_load, key⟩ := linked.flight _ _ (mem_of_lookup flying)
    rw [Job.key?_eq_some] at key
    have live : other.work.phase ≠ .ended := by
      intro ended
      have : other.work.landed?.isSome := (Work.landed?_isSome _).mpr ⟨by simp [key.2], ended⟩
      simp [landed?, flying, at_load] at aloft
      simp [aloft] at this
    refine linked.await { service, work := wrap (.waiting load next) } at_ ready at_load
      (by simp [key.2]) live (key.1.trans service_eq.symm) (fun k => ?_) service_eq.symm name_eq waiters
      phase rfl rfl rfl
    refine (job?_join k).trans ?_
    grind
  | @started β service wrap name path next x acting grounded =>
    obtain ⟨job, at_, service_eq, ready, same⟩ := acting.exists_job
    obtain ⟨name_eq, waiters, phase⟩ := same (.waiting s.jobs.length next)
    refine linked.launch { service, work := wrap (.waiting s.jobs.length next) }
      { service, work := .load name (.fresh (h.load service name path x)) [id] } at_ ready
      rfl rfl (List.mem_singleton_self id) service_eq.symm (fun l mem => ?_)
      (fun k => ?_) service_eq.symm name_eq waiters phase rfl rfl rfl
    · have := List.lookup_eq_none_iff.mp grounded _ mem
      simp at this
    · have lt := lt_of_job? at_
      refine (job?_start lt k).trans ?_
      grind

theorem Linked.woken {f : {β : Type} → Standing V β → Option (Standing V β)}
    {s s' : Scheduler σ V α} {id : Nat} {gate : List Nat} (lost : List Handle)
    (linked : s.Linked (lost ++ s.queue)) (own : ∀ x ∈ lost, x = .turn id ∨ ∃ l, x = .relay l id)
    (rouses : Rouses f) (wakes : ({ s with gate } : Scheduler σ V α).Wakes f s' id)
    (kept : ∀ k, k ≠ id → k ∈ s.gate → k ∈ gate) : s'.Linked s'.queue := by
  obtain ⟨β, wrap, st, st', service, cancelling, seat, at_, roused, job?_eq⟩ := wakes.seat
  obtain ⟨ready, waited⟩ := rouses _ _ roused
  have e : [Handle.turn id] = (wrap st').followUp id := by
    simp [Work.followUp, seat.phase, ready]
  rw [wakes.queue, e]
  refine linked.replace lost ⟨service, wrap st', cancelling⟩ own at_ ?_ job?_eq rfl (seat.name? _ _)
    (seat.waiters _ _) ?_ wakes.flights wakes.reported ?_ ?_
  · obtain held | ⟨l, waits⟩ := waited <;> simp [seat.phase, *]
  · simp [seat.phase, ready]
  · exact wakes.gate ▸ kept
  · simp [seat.phase, ready]

theorem Linked.performed {h : Host σ V} {s : Scheduler σ V α} {x : Handle}
    (linked : s.Linked (x :: s.queue)) : (s.perform h x).Linked (s.perform h x).queue := by
  cases x with
  | turn id => exact linked.turned (s.takeTurn_turns h id)
  | forget l => exact linked.forgotten
  | report id => exact linked.told
  | relay l id =>
    rw [perform]
    split
    · next silent =>
      refine linked.drop (by simp) (by simp) (by simp) fun l' k job e at_ => ?_
      cases e
      refine .inr fun load at_l isLoad ended => ?_
      have := (Work.landed?_isSome load.work).mpr ⟨isLoad, ended⟩
      simp [at_l] at silent
      simp [silent] at this
    · next o outcome =>
      obtain wakes | ⟨stays, e⟩ := wake_cases s id fun st => st.land? l o
      · exact linked.woken [.relay l id] (by simp) (rouses_land l o) wakes fun _ _ mem => mem
      · rw [e]
        refine linked.drop (by simp) (by simp) (by simp) fun l' k job e at_ => .inl fun waits => ?_
        cases e
        have stays := stays job at_
        obtain ⟨β, wrap, st, seat, e⟩ := job.work.exists_seat
        rw [e, restand?_seat seat, Option.map_eq_none_iff] at stays
        rw [e, seat.phase] at waits
        cases st <;> simp [Standing.phase] at waits
        simp [Standing.land?, waits] at stays

theorem Linked.stepped {h : Host σ V} {s : Scheduler σ V α} (linked : s.Linked s.queue) :
    (s.step h).Linked (s.step h).queue := by
  rw [step]
  split
  · exact linked
  · next x rest queue =>
    have linked : Linked (x :: rest) { s with queue := rest } := (queue ▸ linked).congr s.state rest
    exact linked.performed

theorem Linked.began {h : Host σ V} {s : Scheduler σ V α} (linked : s.Linked s.queue) (service : Nat)
    (r : Routine V α) : (s.begin h service r).Linked (s.begin h service r).queue :=
  (linked.append { service, work := .request (.fresh r) }
    { s with jobs := s.jobs ++ [{ service, work := .request (.fresh r) }] }
    rfl rfl rfl rfl rfl rfl).turned (takeTurn_turns h _ _)

theorem Linked.submitted {s : Scheduler σ V α} (linked : s.Linked s.queue) (service : Nat)
    (r : Routine V α) : (s.submit service r).Linked (s.submit service r).queue :=
  (linked.append { service, work := .request (.fresh r) } (s.submit service r)
    rfl rfl rfl rfl rfl rfl).perm (List.perm_append_singleton _ s.queue).symm

theorem Linked.cancelled {s : Scheduler σ V α} (linked : s.Linked s.queue) (id : Nat) :
    (s.cancel id).2.Linked (s.cancel id).2.queue := by
  obtain ⟨e, _⟩ | wakes | ⟨job, at_, ready, e⟩ := s.cancel_cases id
  · rwa [e]
  · exact linked.woken [] (by simp) rouses_interrupt wakes fun k other mem =>
      List.mem_filter.mpr ⟨mem, by simpa using other⟩
  · -- the entry for its turn is there already, and is used for the job with the new flag
    obtain ⟨before, after, queue⟩ := List.append_of_mem (linked.ready id job at_ ready)
    have linked : s.Linked ([.turn id] ++ (before ++ after)) :=
      linked.perm (queue ▸ List.perm_middle)
    have flagged : Linked ((before ++ after) ++ _) (s.setJob id { job with cancelling := true }) :=
      linked.replace [.turn id] { job with cancelling := true } (by simp) at_ (by simp [ready])
      (fun k => ?_) rfl rfl rfl (by simp [ready]) rfl rfl (fun _ _ mem => mem) (by simp [ready])
    · have e' : (Work.followUp id job.work) = [.turn id] := by simp [Work.followUp, ready]
      rw [e'] at flagged
      rw [e]
      refine flagged.perm ?_
      change (before ++ after ++ [Handle.turn id]).Perm s.queue
      rw [queue]
      exact (List.perm_append_singleton _ _).trans List.perm_middle.symm
    · rw [job?_setJob]
      grind

private theorem restand?_of_held {f : {β : Type} → Standing V β → Option (Standing V β)}
    (passes : ∀ {β : Type} (path : Text) (next : Except Failure Bytes → Routine V β),
      f (.held path next) ≠ none)
    {w : Work V α} (held : w.phase = .held) : w.restand? f ≠ none := by
  obtain ⟨β, wrap, st, seat, rfl⟩ := w.exists_seat
  rw [seat.phase] at held
  rw [restand?_seat seat, Ne, Option.map_eq_none_iff]
  cases st <;> simp [Standing.phase] at held
  exact passes _ _

theorem Linked.opened {s : Scheduler σ V α} (linked : s.Linked s.queue) :
    s.openGate.Linked s.openGate.queue := by
  -- no job is held after its number was reached, and none comes to be held meanwhile
  have fold : ∀ (ids : List Nat) (s : Scheduler σ V α), s.Linked s.queue →
      let s' := ids.foldl (fun s id => s.wake id fun st => st.pass?) s
      s'.Linked s'.queue ∧ s'.gate = s.gate ∧ ∀ id job, s'.job? id = some job →
        job.work.phase = .held → id ∉ ids ∧ ∃ old, s.job? id = some old ∧ old.work.phase = .held := by
    intro ids
    induction ids with
    | nil => exact fun s linked => ⟨linked, rfl, fun id job at_ held => ⟨by simp, job, at_, held⟩⟩
    | cons i ids ih =>
      intro s linked
      obtain wakes | ⟨stays, e⟩ := wake_cases s i fun st => st.pass?
      · obtain ⟨linked', gate, free⟩ := ih (s.wake i fun st => st.pass?)
          (linked.woken [] (by simp) rouses_pass wakes fun _ _ mem => mem)
        refine ⟨linked', gate.trans wakes.gate, fun id job at_ held => ?_⟩
        obtain ⟨absent, old, at_old, held'⟩ := free id job at_ held
        obtain ⟨β, wrap, st, st', service, cancelling, seat, at_i, roused, job?_eq⟩ := wakes.seat
        rw [job?_eq] at at_old
        split at at_old
        · cases at_old
          simp [seat.phase, (rouses_pass _ _ roused).1] at held'
        · next other => exact ⟨by simp [other, absent], old, at_old, held'⟩
      · obtain ⟨linked', gate, free⟩ := ih s linked
        simp only [List.foldl_cons, e]
        refine ⟨linked', gate, fun id job at_ held => ?_⟩
        obtain ⟨absent, old, at_old, held'⟩ := free id job at_ held
        refine ⟨?_, old, at_old, held'⟩
        rintro (_ | ⟨_, mem⟩)
        · exact restand?_of_held (by simp [Standing.pass?]) held' (stays old at_old)
        · exact absent mem
  obtain ⟨linked', -, free⟩ := fold s.gate s linked
  exact { linked' with
    held := fun id job at_ held => by
      obtain ⟨absent, old, at_old, held'⟩ := free id job at_ held
      exact absurd (linked.held id old at_old held') absent }

theorem Linked.answered {s : Scheduler σ V α} (linked : s.Linked s.queue) (id : Nat)
    (a : Except Failure Bytes) : (s.answer id a).Linked (s.answer id a).queue := by
  have other : ∀ (s' : Scheduler σ V α), s'.Linked s'.queue → (∀ job, s'.job? id = some job →
      job.work.phase ≠ .held) → Linked s'.queue { s' with gate := s'.gate.filter (· != id) } :=
    fun s' linked free => { linked with
      held := fun k job at_ held => by
        refine List.mem_filter.mpr ⟨linked.held k job at_ held, ?_⟩
        simp only [bne_iff_ne]
        exact fun e => free job (e ▸ at_) held }
  obtain wakes | ⟨stays, e⟩ := wake_cases s id fun st => st.answer? a
  · have linked' := linked.woken [] (by simp) (rouses_answer a) wakes fun _ _ mem => mem
    have cleared := other _ linked' ?_
    · rwa [wakes.gate] at cleared
    intro job at_ held
    obtain ⟨β, wrap, st, st', service, cancelling, seat, -, roused, job?_eq⟩ := wakes.seat
    rw [job?_eq, if_pos rfl] at at_
    cases at_
    simp [seat.phase, (rouses_answer a _ _ roused).1] at held
  · rw [answer, e]
    exact other s linked fun job at_ held =>
      restand?_of_held (by simp [Standing.answer?]) held (stays job at_)

theorem Linked.after {h : Host σ V} {s : Scheduler σ V α} (linked : s.Linked s.queue)
    (e : Event σ V α) : (s.after h e).Linked (s.after h e).queue := by
  cases e with
  | step => exact linked.stepped
  | submit service r => exact linked.submitted service r
  | start service r => exact linked.began service r
  | cancel id => exact linked.cancelled id
  | openGate => exact linked.opened
  | answer id a => exact linked.answered id a
  | update f => exact linked.congr (f s.state) s.queue

theorem linked_empty (x : σ) : Linked [] ({ state := x } : Scheduler σ V α) := by
  constructor <;> simp [job?]

theorem Linked.play {h : Host σ V} {s : Scheduler σ V α} {es : List (Event σ V α)}
    (linked : s.Linked s.queue) : (s.play h es).Linked (s.play h es).queue := by
  induction es generalizing s with
  | nil => exact linked
  | cons e es ih => exact ih (linked.after e)

/-- **Every scheduler that a run can reach is well linked.** -/
theorem linked_play (h : Host σ V) (x : σ) (es : List (Event σ V α)) :
    let s := ({ state := x } : Scheduler σ V α).play h es
    s.Linked s.queue :=
  (linked_empty x).play

end Scheduler

end Stencil
