import Stencil.Proofs.Schedule.Linked

/-!
# The order of turns

Entries of the queue are performed in the order in which they came, and an entry concerns few jobs. So
a job stays as it is until its own entry has come to the front, whatever happens in between.

## Main definitions

- `Job.bare` — a job without those who wait for it
- `Scheduler.Does` — what an event does to one job
- `Scheduler.steps` — the next entries of the queue are performed, and nothing else happens
-/

namespace Stencil

namespace Work

variable {V α : Type}

/-- Work without the list of those who wait for it. -/
def bare : Work V α → Work V α
  | request st => request st
  | load name st _ => load name st []

@[simp] theorem bare_joinedBy (id : Nat) (w : Work V α) : (w.joinedBy id).bare = w.bare := by
  cases w <;> rfl

theorem phase_bare (w : Work V α) : w.bare.phase = w.phase := by
  cases w <;> rfl

theorem name?_bare (w : Work V α) : w.bare.name? = w.name? := by
  cases w <;> rfl

theorem landed?_bare (w : Work V α) : w.bare.landed? = w.landed? := by
  cases w with
  | request st => rfl
  | load name st waiters => cases st <;> first | rfl | (rename_i o; cases o <;> rfl)

theorem bare_eq_request {w : Work V α} {st : Standing V α} :
    w.bare = .request st ↔ w = .request st := by
  cases w <;> simp [bare]

end Work

/-- A job without the list of those who wait for it. -/
def Job.bare {V α : Type} (job : Job V α) : Job V α :=
  { job with work := job.work.bare }

namespace Job

variable {V α : Type} {job job' : Job V α}

theorem work_of_bare (same : job'.bare = job.bare) : job'.work.bare = job.work.bare :=
  congrArg Job.work same

theorem phase_of_bare (same : job'.bare = job.bare) : job'.work.phase = job.work.phase := by
  rw [← Work.phase_bare, work_of_bare same, Work.phase_bare]

theorem name?_of_bare (same : job'.bare = job.bare) : job'.work.name? = job.work.name? := by
  rw [← Work.name?_bare, work_of_bare same, Work.name?_bare]

theorem landed?_of_bare (same : job'.bare = job.bare) : job'.work.landed? = job.work.landed? := by
  rw [← Work.landed?_bare, work_of_bare same, Work.landed?_bare]

theorem service_of_bare (same : job'.bare = job.bare) : job'.service = job.service := by
  have := congrArg Job.service same
  exact this

theorem key?_of_bare (same : job'.bare = job.bare) : job'.key? = job.key? := by
  rw [key?, key?, name?_of_bare same, service_of_bare same]

/-- Nobody waits for a request. -/
theorem eq_of_bare (same : job'.bare = job.bare) (isRequest : job.work.name? = none) : job' = job := by
  obtain ⟨service, work, cancelling⟩ := job
  obtain ⟨service', work', cancelling'⟩ := job'
  cases work with
  | load name st waiters => cases isRequest
  | request st =>
    simp only [bare, Work.bare, Job.mk.injEq] at same
    obtain ⟨rfl, same, rfl⟩ := same
    rw [Work.bare_eq_request.mp same]

end Job

namespace Scheduler

variable {σ V α : Type} {h : Host σ V} {s s' : Scheduler σ V α}

/-! ### The queue -/

theorem Turns.queue {id : Nat} (turns : s.Turns h id s') : ∃ new, s'.queue = s.queue ++ new := by
  cases turns with
  | idle => exact ⟨[], (List.append_nil _).symm⟩
  | ended => exact ⟨_, rfl⟩
  | held => exact ⟨[], (List.append_nil _).symm⟩
  | paused => exact ⟨_, rfl⟩
  | joined => exact ⟨[], (List.append_nil _).symm⟩
  | started => exact ⟨_, rfl⟩

theorem wake_queue (s : Scheduler σ V α) (id : Nat)
    (f : {β : Type} → Standing V β → Option (Standing V β)) :
    ∃ new, (s.wake id f).queue = s.queue ++ new := by
  obtain wakes | ⟨_, e⟩ := s.wake_cases id f
  · exact ⟨_, wakes.queue⟩
  · exact ⟨[], by rw [e, List.append_nil]⟩

theorem perform_queue (h : Host σ V) (s : Scheduler σ V α) (x : Handle) :
    ∃ new, (s.perform h x).queue = s.queue ++ new := by
  cases x with
  | turn id => exact (s.takeTurn_turns h id).queue
  | forget l => exact ⟨[], (List.append_nil _).symm⟩
  | report id => exact ⟨[], (List.append_nil _).symm⟩
  | relay l id =>
    rw [perform]
    split
    · exact ⟨[], (List.append_nil _).symm⟩
    · exact wake_queue s id _

theorem step_of_queue {x : Handle} {rest : List Handle} (queue : s.queue = x :: rest) :
    s.step h = Scheduler.perform h { s with queue := rest } x := by
  rw [step, queue]

theorem step_of_empty (queue : s.queue = []) : s.step h = s := by
  rw [step, queue]

theorem step_queue {x : Handle} {rest : List Handle} (queue : s.queue = x :: rest) :
    ∃ new, (s.step h).queue = rest ++ new := by
  rw [step_of_queue queue]
  exact perform_queue h _ x

theorem openGate_queue (s : Scheduler σ V α) : ∃ new, s.openGate.queue = s.queue ++ new := by
  refine openGate_keeps (P := fun t => ∃ new, t.queue = s.queue ++ new) (fun t id kept => ?_)
    (fun _ kept => kept) ⟨[], (List.append_nil _).symm⟩
  obtain ⟨new, e⟩ := kept
  obtain ⟨new', e'⟩ := wake_queue t id fun st => st.pass?
  exact ⟨new ++ new', by rw [e', e, List.append_assoc]⟩

/-- **First come, first served**: nothing but a step takes an entry from the queue, and new entries
come last. -/
theorem after_queue (h : Host σ V) (s : Scheduler σ V α) (e : Event σ V α) :
    (e = .step ∧ ∃ new, (s.after h e).queue = s.queue.tail ++ new) ∨
      ∃ new, (s.after h e).queue = s.queue ++ new := by
  cases e with
  | step =>
    refine .inl ⟨rfl, ?_⟩
    cases queue : s.queue with
    | nil => exact ⟨[], by rw [after, step_of_empty queue, queue]; rfl⟩
    | cons x rest => exact step_queue queue
  | submit service r => exact .inr ⟨_, rfl⟩
  | start service r => exact .inr (takeTurn_turns h _ _).queue
  | cancel id =>
    refine .inr ?_
    obtain ⟨e, _⟩ | wakes | ⟨job, _, _, e⟩ := s.cancel_cases id
    · exact ⟨[], by rw [after, e, List.append_nil]⟩
    · exact ⟨_, wakes.queue⟩
    · exact ⟨[], by rw [after, e, List.append_nil]; rfl⟩
  | openGate => exact .inr s.openGate_queue
  | answer id a => exact .inr (wake_queue s id _)
  | update f => exact .inr ⟨[], (List.append_nil _).symm⟩

theorem Turns.reported {id : Nat} (turns : s.Turns h id s') : s'.reported = s.reported := by
  cases turns <;> rfl

theorem wake_reported (s : Scheduler σ V α) (id : Nat)
    (f : {β : Type} → Standing V β → Option (Standing V β)) :
    (s.wake id f).reported = s.reported := by
  obtain wakes | ⟨_, e⟩ := s.wake_cases id f
  · exact wakes.reported
  · rw [e]

/-- What was reported stays reported. -/
theorem step_reported (h : Host σ V) (s : Scheduler σ V α) :
    ∃ new, (s.step h).reported = s.reported ++ new := by
  cases queue : s.queue with
  | nil => exact ⟨[], by rw [step_of_empty queue, List.append_nil]⟩
  | cons x rest =>
    rw [step_of_queue queue]
    cases x with
    | turn id => exact ⟨[], by rw [perform, (takeTurn_turns h _ id).reported, List.append_nil]⟩
    | forget l => exact ⟨[], (List.append_nil _).symm⟩
    | report id => exact ⟨_, rfl⟩
    | relay l id =>
      refine ⟨[], ?_⟩
      rw [perform, List.append_nil]
      split
      · rfl
      · exact wake_reported _ id _

private theorem cancel_reported (s : Scheduler σ V α) (id : Nat) :
    (s.cancel id).2.reported = s.reported := by
  obtain ⟨e, _⟩ | wakes | ⟨_, _, _, e⟩ := s.cancel_cases id
  · rw [e]
  · exact wakes.reported
  · rw [e]
    rfl

/-- **Reports are not taken back**: only the queue adds to them. -/
theorem after_reported (h : Host σ V) (s : Scheduler σ V α) (e : Event σ V α) :
    ∃ new, (s.after h e).reported = s.reported ++ new := by
  cases e with
  | step => exact step_reported h s
  | submit service r => exact ⟨[], (List.append_nil _).symm⟩
  | start service r => exact ⟨[], by rw [after, begin, (takeTurn_turns h _ _).reported, List.append_nil]⟩
  | cancel id => exact ⟨[], by rw [after, cancel_reported, List.append_nil]⟩
  | openGate =>
    refine ⟨[], ?_⟩
    rw [List.append_nil]
    refine openGate_keeps (P := fun t => t.reported = s.reported) (fun t id same => ?_)
      (fun _ same => same) rfl
    exact (wake_reported t id _).trans same
  | answer id a => exact ⟨[], by rw [List.append_nil]; exact wake_reported s id _⟩
  | update f => exact ⟨[], (List.append_nil _).symm⟩

theorem play_reported (h : Host σ V) (s : Scheduler σ V α) (es : List (Event σ V α)) :
    ∃ new, (s.play h es).reported = s.reported ++ new := by
  induction es generalizing s with
  | nil => exact ⟨[], (List.append_nil _).symm⟩
  | cons e es ih =>
    obtain ⟨new, same⟩ := after_reported h s e
    obtain ⟨new', same'⟩ := ih (s.after h e)
    exact ⟨new ++ new', by rw [play_cons, same', same, List.append_assoc]⟩

/-! ### The number of jobs -/

theorem wake_length (s : Scheduler σ V α) (id : Nat)
    (f : {β : Type} → Standing V β → Option (Standing V β)) :
    (s.wake id f).jobs.length = s.jobs.length := by
  rw [wake]
  split
  · rfl
  · exact List.length_modify _ _ _

theorem openGate_length (s : Scheduler σ V α) : s.openGate.jobs.length = s.jobs.length := by
  refine openGate_keeps (P := fun t => t.jobs.length = s.jobs.length) (fun t id same => ?_)
    (fun _ same => same) rfl
  exact (wake_length t id _).trans same

theorem cancel_length (s : Scheduler σ V α) (id : Nat) :
    (s.cancel id).2.jobs.length = s.jobs.length := by
  rw [cancel]
  split
  · rfl
  · split
    · rfl
    · split
      · exact wake_length _ id _
      · exact List.length_set

/-! ### One job -/

/-- What an event does to the job `id`. The event may leave it alone, or it is the turn of the job, or
the job is told the outcome of the load it waits for, or the job is addressed from outside. -/
inductive Does (h : Host σ V) (s : Scheduler σ V α) (id : Nat) (job : Job V α) :
    Event σ V α → Job V α → Prop where
  | rests {e : Event σ V α} {job' : Job V α} (same : job'.bare = job.bare) : Does h s id job e job'
  | acts {β : Type} {wrap : Standing V β → Work V α} {st : Standing V β} {service : Nat}
      {cancelling : Bool} {halt : Halt V β} {x : σ} {rest : List Handle} (load : Nat)
      (head : s.queue = .turn id :: rest) (seat : Seat V α β wrap)
      (is : job = ⟨service, wrap st, cancelling⟩)
      (goes : h.turn service (s.landed? service) cancelling st s.state = some (halt, x)) :
      Does h s id job .step ⟨service, wrap (halt.standing load), false⟩
  | told {β : Type} {wrap : Standing V β → Work V α} {next : Except Failure V → Routine V β}
      {service : Nat} {cancelling : Bool} {rest : List Handle} {l : Nat} {load : Job V α}
      {o : Except Failure V} (head : s.queue = .relay l id :: rest) (seat : Seat V α β wrap)
      (is : job = ⟨service, wrap (.waiting l next), cancelling⟩)
      (at_ : s.job? l = some load) (lands : load.work.landed? = some o) :
      Does h s id job .step ⟨service, wrap (.landed o next), cancelling⟩
  | addressed {e : Event σ V α} {job' : Job V α} (own : e = .cancel id ∨
      job.work.phase = .held ∧ (e = .openGate ∨ ∃ a, e = .answer id a))
      (kind : job'.service = job.service ∧ job'.work.name? = job.work.name?) : Does h s id job e job'

/-- The turn of a job leaves the standing of the others as it is. -/
theorem Turns.job?_other {id k : Nat} {job : Job V α} (turns : s.Turns h id s') (other : k ≠ id)
    (at_ : s.job? k = some job) : ∃ job', s'.job? k = some job' ∧ job'.bare = job.bare := by
  have reseated : ∀ service (w : Work V α) x, (s.reseat id service w x).job? k = some job :=
    fun service w x => by rw [job?_reseat, if_neg other, at_]
  cases turns with
  | idle => exact ⟨job, at_, rfl⟩
  | @ended _ service _ _ x _ => exact ⟨job, reseated service _ x, rfl⟩
  | @held _ service _ _ _ x _ => exact ⟨job, reseated service _ x, rfl⟩
  | @paused _ service _ _ _ x _ => exact ⟨job, reseated service _ x, rfl⟩
  | @joined _ _ _ _ _ _ _ load _ _ _ =>
    rw [job?_join, if_neg other, at_]
    by_cases e : k = load
    · rw [if_pos e]
      exact ⟨_, rfl, by simp [Job.bare]⟩
    · rw [if_neg e]
      exact ⟨job, rfl, rfl⟩
  | started acting _ =>
    obtain ⟨_, at_id, _⟩ := acting.exists_job
    have old := Nat.ne_of_lt (lt_of_job? at_)
    refine ⟨job, ?_, rfl⟩
    rw [job?_start (lt_of_job? at_id), if_neg other, if_neg old, at_]

theorem wake_job? {id k : Nat} {job : Job V α} (at_ : s.job? id = some job)
    (f : {β : Type} → Standing V β → Option (Standing V β)) :
    (s.wake k f).job? id = some job ∨ k = id ∧ ∃ work, job.work.restand? f = some work ∧
      (s.wake k f).job? id = some { job with work } := by
  obtain wakes | ⟨_, e⟩ := s.wake_cases k f
  · obtain ⟨old, work, at_k, goes, job?_eq⟩ := wakes.job
    by_cases e : k = id
    · subst e
      obtain rfl := Option.some.inj (at_k.symm.trans at_)
      exact .inr ⟨rfl, work, goes, by rw [job?_eq, if_pos rfl]⟩
    · exact .inl (by rw [job?_eq, if_neg (Ne.symm e), at_])
  · exact .inl (by rw [e, at_])

private theorem restand?_phase {f : {β : Type} → Standing V β → Option (Standing V β)} {p : Phase}
    (needs : ∀ {β : Type} (st st' : Standing V β), f st = some st' → st.phase = p)
    {w w' : Work V α} (goes : w.restand? f = some w') : w.phase = p := by
  obtain ⟨β, wrap, st, seat, rfl⟩ := w.exists_seat
  rw [restand?_seat seat, Option.map_eq_some_iff] at goes
  obtain ⟨st', goes, _⟩ := goes
  rw [seat.phase]
  exact needs st st' goes

private theorem restand?_name? {f : {β : Type} → Standing V β → Option (Standing V β)}
    {w w' : Work V α} (goes : w.restand? f = some w') : w'.name? = w.name? := by
  obtain ⟨β, wrap, st, seat, rfl⟩ := w.exists_seat
  rw [restand?_seat seat, Option.map_eq_some_iff] at goes
  obtain ⟨st', _, rfl⟩ := goes
  exact seat.name? st' st

private theorem openGate_job? {id : Nat} {job : Job V α} (at_ : s.job? id = some job)
    (free : job.work.phase ≠ .held) : s.openGate.job? id = some job := by
  refine openGate_keeps (P := fun t => t.job? id = some job) (fun t k at_ => ?_) (fun _ at_ => at_) at_
  obtain at_ | ⟨_, work, goes, _⟩ := wake_job? (k := k) at_ fun st => st.pass?
  · exact at_
  · refine absurd (restand?_phase (fun st st' goes => ?_) goes) free
    cases st <;> simp [Standing.pass?] at goes
    rfl

private theorem cancel_job?_other {id k : Nat} {job : Job V α} (at_ : s.job? id = some job)
    (other : k ≠ id) : (s.cancel k).2.job? id = some job := by
  obtain ⟨e, _⟩ | wakes | ⟨old, _, _, e⟩ := s.cancel_cases k
  · rw [e, at_]
  · obtain ⟨_, _, _, _, job?_eq⟩ := wakes.job
    rw [job?_eq, if_neg (Ne.symm other)]
    exact at_
  · rw [e, job?_setJob, if_neg (Ne.symm other)]
    exact at_

private theorem step_does {id : Nat} {job : Job V α} (at_ : s.job? id = some job) :
    ∃ job', (s.step h).job? id = some job' ∧ s.Does h id job .step job' := by
  cases queue : s.queue with
  | nil => exact ⟨job, by rwa [step_of_empty queue], .rests rfl⟩
  | cons x rest =>
    rw [step_of_queue queue]
    cases x with
    | turn k =>
      have turns := takeTurn_turns h { s with queue := rest } k
      by_cases e : id = k
      · subst e
        obtain ⟨service, work, cancelling⟩ := job
        obtain ⟨β, wrap, st, seat, rfl⟩ := work.exists_seat
        cases goes : h.turn service (s.landed? service) cancelling st s.state with
        | none =>
          refine ⟨_, ?_, .rests rfl⟩
          rw [perform, takeTurn_of_none (s := { s with queue := rest }) seat at_ goes]
          exact at_
        | some stop =>
          exact ⟨_, takeTurn_job? (s := { s with queue := rest }) seat at_ goes,
            .acts _ queue seat rfl goes⟩
      · obtain ⟨job', now, same⟩ := turns.job?_other e at_
        exact ⟨job', now, .rests same⟩
    | forget l => exact ⟨job, at_, .rests rfl⟩
    | report k => exact ⟨job, at_, .rests rfl⟩
    | relay l k =>
      rw [perform]
      split
      · exact ⟨job, at_, .rests rfl⟩
      · next o ended =>
        obtain ⟨load, at_l, lands⟩ := Option.bind_eq_some_iff.mp ended
        obtain now | ⟨rfl, work, goes, now⟩ :=
          wake_job? (k := k) (s := { s with queue := rest }) at_ fun st => st.land? l o
        · exact ⟨job, now, .rests rfl⟩
        · obtain ⟨service, old, cancelling⟩ := job
          obtain ⟨β, wrap, st, seat, rfl⟩ := old.exists_seat
          rw [restand?_seat seat, Option.map_eq_some_iff] at goes
          obtain ⟨st', goes, rfl⟩ := goes
          cases st with
          | waiting l' next =>
            by_cases e : l' = l <;> simp [Standing.land?, e] at goes
            subst e goes
            exact ⟨_, now, .told queue seat rfl at_l lands⟩
          | _ => simp [Standing.land?] at goes

/-- **What an event can do to a job** that exists already. -/
theorem after_does {id : Nat} {job : Job V α} (at_ : s.job? id = some job) (e : Event σ V α) :
    ∃ job', (s.after h e).job? id = some job' ∧ s.Does h id job e job' := by
  cases e with
  | step => exact step_does at_
  | submit service r =>
    refine ⟨job, ?_, .rests rfl⟩
    have lt := lt_of_job? at_
    simpa [after, submit, spawn, push, job?, List.getElem?_append_left lt] using at_
  | start service r =>
    have lt := lt_of_job? at_
    have at_' : Scheduler.job? { s with jobs := s.jobs ++ [{ service, work := .request (.fresh r) }] }
        id = some job := by
      simpa [job?, List.getElem?_append_left lt] using at_
    obtain ⟨job', now, same⟩ := (takeTurn_turns h _ _).job?_other (Nat.ne_of_lt lt) at_'
    exact ⟨job', now, .rests same⟩
  | cancel k =>
    by_cases e : k = id
    · subst e
      obtain ⟨job', now, kind⟩ : ∃ job', (s.cancel k).2.job? k = some job' ∧
          job'.service = job.service ∧ job'.work.name? = job.work.name? := by
        obtain ⟨e, _⟩ | wakes | ⟨old, at_k, _, e⟩ := s.cancel_cases k
        · exact ⟨job, by rw [e, at_], rfl, rfl⟩
        · obtain ⟨old, work, at_k, goes, job?_eq⟩ := wakes.job
          obtain rfl := Option.some.inj (at_k.symm.trans at_)
          exact ⟨{ old with work }, by rw [job?_eq, if_pos rfl], rfl, restand?_name? goes⟩
        · obtain rfl := Option.some.inj (at_k.symm.trans at_)
          refine ⟨{ old with cancelling := true }, ?_, rfl, rfl⟩
          rw [e, job?_setJob, if_pos rfl, at_, Option.map_some]
      exact ⟨job', now, .addressed (.inl rfl) kind⟩
    · exact ⟨job, cancel_job?_other at_ e, .rests rfl⟩
  | openGate =>
    by_cases held : job.work.phase = .held
    · obtain ⟨job', now, kind⟩ : ∃ job', s.openGate.job? id = some job' ∧
          job'.service = job.service ∧ job'.work.name? = job.work.name? := by
        refine openGate_keeps (P := fun t => ∃ job', t.job? id = some job' ∧ job'.service = job.service ∧
          job'.work.name? = job.work.name?) (fun t k kept => ?_) (fun _ kept => kept) ⟨job, at_, rfl, rfl⟩
        obtain ⟨job', now, service, name⟩ := kept
        obtain now | ⟨_, work, goes, now⟩ := wake_job? (k := k) now fun st => st.pass?
        · exact ⟨job', now, service, name⟩
        · exact ⟨_, now, service, (restand?_name? goes).trans name⟩
      exact ⟨job', now, .addressed (.inr ⟨held, .inl rfl⟩) kind⟩
    · exact ⟨job, openGate_job? at_ held, .rests rfl⟩
  | answer k a =>
    obtain now | ⟨rfl, work, goes, now⟩ := wake_job? (k := k) at_ fun st => st.answer? a
    · exact ⟨job, now, .rests rfl⟩
    · refine ⟨_, now, .addressed (.inr ⟨restand?_phase (fun st st' goes => ?_) goes, .inr ⟨a, rfl⟩⟩)
        ⟨rfl, restand?_name? goes⟩⟩
      cases st <;> simp [Standing.answer?] at goes
      rfl
  | update f => exact ⟨job, at_, .rests rfl⟩

/-- A request stays a request, and a load stays the load of its name. -/
theorem play_kind {id : Nat} {job : Job V α} (at_ : s.job? id = some job) (es : List (Event σ V α)) :
    ∃ job', (s.play h es).job? id = some job' ∧ job'.service = job.service ∧
      job'.work.name? = job.work.name? := by
  induction es generalizing s job with
  | nil => exact ⟨job, at_, rfl, rfl⟩
  | cons e es ih =>
    obtain ⟨job', now, does⟩ := after_does (h := h) at_ e
    obtain ⟨service, name⟩ : job'.service = job.service ∧ job'.work.name? = job.work.name? := by
      cases does with
      | rests same => exact ⟨Job.service_of_bare same, Job.name?_of_bare same⟩
      | acts _ _ seat is _ => exact is ▸ ⟨rfl, seat.name? _ _⟩
      | told _ seat is _ _ => exact is ▸ ⟨rfl, seat.name? _ _⟩
      | addressed _ kind => exact kind
    obtain ⟨job'', later, service', name'⟩ := ih now
    exact ⟨job'', later, service'.trans service, name'.trans name⟩

/-! ### Entries that come to the front -/

/-- The next `n` entries of the queue are performed. -/
def steps (h : Host σ V) (n : Nat) (s : Scheduler σ V α) : Scheduler σ V α :=
  s.play h (List.replicate n .step)

@[simp] theorem steps_zero (h : Host σ V) (s : Scheduler σ V α) : s.steps h 0 = s := rfl

theorem steps_succ (h : Host σ V) (n : Nat) (s : Scheduler σ V α) :
    s.steps h (n + 1) = (s.step h).steps h n := rfl

theorem steps_add (h : Host σ V) (m n : Nat) (s : Scheduler σ V α) :
    s.steps h (m + n) = (s.steps h m).steps h n := by
  rw [steps, ← List.replicate_append_replicate, play_append]
  rfl

/-- An entry comes to the front, with whatever the entries before it keep. -/
theorem steps_to {P : Scheduler σ V α → Prop} {x : Handle} (pre : List Handle)
    (keeps : ∀ s y rest, y ∈ pre → s.queue = y :: rest → P s → P (s.step h))
    {s : Scheduler σ V α} {post : List Handle} (queue : s.queue = pre ++ x :: post) (now : P s) :
    ∃ new, (s.steps h pre.length).queue = x :: (post ++ new) ∧ P (s.steps h pre.length) := by
  induction pre generalizing s post with
  | nil => exact ⟨[], by simpa using queue, now⟩
  | cons y pre ih =>
    obtain ⟨new, queue'⟩ := step_queue (h := h) (List.cons_append ▸ queue)
    rw [List.append_assoc, List.cons_append] at queue'
    obtain ⟨new', front, then_⟩ := ih (fun s z rest mem => keeps s z rest (List.mem_cons_of_mem _ mem))
      queue' (keeps s y _ List.mem_cons_self queue now)
    exact ⟨new ++ new', by rw [List.length_cons, steps_succ, front, List.append_assoc], then_⟩

/-- **Its turn comes**: a job that is ready finds itself at the front, as it stands. -/
theorem turn_comes {id : Nat} {job : Job V α} (linked : s.Linked s.queue)
    (at_ : s.job? id = some job) (ready : job.work.phase = .ready) :
    ∃ n rest job', (s.steps h n).queue = .turn id :: rest ∧ (s.steps h n).job? id = some job' ∧
      job'.bare = job.bare := by
  obtain ⟨pre, post, queue, first⟩ := List.eq_append_cons_of_mem (linked.ready id job at_ ready)
  let P (s : Scheduler σ V α) := ∃ job', s.job? id = some job' ∧ job'.bare = job.bare
  have keeps : ∀ s y rest, y ∈ pre → s.queue = y :: rest → P s → P (s.step h) := by
    rintro s y rest mem queue ⟨job', now, same⟩
    obtain ⟨job'', then_, does⟩ := after_does (h := h) now .step
    refine ⟨job'', then_, ?_⟩
    have ready : job'.work.phase = .ready := (Job.phase_of_bare same).trans ready
    cases does with
    | rests same' => exact same'.trans same
    | acts _ head _ _ _ =>
      obtain rfl : y = .turn id := (List.cons.inj (queue.symm.trans head)).1
      exact absurd mem first
    | told _ seat is _ _ => simp [is, seat.phase, Standing.phase] at ready
    | addressed own => simp at own
  obtain ⟨new, front, job', now, same⟩ := steps_to pre keeps queue ⟨job, at_, rfl⟩
  exact ⟨_, _, job', front, now, same⟩

/-- A job that has ended stays as it is. -/
theorem after_ended {l : Nat} {job : Job V α} (at_ : s.job? l = some job)
    (ended : job.work.phase = .ended) (e : Event σ V α) :
    (∃ job', (s.after h e).job? l = some job' ∧ job'.bare = job.bare) := by
  obtain ⟨job', now, does⟩ := after_does (h := h) at_ e
  cases does with
  | rests same => exact ⟨job', now, same⟩
  | @acts β wrap st service cancelling halt x rest load head seat is goes =>
    obtain ⟨r, y, _, ready, _⟩ | ⟨path, next, rfl, _, _⟩ | ⟨_, stays⟩ :=
      h.turn_cases service (s.landed? service) cancelling st s.state
    · simp [is, seat.phase, ready] at ended
    · simp [is, seat.phase, Standing.phase] at ended
    · cases stays.symm.trans goes
  | told _ seat is _ _ => simp [is, seat.phase, Standing.phase] at ended
  | addressed own =>
    obtain rfl | ⟨held, _⟩ := own
    · -- who has ended cannot be cancelled
      obtain ⟨e, _⟩ | wakes | ⟨old, at_l, ready, _⟩ := s.cancel_cases l
      · exact ⟨job, by rw [after, e, at_], rfl⟩
      · obtain ⟨β, wrap, st, st', service, cancelling, seat, at_l, roused, _⟩ := wakes.seat
        obtain rfl := Option.some.inj (at_l.symm.trans at_)
        obtain ⟨_, held | ⟨_, waits⟩⟩ := Standing.phase_of_interrupt roused
        · simp [seat.phase, held] at ended
        · simp [seat.phase, waits] at ended
      · obtain rfl := Option.some.inj (at_l.symm.trans at_)
        simp [ready] at ended
    · simp [held] at ended

theorem play_ended {l : Nat} {job : Job V α} (es : List (Event σ V α)) (at_ : s.job? l = some job)
    (ended : job.work.phase = .ended) :
    ∃ job', (s.play h es).job? l = some job' ∧ job'.bare = job.bare := by
  induction es generalizing s job with
  | nil => exact ⟨job, at_, rfl⟩
  | cons e es ih =>
    obtain ⟨job', now, same⟩ := after_ended (h := h) at_ ended e
    obtain ⟨job'', then_, same'⟩ := ih now ((Job.phase_of_bare same).trans ended)
    exact ⟨job'', then_, same'.trans same⟩

/-- The outcome of a load does not change any more. -/
theorem play_landed {l : Nat} {job : Job V α} {o : Except Failure V} (es : List (Event σ V α))
    (at_ : s.job? l = some job) (landed : job.work.landed? = some o) :
    ∃ job', (s.play h es).job? l = some job' ∧ job'.bare = job.bare ∧ job'.work.landed? = some o := by
  have ended := ((Work.landed?_isSome job.work).mp (by rw [landed]; rfl)).2
  obtain ⟨job', now, same⟩ := play_ended (h := h) es at_ ended
  exact ⟨job', now, same, (Job.landed?_of_bare same).trans landed⟩

/-- **News comes**: a request that waits for a load that has ended is told the outcome. -/
theorem news_comes {id l service : Nat} {next : Except Failure V → Routine V α} {cancelling : Bool}
    {load : Job V α} {o : Except Failure V} (linked : s.Linked s.queue)
    (at_ : s.job? id = some ⟨service, .request (.waiting l next), cancelling⟩)
    (at_l : s.job? l = some load) (landed : load.work.landed? = some o) :
    ∃ n, (s.steps h n).job? id = some ⟨service, .request (.landed o next), cancelling⟩ := by
  have ended := ((Work.landed?_isSome load.work).mp (by rw [landed]; rfl)).2
  obtain ⟨same, at_same, _, _, _, news⟩ := linked.waiting id _ l at_ rfl rfl
  obtain rfl := Option.some.inj (at_same.symm.trans at_l)
  obtain ⟨pre, post, queue, first⟩ := List.eq_append_cons_of_mem (news ended)
  let P (s : Scheduler σ V α) := s.job? id = some ⟨service, .request (.waiting l next), cancelling⟩ ∧
    ∃ job, s.job? l = some job ∧ job.work.landed? = some o
  have keeps : ∀ s y rest, y ∈ pre → s.queue = y :: rest → P s → P (s.step h) := by
    rintro s y rest mem queue ⟨now, job, at_l, landed⟩
    obtain ⟨job', at_l', _, landed'⟩ := play_landed (h := h) [.step] at_l landed
    obtain ⟨job'', then_, does⟩ := after_does (h := h) now .step
    refine ⟨?_, job', at_l', landed'⟩
    cases does with
    | rests same => rwa [Job.eq_of_bare same rfl] at then_
    | acts _ head seat is goes =>
      cases seat <;> simp at is
      obtain ⟨rfl, rfl, rfl⟩ := is
      simp [Host.turn] at goes
    | told head seat is _ _ =>
      cases seat <;> simp at is
      obtain rfl : y = .relay l id := by
        rw [is.2.1.1]
        exact (List.cons.inj (queue.symm.trans head)).1
      exact absurd mem first
    | addressed own => simp at own
  obtain ⟨new, front, now, job', at_l', landed'⟩ := steps_to pre keeps queue ⟨at_, _, at_l, landed⟩
  refine ⟨pre.length + 1, ?_⟩
  rw [steps_add, steps_succ, steps_zero, step_of_queue front, perform]
  split
  · next silent =>
    simp only [job?] at silent at_l'
    simp [at_l', landed'] at silent
  · next o' told =>
    obtain rfl : o' = o := by
      rw [Option.bind_eq_some_iff] at told
      obtain ⟨job, at_, told⟩ := told
      obtain rfl := Option.some.inj (at_.symm.trans at_l')
      exact Option.some.inj (told.symm.trans landed')
    rw [wake]
    simp only [job?] at now ⊢
    simp [now, Work.restand?, Standing.land?, setWork, push]

end Scheduler

end Stencil
