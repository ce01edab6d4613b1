import Stencil.Proofs.Schedule.Turn

/-!
# Runs of the scheduler

What can happen to a scheduler, one event at a time: it performs the first entry of its queue, or
something is done to it from outside. A run is a list of events, in whatever order.

## Main definitions

- `Event` and `Scheduler.after` — one event and what it does
- `Scheduler.play` — a run
- `Scheduler.Wakes` — a job that waits for something else is made to go on
-/

namespace Stencil

/-- What can happen to a scheduler. -/
inductive Event (σ V α : Type) where
  /-- The first entry of the queue is performed. -/
  | step
  /-- A request is submitted; its first turn comes after all that is queued. -/
  | submit (service : Nat) (r : Routine V α)
  /-- A request is begun at once, before all that is queued. -/
  | start (service : Nat) (r : Routine V α)
  | cancel (id : Nat)
  | openGate
  /-- The read of a job at the gate is answered from outside. -/
  | answer (id : Nat) (answer : Except Failure Bytes)
  /-- The state that the jobs work on is changed. -/
  | update (f : σ → σ)

namespace Scheduler

variable {σ V α : Type}

/-- Begin a request at once. -/
def begin (h : Host σ V) (s : Scheduler σ V α) (service : Nat) (r : Routine V α) :
    Scheduler σ V α :=
  takeTurn h { s with jobs := s.jobs ++ [{ service, work := .request (.fresh r) }] } s.jobs.length

/-- A request that is begun is the next job. -/
theorem begin_job? (h : Host σ V) (s : Scheduler σ V α) (service : Nat) (r : Routine V α) :
    ∃ st cancelling, (s.begin h service r).job? s.jobs.length =
      some ⟨service, .request st, cancelling⟩ := by
  have begun : Scheduler.job? { s with jobs := s.jobs ++ [{ service, work := .request (.fresh r) }] }
      s.jobs.length = some ⟨service, .request (.fresh r), false⟩ := by simp [job?]
  exact ⟨_, _, takeTurn_job? .request begun rfl⟩

/-- The scheduler after an event. -/
def after (h : Host σ V) (s : Scheduler σ V α) : Event σ V α → Scheduler σ V α
  | .step => s.step h
  | .submit service r => s.submit service r
  | .start service r => s.begin h service r
  | .cancel id => (s.cancel id).2
  | .openGate => s.openGate
  | .answer id answer => s.answer id answer
  | .update f => { s with state := f s.state }

/-- The scheduler after a run. -/
def play (h : Host σ V) (s : Scheduler σ V α) (es : List (Event σ V α)) : Scheduler σ V α :=
  es.foldl (after h) s

@[simp] theorem play_nil (h : Host σ V) (s : Scheduler σ V α) : s.play h [] = s := rfl

@[simp] theorem play_cons (h : Host σ V) (s : Scheduler σ V α) (e : Event σ V α)
    (es : List (Event σ V α)) : s.play h (e :: es) = (s.after h e).play h es := rfl

theorem play_append (h : Host σ V) (s : Scheduler σ V α) (es es' : List (Event σ V α)) :
    s.play h (es ++ es') = (s.play h es).play h es' :=
  List.foldl_append

/-! ### Waking a job -/

/-- A change of standing that makes a job go on which waits for something else. -/
def Rouses (f : {β : Type} → Standing V β → Option (Standing V β)) : Prop :=
  ∀ {β : Type} (st st' : Standing V β), f st = some st' →
    st'.phase = .ready ∧ (st.phase = .held ∨ ∃ l, st.phase = .waiting l)

theorem rouses_land (l : Nat) (o : Except Failure V) :
    Rouses fun {β : Type} (st : Standing V β) => st.land? l o := by
  intro β st st' roused
  cases st with
  | waiting l' next =>
    by_cases e : l' = l <;> simp [Standing.land?, e] at roused
    subst roused
    exact ⟨rfl, .inr ⟨l', rfl⟩⟩
  | _ => simp [Standing.land?] at roused

theorem rouses_pass : Rouses fun {β : Type} (st : Standing V β) => st.pass? := by
  intro β st st' roused
  cases st <;> simp [Standing.pass?] at roused
  subst roused
  exact ⟨rfl, .inl rfl⟩

theorem rouses_answer (a : Except Failure Bytes) :
    Rouses fun {β : Type} (st : Standing V β) => st.answer? a := by
  intro β st st' roused
  cases st <;> simp [Standing.answer?] at roused
  subst roused
  exact ⟨rfl, .inl rfl⟩

theorem rouses_interrupt : Rouses fun {β : Type} (st : Standing V β) => st.interrupt? :=
  fun _ _ roused => Standing.phase_of_interrupt roused

theorem restand?_seat {β : Type} {wrap : Standing V β → Work V α} (seat : Seat V α β wrap)
    (f : {β : Type} → Standing V β → Option (Standing V β)) (st : Standing V β) :
    (wrap st).restand? f = (f st).map wrap := by
  cases seat <;> rfl

/-- A job that waits for something else is made to go on. -/
structure Wakes (f : {β : Type} → Standing V β → Option (Standing V β)) (s s' : Scheduler σ V α)
    (id : Nat) : Prop where
  job : ∃ job work, s.job? id = some job ∧ job.work.restand? f = some work ∧
    ∀ k, s'.job? k = if k = id then some { job with work } else s.job? k
  queue : s'.queue = s.queue ++ [.turn id]
  state : s'.state = s.state
  flights : s'.flights = s.flights
  gate : s'.gate = s.gate
  reported : s'.reported = s.reported

theorem wake_cases (s : Scheduler σ V α) (id : Nat)
    (f : {β : Type} → Standing V β → Option (Standing V β)) :
    s.Wakes f (s.wake id f) id ∨
      (∀ job, s.job? id = some job → job.work.restand? f = none) ∧ s.wake id f = s := by
  cases at_ : s.job? id with
  | none => exact .inr ⟨(fun _ e => by cases e), by simp [wake, at_]⟩
  | some job =>
    cases goes : job.work.restand? f with
    | none =>
      refine .inr ⟨fun j e => ?_, by simp [wake, at_, goes]⟩
      cases e
      exact goes
    | some work =>
      have e : s.wake id f = (s.setWork id work).push (.turn id) := by simp [wake, at_, goes]
      rw [e]
      refine .inl ⟨⟨job, work, at_, goes, fun k => ?_⟩, rfl, rfl, rfl, rfl, rfl⟩
      refine (s.job?_setWork id k work).trans ?_
      split
      · next same => rw [same, at_]; rfl
      · rfl

/-- What is kept whenever a job passes the gate is kept when the gate opens. -/
theorem openGate_keeps {P : Scheduler σ V α → Prop}
    (passes : ∀ (s : Scheduler σ V α) (id : Nat), P s → P (s.wake id fun st => st.pass?))
    (leaves : ∀ s : Scheduler σ V α, P s → P { s with gate := [] }) {s : Scheduler σ V α} (holds : P s) :
    P s.openGate := by
  have fold : ∀ (ids : List Nat) (s : Scheduler σ V α), P s →
      P (ids.foldl (fun s id => s.wake id fun st => st.pass?) s) := by
    intro ids
    induction ids with
    | nil => exact fun s holds => holds
    | cons id ids ih => exact fun s holds => ih _ (passes s id holds)
  exact leaves _ (fold s.gate s holds)

/-- Waking changes only the standing of a job, which waited for the gate or for a load. -/
theorem Wakes.seat {f : {β : Type} → Standing V β → Option (Standing V β)} {s s' : Scheduler σ V α}
    {id : Nat} (wakes : s.Wakes f s' id) :
    ∃ (β : Type) (wrap : Standing V β → Work V α) (st st' : Standing V β) (service : Nat)
      (cancelling : Bool), Seat V α β wrap ∧ s.job? id = some ⟨service, wrap st, cancelling⟩ ∧
      f st = some st' ∧
      ∀ k, s'.job? k = if k = id then some ⟨service, wrap st', cancelling⟩ else s.job? k := by
  obtain ⟨⟨service, work, cancelling⟩, work', at_, goes, job?_eq⟩ := wakes.job
  obtain ⟨β, wrap, st, seat, rfl⟩ := work.exists_seat
  rw [restand?_seat seat] at goes
  obtain ⟨st', roused, rfl⟩ := Option.map_eq_some_iff.mp goes
  exact ⟨β, wrap, st, st', service, cancelling, seat, at_, roused, job?_eq⟩

/-- A cancellation is in vain, or wakes the job, or is kept until its turn. -/
theorem cancel_cases (s : Scheduler σ V α) (id : Nat) :
    (s.cancel id).2 = s ∧ (∀ job, s.job? id = some job → job.work.phase = .ended) ∨
    ({ s with gate := s.gate.filter (· != id) } : Scheduler σ V α).Wakes
      (fun st => st.interrupt?) (s.cancel id).2 id ∨
    ∃ job, s.job? id = some job ∧ job.work.phase = .ready ∧
      (s.cancel id).2 = s.setJob id { job with cancelling := true } := by
  rw [cancel]
  split
  · next none => exact .inl ⟨rfl, fun job e => by cases none.symm.trans e⟩
  · next job at_ =>
    split
    · next ended =>
      refine .inl ⟨rfl, fun j e => ?_⟩
      obtain rfl : job = j := Option.some.inj (at_.symm.trans e)
      exact job.work.hasEnded_iff.mp ended
    · next live =>
      split
      · next work goes =>
        obtain wakes | ⟨stays, _⟩ := wake_cases
          ({ s with gate := s.gate.filter (· != id) } : Scheduler σ V α) id (fun st => st.interrupt?)
        · exact .inr (.inl wakes)
        · cases (stays job at_).symm.trans goes
      · next stays =>
        refine .inr (.inr ⟨job, at_, ?_, rfl⟩)
        obtain ⟨β, wrap, st, seat, e⟩ := job.work.exists_seat
        rw [e, restand?_seat seat, Option.map_eq_none_iff] at stays
        rw [e, seat.phase]
        refine (Standing.interrupt?_eq_none stays).resolve_right fun ended => live ?_
        rw [Work.hasEnded_iff, e, seat.phase]
        exact ended

end Scheduler

end Stencil
