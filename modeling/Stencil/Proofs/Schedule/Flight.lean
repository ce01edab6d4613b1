import Mathlib.Data.List.Nodup
import Stencil.Proofs.Schedule.Order

/-!
# Loads that requests share

What a request gets that asks for the load of a name, over any order of calls, ends of loads and
cancellations.

## Main definitions

- `Routine.call` — a request that only asks for a load
- `Scheduler.Calls` — the event at which a call runs
- `Scheduler.told?` — what those who wait for a load are told
- `Scheduler.Called` — a call that has run, with its load
-/

namespace Stencil

/-- A request that only asks for the load of a name. -/
def Routine.call {V : Type} (name path : Text) : Routine V V :=
  .share name path .finish

namespace Scheduler

variable {σ V α : Type} {h : Host σ V}

/-- What those who wait for a load are told once it has ended. -/
def told? (s : Scheduler σ V α) (l : Nat) : Option (Except Failure V) :=
  (s.job? l).bind fun job => job.work.landed?

/-- A load that has not ended. -/
def Unfinished (s : Scheduler σ V α) (key : Nat × Text) (l : Nat) : Prop :=
  ∃ job, s.job? l = some job ∧ job.key? = some key ∧ job.work.phase ≠ .ended

theorem lookup_of_mem {s : Scheduler σ V α} {key : Nat × Text} {l : Nat}
    (keys : (s.flights.map Prod.fst).Nodup) (mem : (key, l) ∈ s.flights) :
    s.flights.lookup key = some l := by
  cases found : s.flights.lookup key with
  | none => exact absurd (List.lookup_eq_none_iff.mp found _ mem) (by simp)
  | some l' =>
    have same := List.inj_on_of_nodup_map keys (mem_of_lookup found) mem rfl
    rw [(Prod.mk.inj same).2]

section

variable {s : Scheduler σ V α} (linked : s.Linked s.queue)

include linked

theorem Linked.lookup_of_unfinished {key : Nat × Text} {l : Nat} (live : s.Unfinished key l) :
    s.flights.lookup key = some l := by
  obtain ⟨job, at_, isLoad, live⟩ := live
  exact lookup_of_mem linked.keys (linked.flying l job key at_ isLoad live)

/-- **One load at a time**: two loads of a key that have not ended are the same. -/
theorem Linked.unfinished_unique {key : Nat × Text} {l l' : Nat} (live : s.Unfinished key l)
    (live' : s.Unfinished key l') : l = l' :=
  Option.some.inj ((linked.lookup_of_unfinished live).symm.trans (linked.lookup_of_unfinished live'))

/-- Once the loads that have ended are forgotten, those in flight are those that have not ended. -/
theorem Linked.flying_iff_unfinished (forgotten : ∀ l, .forget l ∉ s.queue) (key : Nat × Text) :
    (s.flights.lookup key).isSome ↔ ∃ l, s.Unfinished key l := by
  constructor
  · intro flying
    obtain ⟨l, flying⟩ := Option.isSome_iff_exists.mp flying
    obtain ⟨job, at_, isLoad⟩ := linked.flight key l (mem_of_lookup flying)
    refine ⟨l, job, at_, isLoad, fun ended => forgotten l ?_⟩
    have := linked.landed key l job (mem_of_lookup flying) at_ ended
    exact List.count_pos_iff.mp (by omega)
  · rintro ⟨l, live⟩
    rw [linked.lookup_of_unfinished live]
    rfl

end

/-! ### Loads that are to be forgotten -/

theorem wake_flights (s : Scheduler σ V α) (id : Nat)
    (f : {β : Type} → Standing V β → Option (Standing V β)) :
    (s.wake id f).flights = s.flights := by
  obtain wakes | ⟨_, e⟩ := s.wake_cases id f
  · exact wakes.flights
  · rw [e]

private theorem openGate_flights (s : Scheduler σ V α) : s.openGate.flights = s.flights := by
  refine openGate_keeps (P := fun t => t.flights = s.flights) (fun t id same => ?_)
    (fun _ same => same) rfl
  exact (wake_flights t id _).trans same

private theorem cancel_flights (s : Scheduler σ V α) (id : Nat) :
    (s.cancel id).2.flights = s.flights := by
  obtain ⟨e, _⟩ | wakes | ⟨job, _, _, e⟩ := s.cancel_cases id
  · rw [e]
  · exact wakes.flights
  · rw [e]
    rfl

private theorem Turns.flights {s s' : Scheduler σ V α} {id l : Nat} {key : Nat × Text}
    (turns : s.Turns h id s') (flying : (key, l) ∈ s'.flights) :
    (key, l) ∈ s.flights ∨ s.jobs.length ≤ l := by
  cases turns with
  | started acting grounded =>
    obtain flying | new := List.mem_append.mp flying
    · exact .inl flying
    · simp only [List.mem_singleton, Prod.mk.injEq] at new
      exact .inr (Nat.le_of_eq new.2.symm)
  | _ => exact .inl flying

/-- Only new loads come to be in flight. -/
theorem after_flights {s : Scheduler σ V α} {e : Event σ V α} {l : Nat} {key : Nat × Text}
    (flying : (key, l) ∈ (s.after h e).flights) : (key, l) ∈ s.flights ∨ s.jobs.length ≤ l := by
  cases e with
  | step =>
    cases queue : s.queue with
    | nil => exact .inl (by rwa [after, step_of_empty queue] at flying)
    | cons x rest =>
      rw [after, step_of_queue queue] at flying
      cases x with
      | turn id => exact (takeTurn_turns h { s with queue := rest } id).flights flying
      | forget l => exact .inl (List.mem_filter.mp flying).1
      | report id => exact .inl flying
      | relay l id =>
        rw [perform] at flying
        split at flying
        · exact .inl flying
        · exact .inl (by rwa [wake_flights] at flying)
  | submit service r => exact .inl flying
  | start service r =>
    refine ((takeTurn_turns h _ _).flights flying).imp_right fun new => ?_
    simp only [List.length_append] at new
    omega
  | cancel id => exact .inl (by rwa [after, cancel_flights] at flying)
  | openGate => exact .inl (by rwa [after, openGate_flights] at flying)
  | answer id a =>
    rw [after, answer] at flying
    exact .inl (by rwa [wake_flights] at flying)
  | update f => exact .inl flying

/-- The load `l` is forgotten, or will be before the job `id` has its next turn. -/
def Precedes (s : Scheduler σ V α) (l id : Nat) : Prop :=
  ∀ key, (key, l) ∈ s.flights → ∃ pre post, s.queue = pre ++ .turn id :: post ∧ .turn id ∉ pre ∧
    .forget l ∈ pre

theorem Precedes.after {s : Scheduler σ V α} {l id : Nat} (precedes : s.Precedes l id)
    (old : l < s.jobs.length) (e : Event σ V α) : (s.after h e).Precedes l id := by
  intro key flying
  obtain ⟨pre, post, queue, first, mem⟩ :=
    precedes key ((after_flights flying).resolve_right (Nat.not_le_of_lt old))
  obtain ⟨rfl, new, queue'⟩ | ⟨new, queue'⟩ := after_queue h s e
  · cases pre with
    | nil => cases mem
    | cons y pre =>
      rw [queue, List.cons_append, List.tail_cons, List.append_assoc, List.cons_append] at queue'
      refine ⟨pre, post ++ new, queue', fun mem => first (List.mem_cons_of_mem _ mem), ?_⟩
      refine (List.mem_cons.mp mem).resolve_left fun e => ?_
      -- otherwise the load was forgotten just now
      rw [Scheduler.after, step_of_queue queue, ← e] at flying
      simp [perform] at flying
  · exact ⟨pre, post ++ new, by rw [queue', queue, List.append_assoc]; rfl, first, mem⟩

/-- Jobs do not go away. -/
theorem lt_after {s : Scheduler σ V α} {id : Nat} (old : id < s.jobs.length) (e : Event σ V α) :
    id < (s.after h e).jobs.length := by
  obtain ⟨job', now, _⟩ := after_does (h := h) (List.getElem?_eq_getElem old) e
  exact lt_of_job? now

theorem Precedes.play {s : Scheduler σ V α} {l id : Nat} (precedes : s.Precedes l id)
    (old : l < s.jobs.length) (es : List (Event σ V α)) :
    (s.play h es).Precedes l id ∧ l < (s.play h es).jobs.length := by
  induction es generalizing s with
  | nil => exact ⟨precedes, old⟩
  | cons e es ih => exact ih (precedes.after old e) (lt_after old e)

/-- Whose turn it is finds the load forgotten. -/
theorem Precedes.forgotten {s : Scheduler σ V α} {l id : Nat} {rest : List Handle}
    (precedes : s.Precedes l id) (head : s.queue = .turn id :: rest) (key : Nat × Text) :
    (key, l) ∉ s.flights := by
  intro flying
  obtain ⟨pre, post, queue, first, mem⟩ := precedes key flying
  cases pre with
  | nil => cases mem
  | cons y pre =>
    rw [head, List.cons_append] at queue
    exact first ((List.cons.inj queue).1 ▸ List.mem_cons_self)

/-- Loads that have ended precede a request that is submitted later. -/
theorem Linked.precedes {s : Scheduler σ V α} (linked : s.Linked s.queue) {l : Nat} {job : Job V α}
    (at_ : s.job? l = some job) (ended : job.work.phase = .ended) (service : Nat) (r : Routine V α) :
    (s.submit service r).Precedes l s.jobs.length := by
  intro key flying
  refine ⟨s.queue, [], rfl, fun mem => ?_, ?_⟩
  · obtain ⟨_, at_⟩ := linked.known _ mem
    exact Nat.lt_irrefl _ (lt_of_job? at_)
  · have := linked.landed key l job flying at_ ended
    exact List.count_pos_iff.mp (by omega)

/-! ### The load of a call -/

/-- A turn brings no job but a load that was not in flight, for which the job waits whose turn it is. -/
private theorem Turns.new {s s' : Scheduler σ V α} {id l : Nat} {job : Job V α}
    (turns : s.Turns h id s') (new : s.job? l = none) (at_ : s'.job? l = some job) :
    ∃ key, job.key? = some key ∧ s.flights.lookup key = none ∧
      ∃ caller, s'.job? id = some caller ∧ caller.service = key.1 ∧ caller.work.phase = .waiting l := by
  have reseated : ∀ service (w : Work V α) x, (s.reseat id service w x).job? l ≠ some job := by
    intro service w x at_
    rw [job?_reseat, new] at at_
    split at at_ <;> cases at_
  cases turns with
  | idle => cases new.symm.trans at_
  | @ended _ service _ _ x _ => exact absurd at_ (reseated service _ x)
  | @held _ service _ _ _ x _ => exact absurd at_ (reseated service _ x)
  | @paused _ service _ _ _ x _ => exact absurd at_ (reseated service _ x)
  | joined =>
    rw [job?_join, new] at at_
    simp at at_
  | @started β service wrap name path next x acting grounded =>
    obtain ⟨caller, at_id, rfl, ready, same⟩ := acting.exists_job
    have lt := lt_of_job? at_id
    have other : l ≠ id := by
      rintro rfl
      cases new.symm.trans at_id
    rw [job?_start lt, if_neg other, new] at at_
    split at at_
    · next e =>
      obtain rfl := Option.some.inj at_
      refine ⟨(caller.service, name), rfl, grounded,
        { service := caller.service, work := wrap (.waiting l next) }, ?_, rfl, (same _).2.2⟩
      rw [job?_start lt, if_pos rfl, e]
    · cases at_

/-- A job that a turn brings is a load that has not begun, which the job asks for whose turn it is. -/
theorem Turns.started_of_new {s s' : Scheduler σ V α} {id l : Nat} {job : Job V α}
    (turns : s.Turns h id s') (new : s.job? l = none) (at_ : s'.job? l = some job) :
    ∃ (β : Type) (service : Nat) (wrap : Standing V β → Work V α) (name path : Text)
      (next : Except Failure V → Routine V β) (x : σ),
      s.Acting h id service wrap (.sharing name path next) x ∧
      job = ⟨service, .load name (.fresh (h.load service name path x)) [id], false⟩ := by
  have reseated : ∀ service (w : Work V α) x, (s.reseat id service w x).job? l ≠ some job := by
    intro service w x at_
    rw [job?_reseat, new] at at_
    split at at_ <;> cases at_
  cases turns with
  | idle => cases new.symm.trans at_
  | @ended _ service _ _ x _ => exact absurd at_ (reseated service _ x)
  | @held _ service _ _ _ x _ => exact absurd at_ (reseated service _ x)
  | @paused _ service _ _ _ x _ => exact absurd at_ (reseated service _ x)
  | joined =>
    rw [job?_join, new] at at_
    simp at at_
  | @started β service wrap name path next x acting grounded =>
    obtain ⟨caller, at_id, rfl, _, _⟩ := acting.exists_job
    have other : l ≠ id := by
      rintro rfl
      cases new.symm.trans at_id
    rw [job?_start (lt_of_job? at_id), if_neg other, new] at at_
    split at at_
    · exact ⟨_, _, _, name, path, next, x, acting, (Option.some.inj at_).symm⟩
    · cases at_

/-- A job that an event brings is a request that is submitted or begun, or a turn has brought it. -/
theorem turns_of_new {s : Scheduler σ V α} {e : Event σ V α} {l : Nat} {job : Job V α}
    (new : s.job? l = none) (at_ : (s.after h e).job? l = some job) :
    (l = s.jobs.length ∧ job.key? = none ∧ ∃ r, e = .submit job.service r ∨ e = .start job.service r) ∨
    ∃ (t : Scheduler σ V α) (id : Nat), t.Turns h id (s.after h e) ∧ t.job? l = none ∧
      t.flights = s.flights ∧ t.state = s.state ∧ ∀ k job, t.job? k = some job → s.job? k = some job ∨
        ∃ service r, e = .start service r ∧ job = ⟨service, .request (.fresh r), false⟩ := by
  have bound : s.jobs.length ≤ l := by simpa [job?] using new
  have lt := lt_of_job? at_
  -- all other events bring no job
  have grown : s.jobs.length < (s.after h e).jobs.length := Nat.lt_of_le_of_lt bound lt
  cases e with
  | step =>
    refine .inr ?_
    cases queue : s.queue with
    | nil =>
      rw [after, step_of_empty queue] at grown
      exact absurd grown (Nat.lt_irrefl _)
    | cons x rest =>
      rw [after, step_of_queue queue] at grown ⊢
      cases x with
      | turn id =>
        exact ⟨_, id, takeTurn_turns h { s with queue := rest } id, new, rfl, rfl, fun _ _ => .inl⟩
      | forget l => exact absurd grown (Nat.lt_irrefl _)
      | report id => exact absurd grown (Nat.lt_irrefl _)
      | relay l id =>
        rw [perform] at grown
        split at grown
        · exact absurd grown (Nat.lt_irrefl _)
        · rw [wake_length] at grown
          exact absurd grown (Nat.lt_irrefl _)
  | submit service r =>
    obtain rfl : l = s.jobs.length := by
      simp [after, submit, spawn, push] at lt
      omega
    obtain rfl : job = { service, work := .request (.fresh r) } := by
      simpa [after, submit, spawn, push, job?] using at_.symm
    exact .inl ⟨rfl, rfl, r, .inl rfl⟩
  | start service r =>
    have turns := takeTurn_turns h
      { s with jobs := s.jobs ++ [{ service, work := .request (.fresh r) }] } s.jobs.length
    by_cases e : l = s.jobs.length
    · subst e
      obtain ⟨st, cancelling, now⟩ := begin_job? h s service r
      obtain rfl := Option.some.inj (now.symm.trans at_)
      exact .inl ⟨rfl, rfl, r, .inr rfl⟩
    · have new' : Scheduler.job? { s with jobs := s.jobs ++ [{ service, work := .request (.fresh r) }] }
          l = none := by
        simp only [job?, List.getElem?_eq_none_iff, List.length_append, List.length_singleton]
        omega
      refine .inr ⟨_, _, turns, new', rfl, rfl, fun k job at_ => ?_⟩
      rw [job?, List.getElem?_append] at at_
      split at at_
      · exact .inl at_
      · obtain rfl := List.mem_singleton.mp (List.mem_of_getElem? at_)
        exact .inr ⟨service, r, rfl, rfl⟩
  | cancel id =>
    rw [after, cancel_length] at grown
    exact absurd grown (Nat.lt_irrefl _)
  | openGate =>
    rw [after, openGate_length] at grown
    exact absurd grown (Nat.lt_irrefl _)
  | answer id a =>
    rw [after, answer, wake_length] at grown
    exact absurd grown (Nat.lt_irrefl _)
  | update f => exact absurd grown (Nat.lt_irrefl _)

/-- **What an event can bring**: a request, if it is submitted or begun, or else a load that was not in
flight before, and who asked for it waits for it. -/
theorem after_new {s : Scheduler σ V α} {e : Event σ V α} {l : Nat} {job : Job V α}
    (new : s.job? l = none) (at_ : (s.after h e).job? l = some job) :
    (l = s.jobs.length ∧ job.key? = none ∧ ∃ r, e = .submit job.service r ∨ e = .start job.service r) ∨
    ∃ key, job.key? = some key ∧ s.flights.lookup key = none ∧
      ∃ id caller, (s.after h e).job? id = some caller ∧ caller.service = key.1 ∧
        caller.work.phase = .waiting l := by
  refine (turns_of_new new at_).imp_right fun ⟨t, id, turns, new', same, _⟩ => ?_
  obtain ⟨key, isLoad, grounded, waits⟩ := turns.new new' at_
  exact ⟨key, isLoad, same ▸ grounded, id, waits⟩

/-- **Loads are started for calls that find none**: a load that an event brings was not in flight
before, and who asked for it waits for it. -/
theorem after_loads {s : Scheduler σ V α} {e : Event σ V α} {l : Nat} {job : Job V α}
    {key : Nat × Text} (new : s.job? l = none) (at_ : (s.after h e).job? l = some job)
    (isLoad : job.key? = some key) : s.flights.lookup key = none ∧
      ∃ id caller, (s.after h e).job? id = some caller ∧ caller.service = key.1 ∧
        caller.work.phase = .waiting l := by
  obtain ⟨_, isRequest, _⟩ | ⟨key', isLoad', waits⟩ := after_new (h := h) new at_
  · cases isRequest.symm.trans isLoad
  · obtain rfl := Option.some.inj (isLoad.symm.trans isLoad')
    exact waits

end Scheduler

/-! ### What a call gets -/

/-- Where a call stands that has found or started the load `l`, of which is told `told`. -/
inductive Standing.Awaits {V : Type} (l : Nat) (told : Option (Except Failure V)) :
    Standing V V → Prop where
  | waiting : Awaits l told (.waiting l .finish)
  | landed {o : Except Failure V} (same : told = some o) : Awaits l told (.landed o .finish)
  | ended {o : Except Failure V} (same : told = some o) : Awaits l told (.ended o)

namespace Scheduler

variable {σ V : Type} {h : Host σ V} {s : Scheduler σ V V}

/-- The event at which the call of a request runs that was not cancelled: its first turn, or the
beginning of one that is begun at once. -/
inductive Calls (s : Scheduler σ V V) (id : Nat) (key : Nat × Text) : Event σ V V → Prop where
  | turn {path : Text} {rest : List Handle} (head : s.queue = .turn id :: rest)
      (fresh : s.job? id = some ⟨key.1, .request (.fresh (.call key.2 path)), false⟩) :
      Calls s id key .step
  | now {path : Text} (next : id = s.jobs.length) : Calls s id key (.start key.1 (.call key.2 path))

/-- A call that has run, with the load that it has found or started. -/
def Called (s : Scheduler σ V V) (id l : Nat) : Prop :=
  ∃ service st, s.job? id = some ⟨service, .request st, false⟩ ∧ st.Awaits l (s.told? l)

theorem told?_after {α : Type} {s : Scheduler σ V α} {l : Nat} {o : Except Failure V}
    (told : s.told? l = some o) (e : Event σ V α) : (s.after h e).told? l = some o := by
  obtain ⟨job, at_, landed⟩ := Option.bind_eq_some_iff.mp told
  obtain ⟨job', now, _, landed'⟩ := play_landed (h := h) [e] at_ landed
  exact Option.bind_eq_some_iff.mpr ⟨job', now, landed'⟩

theorem Called.after {id l : Nat} (called : s.Called id l) {e : Event σ V V} (spared : e ≠ .cancel id) :
    (s.after h e).Called id l := by
  obtain ⟨service, st, at_, awaits⟩ := called
  have told : ∀ o, s.told? l = some o → (s.after h e).told? l = some o :=
    fun o told => told?_after told e
  obtain ⟨job', now, does⟩ := after_does (h := h) at_ e
  cases does with
  | rests still =>
    rw [Job.eq_of_bare still rfl] at now
    refine ⟨service, st, now, ?_⟩
    cases awaits with
    | waiting => exact .waiting
    | landed same => exact .landed (told _ same)
    | ended same => exact .ended (told _ same)
  | acts load head seat is goes =>
    cases seat <;> simp at is
    obtain ⟨rfl, rfl, rfl⟩ := is
    cases awaits with
    | waiting => simp [Host.turn] at goes
    | ended => simp [Host.turn] at goes
    | @landed o same =>
      simp only [Host.turn, Host.advance, Bool.false_eq_true, if_false, Option.some.injEq,
        Prod.mk.injEq] at goes
      obtain ⟨rfl, _⟩ := goes
      exact ⟨service, _, now, .ended (told o same)⟩
  | told head seat is at_l lands =>
    cases seat <;> simp at is
    obtain ⟨rfl, rfl, rfl⟩ := is
    cases awaits
    exact ⟨service, _, now, .landed (told _ (by rw [told?, at_l]; exact lands))⟩
  | addressed own =>
    obtain own | ⟨held, _⟩ := own
    · exact absurd own spared
    · cases awaits <;> simp [Work.phase, Standing.phase] at held

theorem Called.play {id l : Nat} (called : s.Called id l) {es : List (Event σ V V)}
    (spared : .cancel id ∉ es) : (s.play h es).Called id l := by
  induction es generalizing s with
  | nil => exact called
  | cons e es ih =>
    rw [List.mem_cons, not_or] at spared
    exact ih (called.after fun e' => spared.1 e'.symm) spared.2

theorem Called.outcome? {id l : Nat} (called : s.Called id l) {o : Except Failure V}
    (now : s.outcome? id = some o) : s.told? l = some o := by
  obtain ⟨service, st, at_, awaits⟩ := called
  rw [Scheduler.outcome?, at_] at now
  cases awaits with
  | waiting => cases now
  | landed => cases now
  | ended same => exact same.trans now

/-- A call has to wait for a load that has not landed. -/
private theorem turn_call_aloft {service : Nat} {landed : Text → Option (Except Failure V)}
    {name : Text} (path : Text) (x : σ) (aloft : landed name = none) :
    h.turn service landed false (.fresh (.call name path)) x = some (.sharing name path .finish, x) := by
  simp [Host.turn, Routine.call, Host.advance, aloft]

/-- A call ends at once with what a load that has landed tells. -/
private theorem turn_call_landed {service : Nat} {landed : Text → Option (Except Failure V)}
    {name : Text} (path : Text) (x : σ) {o : Except Failure V} (down : landed name = some o) :
    h.turn service landed false (.fresh (.call name path)) x =
      some (.ended o, h.act service (.note (.joined name)) x) := by
  simp [Host.turn, Routine.call, Host.advance, down]

/-- The load of a call whose turn it is. -/
private theorem takeTurn_called {id : Nat} {key : Nat × Text} {path : Text}
    (flight : ∀ key l, (key, l) ∈ s.flights → ∃ job, s.job? l = some job ∧ job.key? = some key)
    (at_ : s.job? id = some ⟨key.1, .request (.fresh (.call key.2 path)), false⟩) :
    ∃ l, (s.flights.lookup key = some l ∨ s.flights.lookup key = none ∧ s.job? l = none) ∧
      (∃ load, (s.takeTurn h id).job? l = some load ∧ load.key? = some key) ∧
      (s.takeTurn h id).Called id l ∧
      ∀ o, s.told? l = some o → (s.takeTurn h id).outcome? id = some o := by
  -- it has to wait unless its load has landed
  have waits : s.landed? key.1 key.2 = none → (s.takeTurn h id).job? id = some ⟨key.1,
      .request (.waiting ((s.flights.lookup key).getD s.jobs.length) .finish), false⟩ := by
    intro aloft
    exact takeTurn_job? .request at_ (turn_call_aloft path s.state aloft)
  cases flying : s.flights.lookup key with
  | none =>
    have aloft : s.landed? key.1 key.2 = none := by simp [landed?, flying]
    have now := waits aloft
    rw [flying, Option.getD_none] at now
    have new : s.job? s.jobs.length = none := by simp [job?]
    refine ⟨s.jobs.length, .inr ⟨rfl, new⟩, ?_, ⟨key.1, _, now, .waiting⟩, ?_⟩
    · refine ⟨{ service := key.1, work := .load key.2 (.fresh (h.load key.1 key.2 path s.state)) [id] },
        ?_, rfl⟩
      have lt := lt_of_job? at_
      rw [takeTurn_of_some .request at_ (turn_call_aloft path s.state aloft), settle, join]
      simp [reseat, flying, spawn, push, setWork, job?, Nat.ne_of_lt lt]
    · intro o told
      rw [told?, new] at told
      cases told
  | some l =>
    obtain ⟨load, at_l, isLoad⟩ := flight key l (mem_of_lookup flying)
    have other : l ≠ id := by
      rintro rfl
      rw [Option.some.inj (at_l.symm.trans at_)] at isLoad
      cases isLoad
    obtain ⟨load', now_l, same⟩ := (takeTurn_turns h s id).job?_other other at_l
    have told : ∀ {o}, load.work.landed? = some o → (s.takeTurn h id).told? l = some o := by
      intro o landed
      rw [told?, now_l, Option.bind_some, Job.landed?_of_bare same, landed]
    refine ⟨l, .inl rfl, ⟨load', now_l, (Job.key?_of_bare same).trans isLoad⟩, ?_⟩
    have told_s : s.told? l = load.work.landed? := by rw [told?, at_l, Option.bind_some]
    cases landed : load.work.landed? with
    | none =>
      have now := waits (by simp [landed?, flying, at_l, landed])
      rw [flying, Option.getD_some] at now
      exact ⟨⟨key.1, _, now, .waiting⟩, fun o told => by cases (told_s.trans landed).symm.trans told⟩
    | some o =>
      have down : s.landed? key.1 key.2 = some o := by simp [landed?, flying, at_l, landed]
      have now := takeTurn_job? .request at_ (turn_call_landed (h := h) path s.state down)
      refine ⟨⟨key.1, _, now, .ended (told landed)⟩, fun o' told => ?_⟩
      obtain rfl := Option.some.inj ((told_s.trans landed).symm.trans told)
      rw [Scheduler.outcome?, now]
      rfl

/-- A call finds a load of its key or starts one. If the load has landed, the call ends with it. -/
theorem Calls.begins (linked : s.Linked s.queue) {id : Nat} {key : Nat × Text} {e : Event σ V V}
    (calls : s.Calls id key e) :
    ∃ l, (s.flights.lookup key = some l ∨ s.flights.lookup key = none ∧ s.job? l = none) ∧
      (∃ load, (s.after h e).job? l = some load ∧ load.key? = some key) ∧
      (s.after h e).Called id l ∧
      ∀ o, s.told? l = some o → (s.after h e).outcome? id = some o := by
  cases calls with
  | @turn path rest head fresh =>
    rw [after, step_of_queue head]
    exact takeTurn_called (s := { s with queue := rest }) linked.flight fresh
  | @now path next =>
    subst next
    let begun : Scheduler σ V V := { s with
      jobs := s.jobs ++ [{ service := key.1, work := .request (.fresh (.call key.2 path)) }] }
    have flight : ∀ key' l, (key', l) ∈ begun.flights →
        ∃ job, begun.job? l = some job ∧ job.key? = some key' := by
      intro key' l mem
      obtain ⟨job, at_, isLoad⟩ := linked.flight key' l mem
      refine ⟨job, ?_, isLoad⟩
      rw [← at_, job?, List.getElem?_append_left (lt_of_job? at_), job?]
    have fresh : begun.job? s.jobs.length =
        some ⟨key.1, .request (.fresh (.call key.2 path)), false⟩ := by simp [begun, job?]
    obtain ⟨l, found, load, called, lands⟩ := takeTurn_called (h := h) flight fresh
    refine ⟨l, ?_, load, called, fun o told => ?_⟩
    · refine found.imp_right fun grounded => ⟨grounded.1, ?_⟩
      have new := grounded.2
      simp only [begun, job?, List.getElem?_eq_none_iff, List.length_append] at new ⊢
      omega
    · refine lands o ?_
      obtain ⟨job, at_, landed⟩ := Option.bind_eq_some_iff.mp told
      rw [told?, job?, List.getElem?_append_left (lt_of_job? at_)]
      exact told

/-- The request has ended with an outcome, and this was reported once. -/
def Completed {α : Type} (s : Scheduler σ V α) (id : Nat) (o : Except Failure α) : Prop :=
  s.outcome? id = some o ∧ s.reported.count id = 1

/-- Who has ended with an outcome is reported once, and stays so. -/
theorem Linked.completes {α : Type} {s : Scheduler σ V α} (linked : s.Linked s.queue)
    {id service : Nat} {cancelling : Bool} {o : Except Failure α}
    (at_ : s.job? id = some ⟨service, .request (.ended o), cancelling⟩) :
    ∃ N, ∀ n, N ≤ n → (s.steps h n).Completed id o := by
  have ended : ∀ n, (s.steps h n).job? id = some ⟨service, .request (.ended o), cancelling⟩ := by
    intro n
    induction n generalizing s with
    | zero => exact at_
    | succ n ih =>
      obtain ⟨job, now, same⟩ := after_ended (h := h) at_ rfl .step
      rw [Job.eq_of_bare same rfl] at now
      exact ih (linked.after .step) now
  have grows : ∀ m n, (s.steps h m).reported.count id ≤ (s.steps h (m + n)).reported.count id := by
    intro m n
    induction n with
    | zero => exact Nat.le_refl _
    | succ n ih =>
      obtain ⟨new, e⟩ := step_reported h (s.steps h (m + n))
      rw [← Nat.add_assoc, steps_add h (m + n) 1, steps_succ, steps_zero, e, List.count_append]
      omega
  have once : ∀ n, (s.steps h n).queue.count (.report id) + (s.steps h n).reported.count id = 1 :=
    fun n => linked.play.reported id _ (ended n) rfl rfl
  obtain ⟨N, told⟩ : ∃ N, (s.steps h N).reported.count id = 1 := by
    by_cases mem : .report id ∈ s.queue
    · obtain ⟨pre, post, queue⟩ := List.append_of_mem mem
      obtain ⟨new, front, _⟩ := steps_to (h := h) (P := fun _ => True) pre
        (fun _ _ _ _ _ _ => trivial) queue trivial
      refine ⟨pre.length + 1, ?_⟩
      have told : (s.steps h (pre.length + 1)).reported.count id =
          (s.steps h pre.length).reported.count id + 1 := by
        rw [steps_add, steps_succ, steps_zero, step_of_queue front, perform]
        simp
      have := once (pre.length + 1)
      omega
    · have := once 0
      rw [steps_zero, List.count_eq_zero.mpr mem] at this
      exact ⟨0, by rw [steps_zero]; omega⟩
  refine ⟨N, fun n le => ⟨?_, ?_⟩⟩
  · rw [Scheduler.outcome?, ended n]
    rfl
  · have grown := grows N (n - N)
    rw [Nat.add_sub_cancel' le] at grown
    have := once n
    omega

private theorem completes_later {α : Type} {s : Scheduler σ V α} {id : Nat} {o : Except Failure α}
    (m : Nat) (later : ∃ N, ∀ n, N ≤ n → ((s.steps h m).steps h n).Completed id o) :
    ∃ N, ∀ n, N ≤ n → (s.steps h n).Completed id o := by
  obtain ⟨N, later⟩ := later
  refine ⟨m + N, fun n le => ?_⟩
  have := later (n - m) (by omega)
  rwa [← steps_add, Nat.add_sub_cancel' (by omega)] at this

/-- A call completes once its load has ended. -/
theorem Called.completes (linked : s.Linked s.queue) {id l : Nat} (called : s.Called id l)
    {o : Except Failure V} (told : s.told? l = some o) :
    ∃ N, ∀ n, N ≤ n → (s.steps h n).Completed id o := by
  have landed : ∀ {s : Scheduler σ V V} {service : Nat}, s.Linked s.queue →
      s.job? id = some ⟨service, .request (.landed o .finish), false⟩ →
      ∃ N, ∀ n, N ≤ n → (s.steps h n).Completed id o := by
    intro s service linked at_
    obtain ⟨n, rest, job, head, now, same⟩ := turn_comes (h := h) linked at_ rfl
    rw [Job.eq_of_bare same rfl] at now
    have ended : (s.steps h (n + 1)).job? id = some ⟨service, .request (.ended o), false⟩ := by
      rw [steps_add, steps_succ, steps_zero, step_of_queue head]
      exact takeTurn_job? (s := { s.steps h n with queue := rest }) .request now rfl
    exact completes_later (n + 1) (linked.play.completes ended)
  obtain ⟨service, st, at_, awaits⟩ := called
  cases awaits with
  | waiting =>
    obtain ⟨load, at_l, lands⟩ := Option.bind_eq_some_iff.mp told
    obtain ⟨n, now⟩ := news_comes (h := h) linked at_ at_l lands
    exact completes_later n (landed linked.play now)
  | landed same =>
    obtain rfl := Option.some.inj (same.symm.trans told)
    exact landed linked at_
  | ended same =>
    obtain rfl := Option.some.inj (same.symm.trans told)
    exact linked.completes at_

end Scheduler

end Stencil
