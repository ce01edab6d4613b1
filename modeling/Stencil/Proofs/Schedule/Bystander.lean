import Stencil.Proofs.Schedule.Flight

/-!
# Cancelled calls and the others

A call that has run only waits for its load. Cancelling it changes nothing for anybody else: the
scheduler goes on as it would have, apart from the entries that concern the call.

## Main definitions

- `Scheduler.without` — the scheduler as those see it who are not in a list of calls
- `Standing.Spent` — the standing of a call that has run
- `Event.outside?` — whether an event is none of the scheduler's own

## Design notes

Two schedulers that are the same without some calls differ in what these calls have in the queue. So
two runs of them match event by event, except that the entries of the calls are performed in between.
-/

namespace Stencil

/-- Where a call stands that has run, cancelled or not. -/
inductive Standing.Spent {V : Type} : Standing V V → Prop where
  | waiting (l : Nat) : Spent (.waiting l .finish)
  | landed (o : Except Failure V) : Spent (.landed o .finish)
  | resumed (o : Except Failure V) : Spent (.resumed (.finish o))
  | ended (o : Except Failure V) : Spent (.ended o)

/-- Work without some of those who wait for it. -/
def Work.unawaited {V α : Type} (gone : List Nat) : Work V α → Work V α
  | .request st => .request st
  | .load name st waiters => .load name st (waiters.filter (· ∉ gone))

/-- A job as others see it: of one that is gone they see that it is over. -/
def Job.unawaited {V α : Type} (gone : List Nat) (id : Nat) (job : Job V α) : Job V α :=
  if id ∈ gone then { service := job.service, work := .request (.ended (.error .cancelled)) }
  else { job with work := job.work.unawaited gone }

/-- An entry of the queue that concerns a job that is gone. -/
def Handle.concerns (gone : List Nat) : Handle → Bool
  | turn id => id ∈ gone
  | forget _ => false
  | relay _ id => id ∈ gone
  | report id => id ∈ gone

namespace Work

variable {V α : Type} (gone : List Nat)

@[simp] theorem hasEnded_unawaited (w : Work V α) : (w.unawaited gone).hasEnded = w.hasEnded := by
  cases w <;> rfl

@[simp] theorem landed?_unawaited (w : Work V α) : (w.unawaited gone).landed? = w.landed? := by
  cases w with
  | request st => rfl
  | load name st waiters => cases st <;> first | rfl | (rename_i o; cases o <;> rfl)

theorem restand?_unawaited (f : {β : Type} → Standing V β → Option (Standing V β)) (w : Work V α) :
    (w.unawaited gone).restand? f = (w.restand? f).map (unawaited gone) := by
  cases w <;> simp [restand?, unawaited, Function.comp_def]

theorem joinedBy_unawaited {id : Nat} (stays : id ∉ gone) (w : Work V α) :
    (w.joinedBy id).unawaited gone = (w.unawaited gone).joinedBy id := by
  cases w <;> simp [joinedBy, unawaited, stays]

theorem unawaited_unawaited {some_ : List Nat} (sub : some_ ⊆ gone) (w : Work V α) :
    (w.unawaited some_).unawaited gone = w.unawaited gone := by
  cases w with
  | request st => rfl
  | load name st waiters =>
    simp only [unawaited, List.filter_filter, load.injEq, true_and]
    refine List.filter_congr fun k _ => ?_
    have := @sub k
    grind

theorem endHandles_unawaited {id : Nat} (stays : id ∉ gone) (w : Work V α) :
    (w.endHandles id).filter (!·.concerns gone) = (w.unawaited gone).endHandles id := by
  cases w with
  | request st => simp [endHandles, unawaited, Handle.concerns, stays]
  | load name st waiters =>
    simp [endHandles, unawaited, Handle.concerns, List.filter_map, Function.comp_def]

end Work

theorem Seat.unawaited {V α β : Type} {wrap : Standing V β → Work V α} (gone : List Nat)
    (seat : Seat V α β wrap) : Seat V α β fun st => (wrap st).unawaited gone := by
  cases seat with
  | request => exact .request
  | load name waiters => exact .load name _

namespace Scheduler

variable {σ V α : Type} {h : Host σ V} {s s' : Scheduler σ V α} {gone : List Nat}

/-- The scheduler as those see it who are not gone. -/
def without (s : Scheduler σ V α) (gone : List Nat) : Scheduler σ V α :=
  { s with
    jobs := s.jobs.mapIdx (Job.unawaited gone)
    queue := s.queue.filter (!·.concerns gone)
    gate := s.gate.filter (· ∉ gone)
    reported := s.reported.filter (· ∉ gone) }

theorem job?_without (s : Scheduler σ V α) (gone : List Nat) (k : Nat) :
    (s.without gone).job? k = (s.job? k).map (Job.unawaited gone k) := by
  simp [job?, without]

theorem job?_without_stays {id : Nat} (stays : id ∉ gone) (s : Scheduler σ V α) :
    (s.without gone).job? id = (s.job? id).map fun job =>
      { job with work := job.work.unawaited gone } := by
  rw [job?_without]
  cases s.job? id <;> simp [Job.unawaited, stays]

theorem length_without (s : Scheduler σ V α) (gone : List Nat) :
    (s.without gone).jobs.length = s.jobs.length := by
  simp [without]

theorem without_without {some_ : List Nat} (sub : some_ ⊆ gone) (s : Scheduler σ V α) :
    (s.without some_).without gone = s.without gone := by
  simp only [without, mk.injEq, true_and, List.filter_filter]
  have absent : ∀ ks : List Nat,
      ks.filter (fun k => decide (k ∉ gone) && decide (k ∉ some_)) = ks.filter (· ∉ gone) := by
    refine fun ks => List.filter_congr fun k _ => ?_
    have := @sub k
    grind
  refine ⟨List.ext_getElem? fun k => ?_, ?_, absent _, absent _⟩
  · simp only [List.getElem?_mapIdx, Option.map_map]
    refine congrArg (Option.map · _) (funext fun job => ?_)
    by_cases e : k ∈ gone
    · by_cases e' : k ∈ some_ <;> simp [Job.unawaited, e, e']
    · have e' : k ∉ some_ := fun mem => e (sub mem)
      simp [Job.unawaited, e, e', Work.unawaited_unawaited gone sub]
  · refine List.filter_congr fun x _ => ?_
    cases x <;> simp only [Handle.concerns] <;> have := @sub <;> grind

/-! ### What is done to the others -/

private theorem mapIdx_modify (jobs : List (Job V α)) (id : Nat) (f g : Job V α → Job V α)
    (same : ∀ job, Job.unawaited gone id (f job) = g (Job.unawaited gone id job)) :
    (jobs.modify id f).mapIdx (Job.unawaited gone) = (jobs.mapIdx (Job.unawaited gone)).modify id g := by
  refine List.ext_getElem? fun k => ?_
  simp only [List.getElem?_mapIdx, List.getElem?_modify]
  by_cases e : id = k
  · subst e
    cases jobs[id]? <;> simp [same]
  · simp [e]

theorem without_setWork {id : Nat} (stays : id ∉ gone) (s : Scheduler σ V α) (w : Work V α) :
    (s.setWork id w).without gone = (s.without gone).setWork id (w.unawaited gone) := by
  simp only [without, setWork, mk.injEq, true_and, and_true]
  exact mapIdx_modify _ _ _ _ fun job => by simp [Job.unawaited, stays]

theorem without_setJob {id : Nat} (stays : id ∉ gone) (s : Scheduler σ V α) (job : Job V α) :
    (s.setJob id job).without gone =
      (s.without gone).setJob id { job with work := job.work.unawaited gone } := by
  simp only [without, setJob, mk.injEq, true_and, and_true, List.mapIdx_set]
  simp [Job.unawaited, stays]

theorem without_push {x : Handle} (stays : x.concerns gone = false) (s : Scheduler σ V α) :
    (s.push x).without gone = (s.without gone).push x := by
  simp [without, push, stays]

theorem without_reseat {id : Nat} (stays : id ∉ gone) (s : Scheduler σ V α) (service : Nat)
    (w : Work V α) (x : σ) :
    (s.reseat id service w x).without gone =
      (s.without gone).reseat id service (w.unawaited gone) x := by
  have := without_setJob stays s { service, work := w }
  simp only [without, setJob, reseat, mk.injEq, true_and, and_true] at this ⊢
  exact this

theorem without_wake {id : Nat} (stays : id ∉ gone) (s : Scheduler σ V α)
    (f : {β : Type} → Standing V β → Option (Standing V β)) :
    (s.wake id f).without gone = (s.without gone).wake id f := by
  rw [wake, wake, job?_without_stays stays]
  cases at_ : s.job? id with
  | none => rfl
  | some job =>
    simp only [Option.bind_some, Option.map_some, Work.restand?_unawaited]
    cases job.work.restand? f with
    | none => rfl
    | some w =>
      change ((s.setWork id w).push (.turn id)).without gone = _
      rw [without_push (by simp [Handle.concerns, stays]), without_setWork stays]
      rfl

theorem without_ending {id : Nat} (stays : id ∉ gone) (s : Scheduler σ V α) :
    (s.ending id).without gone = (s.without gone).ending id := by
  rw [ending, ending, job?_without_stays stays]
  cases at_ : s.job? id with
  | none => exact without_push (by simp [Handle.concerns, stays]) s
  | some job =>
    obtain ⟨service, work, cancelling⟩ := job
    cases work with
    | request st => exact without_push (by simp [Handle.concerns, stays]) s
    | load name st waiters =>
      have := Work.endHandles_unawaited gone stays (.load name st waiters : Work V α)
      simp only [Work.endHandles, Work.unawaited] at this
      simp only [Option.map_some, Work.unawaited, without, List.filter_append, this]

theorem without_join {id : Nat} (stays : id ∉ gone) (later : ∀ k ∈ gone, k < s.jobs.length)
    (service : Nat) (name path : Text) (wait wait' : Nat → Work V α)
    (same : ∀ l, (wait l).unawaited gone = wait' l)
    (loads : ∀ l, ((service, name), l) ∈ s.flights → l ∉ gone) :
    (s.join h id service name path wait).without gone =
      (s.without gone).join h id service name path wait' := by
  have flights : (s.without gone).flights = s.flights := rfl
  rw [join, join, flights]
  cases flying : s.flights.lookup (service, name) with
  | some l =>
    have stays_l := loads l (mem_of_lookup flying)
    simp only
    rw [without_setWork stays, same]
    congr 1
    simp only [without, mk.injEq, true_and, and_true]
    exact mapIdx_modify _ _ _ _ fun job => by
      simp [Job.unawaited, stays_l, Work.joinedBy_unawaited gone stays]
  | none =>
    have fresh : s.jobs.length ∉ gone := fun mem => Nat.lt_irrefl _ (later _ mem)
    simp only
    rw [without_setWork stays, same, length_without]
    congr 1
    simp [without, spawn, push, Job.unawaited, Work.unawaited, Handle.concerns, fresh, stays,
      List.mapIdx_append]

theorem without_settle {β : Type} {id : Nat} (stays : id ∉ gone)
    (later : ∀ k ∈ gone, k < s.jobs.length) (loads : ∀ key l, (key, l) ∈ s.flights → l ∉ gone)
    (service : Nat) (wrap : Standing V β → Work V α) (halt : Halt V β) :
    (settle h s id service wrap halt).without gone =
      settle h (s.without gone) id service (fun st => (wrap st).unawaited gone) halt := by
  cases halt with
  | ended o => simp only [settle, without_ending stays, without_setWork stays]
  | held path next =>
    simp only [settle, ← without_setWork stays]
    simp [without, setWork, stays]
  | paused path next =>
    simp only [settle, ← without_setWork stays]
    exact without_push (by simp [Handle.concerns, stays]) _
  | sharing name path next => exact without_join stays later _ _ _ _ _ (fun _ => rfl) fun l => loads _ l

/-- The turn of a job that is not gone is the same without those that are. -/
theorem without_takeTurn {id : Nat} (stays : id ∉ gone) (later : ∀ k ∈ gone, k < s.jobs.length)
    (loads : ∀ key l, (key, l) ∈ s.flights → l ∉ gone) :
    (s.takeTurn h id).without gone = (s.without gone).takeTurn h id := by
  have landed : ∀ service, (s.without gone).landed? service = s.landed? service := by
    intro service
    funext name
    cases flying : s.flights.lookup (service, name) with
    | none => simp [landed?, without, flying]
    | some l =>
      have stays_l := loads _ l (mem_of_lookup flying)
      have flying' : (s.without gone).flights.lookup (service, name) = some l := flying
      simp only [landed?, flying, flying', Option.bind_eq_bind, Option.bind_some,
        job?_without_stays stays_l]
      cases s.job? l <;> simp
  have at_without := job?_without_stays stays s
  cases at_ : s.job? id with
  | none =>
    rw [at_] at at_without
    rw [takeTurn, takeTurn, at_, at_without]
    rfl
  | some job =>
    obtain ⟨service, work, cancelling⟩ := job
    obtain ⟨β, wrap, st, seat, rfl⟩ := work.exists_seat
    rw [at_, Option.map_some] at at_without
    have seat' := seat.unawaited gone
    cases goes : h.turn service (s.landed? service) cancelling st s.state with
    | none =>
      rw [takeTurn_of_none seat at_ goes]
      rw [← landed service] at goes
      rw [takeTurn_of_none seat' at_without goes]
    | some stop =>
      obtain ⟨halt, x⟩ := stop
      rw [takeTurn_of_some seat at_ goes]
      rw [← landed service] at goes
      rw [takeTurn_of_some seat' at_without goes]
      rw [without_settle (s := s.reseat id service (wrap st) x) stays (by simpa [reseat] using later)
        loads, without_reseat stays]

/-! ### What is done to those that are gone -/

theorem without_push_gone {x : Handle} (own : x.concerns gone = true) (s : Scheduler σ V α) :
    (s.push x).without gone = s.without gone := by
  simp [without, push, own]

theorem without_setWork_gone {id : Nat} (own : id ∈ gone) (s : Scheduler σ V α) (w : Work V α) :
    (s.setWork id w).without gone = s.without gone := by
  simp only [without, setWork, mk.injEq, true_and, and_true]
  rw [mapIdx_modify s.jobs id _ (fun job => job) fun job => by simp [Job.unawaited, own]]
  exact List.modify_id _ _

theorem without_wake_gone {id : Nat} (own : id ∈ gone) (s : Scheduler σ V α)
    (f : {β : Type} → Standing V β → Option (Standing V β)) :
    (s.wake id f).without gone = s.without gone := by
  rw [wake]
  split
  · rfl
  · rw [without_push_gone (by simp [Handle.concerns, own]), without_setWork_gone own]

/-- A change that leaves alone who has ended is the same without those that are gone. -/
theorem without_wake_any (f : {β : Type} → Standing V β → Option (Standing V β))
    (spares : ∀ o, f (.ended o : Standing V α) = none) (s : Scheduler σ V α) (id : Nat) :
    (s.wake id f).without gone = (s.without gone).wake id f := by
  by_cases own : id ∈ gone
  · rw [without_wake_gone own, wake, job?_without]
    cases at_ : s.job? id with
    | none => rfl
    | some job => simp [Job.unawaited, own, Work.restand?, spares]
  · exact without_wake own s f

end Scheduler

namespace Scheduler

variable {σ V : Type} {h : Host σ V} {s s' : Scheduler σ V V} {gone : List Nat}

/-- A call that has run, cancelled or not. -/
def Ran (s : Scheduler σ V V) (id : Nat) : Prop :=
  ∃ service st cancelling, s.job? id = some ⟨service, .request st, cancelling⟩ ∧ st.Spent

theorem Ran.after {id : Nat} (ran : s.Ran id) (e : Event σ V V) : (s.after h e).Ran id := by
  obtain ⟨service, st, cancelling, at_, spent⟩ := ran
  obtain ⟨job', now, does⟩ := after_does (h := h) at_ e
  cases does with
  | rests still =>
    rw [Job.eq_of_bare still rfl] at now
    exact ⟨service, st, cancelling, now, spent⟩
  | acts load head seat is goes =>
    cases seat <;> simp at is
    obtain ⟨rfl, rfl, rfl⟩ := is
    cases spent <;> simp [Host.turn, Host.advance] at goes
    · obtain ⟨rfl, _⟩ := goes
      exact ⟨service, _, _, now, .ended _⟩
    · obtain ⟨rfl, _⟩ := goes
      exact ⟨service, _, _, now, .ended _⟩
  | told head seat is at_l lands =>
    cases seat <;> simp at is
    obtain ⟨rfl, rfl, rfl⟩ := is
    cases spent
    exact ⟨service, _, _, now, .landed _⟩
  | addressed own =>
    obtain rfl | ⟨held, _⟩ := own
    · obtain ⟨e, _⟩ | wakes | ⟨job, at_id, _, e⟩ := s.cancel_cases id
      · rw [Scheduler.after, e]
        exact ⟨service, st, cancelling, at_, spent⟩
      · obtain ⟨β, wrap, st₁, st', service', cancelling', seat, at_id, roused, job?_eq⟩ := wakes.seat
        have is := Option.some.inj (at_id.symm.trans at_)
        cases seat <;> simp at is
        obtain ⟨rfl, rfl, rfl⟩ := is
        cases spent <;> simp [Standing.interrupt?] at roused
        subst roused
        exact ⟨service', _, _, by rw [Scheduler.after, job?_eq, if_pos rfl], .resumed _⟩
      · obtain rfl := Option.some.inj (at_id.symm.trans at_)
        refine ⟨service, st, true, ?_, spent⟩
        rw [Scheduler.after, e, job?_setJob, if_pos rfl, at_]
        rfl
    · cases spent <;> simp [Work.phase, Standing.phase] at held

theorem Ran.play {id : Nat} (ran : s.Ran id) (es : List (Event σ V V)) : (s.play h es).Ran id := by
  induction es generalizing s with
  | nil => exact ran
  | cons e es ih => exact ih (ran.after e)

theorem Ran.lt {id : Nat} (ran : s.Ran id) : id < s.jobs.length := by
  obtain ⟨_, _, _, at_, _⟩ := ran
  exact lt_of_job? at_

/-- Loads in flight are not calls. -/
theorem Linked.load_stays (linked : s.Linked s.queue) (ran : ∀ id ∈ gone, s.Ran id) (key : Nat × Text)
    (l : Nat) (flying : (key, l) ∈ s.flights) : l ∉ gone := by
  intro own
  obtain ⟨_, _, _, at_, _⟩ := ran l own
  obtain ⟨job, at_l, isLoad⟩ := linked.flight key l flying
  rw [Option.some.inj (at_l.symm.trans at_)] at isLoad
  cases isLoad

/-- What the scheduler does for calls that have run, the others do not see. -/
theorem without_step_gone (ran : ∀ id ∈ gone, s.Ran id) {x : Handle} {rest : List Handle}
    (queue : s.queue = x :: rest) (own : x.concerns gone = true) :
    (s.step h).without gone = s.without gone := by
  have same : s.without gone = Scheduler.without { s with queue := rest } gone := by
    simp [without, queue, own]
  rw [step_of_queue queue, same]
  cases x with
  | turn id =>
    have own : id ∈ gone := by simpa [Handle.concerns] using own
    obtain ⟨service, st, cancelling, at_, spent⟩ := ran id own
    -- the call ends if it was told something, and else does nothing
    have ends : ∀ o, h.turn service (s.landed? service) cancelling st s.state =
        some (.ended o, s.state) →
        (Scheduler.perform h { s with queue := rest } (.turn id)).without gone =
          Scheduler.without { s with queue := rest } gone := by
      intro o goes
      rw [perform, takeTurn_of_ended (s := { s with queue := rest }) .request at_ goes]
      simp [without, reseat, Work.endHandles, Handle.concerns, own, List.mapIdx_set, Job.unawaited]
      refine List.ext_getElem? fun k => ?_
      simp only [List.getElem?_set, List.getElem?_mapIdx, List.length_mapIdx]
      simp only [job?] at at_
      grind [Job.unawaited]
    cases spent with
    | waiting l => rw [perform, takeTurn_of_none (s := { s with queue := rest }) .request at_ rfl]
    | landed o => exact ends _ rfl
    | resumed o => exact ends _ rfl
    | ended o => rw [perform, takeTurn_of_none (s := { s with queue := rest }) .request at_ rfl]
  | forget l => simp [Handle.concerns] at own
  | relay l id =>
    have own : id ∈ gone := by simpa [Handle.concerns] using own
    rw [perform]
    split
    · rfl
    · exact without_wake_gone own _ _
  | report id =>
    have own : id ∈ gone := by simpa [Handle.concerns] using own
    simp [perform, without, own]

private theorem without_perform (loads : ∀ key l, (key, l) ∈ s.flights → l ∉ gone)
    (ran : ∀ id ∈ gone, s.Ran id) {x : Handle} (stays : x.concerns gone = false) :
    (s.perform h x).without gone = (s.without gone).perform h x := by
  cases x with
  | turn id =>
    have stays : id ∉ gone := by simpa [Handle.concerns] using stays
    exact without_takeTurn stays (fun k own => (ran k own).lt) loads
  | forget l => rfl
  | report id =>
    have stays : id ∉ gone := by simpa [Handle.concerns] using stays
    simp [perform, without, stays]
  | relay l id =>
    have stays : id ∉ gone := by simpa [Handle.concerns] using stays
    have told : (((s.without gone).job? l).bind fun job => job.work.landed?) =
        (s.job? l).bind fun job => job.work.landed? := by
      rw [job?_without]
      by_cases own : l ∈ gone
      · obtain ⟨_, _, _, at_, _⟩ := ran l own
        simp [at_, Job.unawaited, own, Work.landed?]
      · cases s.job? l <;> simp [Job.unawaited, own]
    rw [perform, perform, told]
    split
    · rfl
    · exact without_wake stays s _

/-- What the scheduler does for the others, it does without the calls that have run. -/
theorem without_step (linked : s.Linked s.queue) (ran : ∀ id ∈ gone, s.Ran id) {x : Handle}
    {rest : List Handle} (queue : s.queue = x :: rest) (stays : x.concerns gone = false) :
    (s.step h).without gone = (s.without gone).step h := by
  have queue' : (s.without gone).queue = x :: rest.filter (!·.concerns gone) := by
    simp [without, queue, stays]
  have performed := without_perform (s := { s with queue := rest }) (h := h)
    (linked.load_stays ran) ran stays
  rw [step_of_queue queue, step_of_queue queue', performed]
  rfl

/-! ### What is done from outside -/

theorem without_append (fresh : s.jobs.length ∉ gone) (job : Job V V) :
    Scheduler.without { s with jobs := s.jobs ++ [job] } gone =
      { s.without gone with
        jobs := (s.without gone).jobs ++ [{ job with work := job.work.unawaited gone }] } := by
  simp [without, List.mapIdx_append, Job.unawaited, fresh]

theorem without_cancel {id : Nat} (stays : id ∉ gone) (s : Scheduler σ V V) :
    (s.cancel id).2.without gone = ((s.without gone).cancel id).2 := by
  have gate : Scheduler.without { s with gate := s.gate.filter (· != id) } gone =
      { s.without gone with gate := (s.without gone).gate.filter (· != id) } := by
    simp only [without, List.filter_filter, Bool.and_comm]
  rw [cancel, cancel, job?_without_stays stays]
  cases at_ : s.job? id with
  | none => rfl
  | some job =>
    simp only [Option.map_some, Work.hasEnded_unawaited, Work.restand?_unawaited]
    split
    · rfl
    · cases job.work.restand? fun st => st.interrupt? with
      | none => exact without_setJob stays s _
      | some w =>
        simp only [Option.map_some]
        rw [without_wake stays, gate]

theorem without_cancel_gone {id : Nat} (own : id ∈ gone) (s : Scheduler σ V V) :
    (s.cancel id).2.without gone = s.without gone := by
  rw [cancel]
  cases at_ : s.job? id with
  | none => rfl
  | some job =>
    simp only
    split
    · rfl
    · cases job.work.restand? fun st => st.interrupt? with
      | none =>
        simp only [without, setJob, mk.injEq, true_and, and_true]
        refine List.ext_getElem? fun k => ?_
        simp only [job?] at at_
        simp only [List.getElem?_mapIdx, List.getElem?_set]
        grind [Job.unawaited]
      | some w =>
        simp only
        rw [without_wake_gone own]
        simp only [without, mk.injEq, true_and, and_true, List.filter_filter]
        refine List.filter_congr fun k _ => ?_
        grind

theorem without_openGate (s : Scheduler σ V V) :
    s.openGate.without gone = (s.without gone).openGate := by
  have fold : ∀ (ids : List Nat) (s : Scheduler σ V V),
      (ids.foldl (fun s id => s.wake id fun st => st.pass?) s).without gone =
        (ids.filter (· ∉ gone)).foldl (fun s id => s.wake id fun st => st.pass?) (s.without gone) := by
    intro ids
    induction ids with
    | nil => exact fun s => rfl
    | cons id ids ih =>
      intro s
      rw [List.foldl_cons, ih]
      by_cases own : id ∈ gone
      · rw [without_wake_gone own, List.filter_cons_of_neg (by simpa using own)]
      · rw [without_wake own, List.filter_cons_of_pos (by simpa using own), List.foldl_cons]
  have := fold s.gate s
  rw [openGate, openGate]
  change _ = ({ (s.gate.filter (· ∉ gone)).foldl _ (s.without gone) with gate := [] } : Scheduler σ V V)
  rw [← this]
  rfl

theorem without_answer (s : Scheduler σ V V) (id : Nat) (a : Except Failure Bytes) :
    (s.answer id a).without gone = (s.without gone).answer id a := by
  have woken : (s.wake id fun st => st.answer? a).without gone = _ :=
    without_wake_any (fun st => st.answer? a) (fun _ => rfl) s id
  rw [answer, answer, ← woken]
  simp only [without, List.filter_filter, Bool.and_comm]

end Scheduler

/-- Something that is done to a scheduler from outside. -/
def Event.outside {σ V α : Type} : Event σ V α → Bool
  | step => false
  | _ => true

/-- The cancellation of one of some jobs. -/
def Event.cancels {σ V α : Type} (gone : List Nat) : Event σ V α → Bool
  | cancel id => id ∈ gone
  | _ => false

namespace Scheduler

variable {σ V : Type} {h : Host σ V} {s s' : Scheduler σ V V} {gone : List Nat}

theorem without_outside (linked : s.Linked s.queue) (ran : ∀ id ∈ gone, s.Ran id) {e : Event σ V V}
    (outside : e.outside = true) (other : e.cancels gone = false) :
    (s.after h e).without gone = (s.without gone).after h e := by
  have fresh : s.jobs.length ∉ gone := fun own => Nat.lt_irrefl _ (ran _ own).lt
  cases e with
  | step => cases outside
  | submit service r =>
    rw [after, after, submit, submit, spawn, spawn, without_push (by simpa [Handle.concerns] using fresh),
      without_append fresh, length_without]
    rfl
  | start service r =>
    rw [after, after, begin, begin, without_takeTurn fresh, without_append fresh, length_without]
    · rfl
    · intro k own
      have := (ran k own).lt
      simp only [List.length_append]
      omega
    · exact linked.load_stays ran
  | cancel id => exact without_cancel (by simpa [Event.cancels] using other) s
  | openGate => exact without_openGate s
  | answer id a => exact without_answer s id a
  | update f => rfl

/-- Steps that the others do not see bring an entry to the front that they see. -/
private theorem exists_seen (ran : ∀ id ∈ gone, s.Ran id) {x : Handle} {rest : List Handle}
    (queue : (s.without gone).queue = x :: rest) :
    ∃ n rest, (s.steps h n).queue = x :: rest ∧ (s.steps h n).without gone = s.without gone ∧
      ∀ id ∈ gone, (s.steps h n).Ran id := by
  obtain ⟨pre, post, split, own, _, _⟩ := List.filter_eq_cons_iff.mp queue
  let P (s' : Scheduler σ V V) := (∀ id ∈ gone, s'.Ran id) ∧ s'.without gone = s.without gone
  have keeps : ∀ s' y rest, y ∈ pre → s'.queue = y :: rest → P s' → P (s'.step h) := by
    rintro s' y rest mem queue ⟨ran, same⟩
    refine ⟨fun id mem => (ran id mem).after .step, ?_⟩
    rw [without_step_gone ran queue (by simpa using own y mem), same]
  obtain ⟨new, front, ran, same⟩ := steps_to pre keeps split ⟨ran, rfl⟩
  exact ⟨pre.length, _, front, same, ran⟩

/-- **An event of one scheduler has its match in any other** that is the same without some calls. -/
theorem exists_match (linked : s.Linked s.queue) (linked' : s'.Linked s'.queue)
    (ran : ∀ id ∈ gone, s.Ran id) (ran' : ∀ id ∈ gone, s'.Ran id)
    (same : s.without gone = s'.without gone) {e : Event σ V V} (other : e.cancels gone = false) :
    ∃ es, es.filter Event.outside = [e].filter Event.outside ∧
      (s.after h e).without gone = (s'.play h es).without gone := by
  by_cases outside : e.outside = true
  · refine ⟨[e], rfl, ?_⟩
    rw [play_cons, play_nil, without_outside linked ran outside other,
      without_outside linked' ran' outside other, same]
  · obtain rfl : e = .step := by cases e <;> simp [Event.outside] at outside; rfl
    cases queue : s.queue with
    | nil => exact ⟨[], rfl, by rw [after, step_of_empty queue, same]; rfl⟩
    | cons x rest =>
      cases own : x.concerns gone with
      | true => exact ⟨[], rfl, by rw [after, without_step_gone ran queue own, same]; rfl⟩
      | false =>
        -- the other scheduler performs the same entry, after those of the calls
        have seen : (s.without gone).queue = x :: rest.filter (!·.concerns gone) := by
          simp [without, queue, own]
        obtain ⟨n, rest', front, same', ran''⟩ := exists_seen (h := h) ran' (same ▸ seen)
        refine ⟨List.replicate (n + 1) .step, by simp [Event.outside], ?_⟩
        have linked'' : (s'.steps h n).Linked (s'.steps h n).queue := linked'.play
        change (s.step h).without gone = (s'.steps h (n + 1)).without gone
        rw [steps_add, steps_succ, steps_zero, without_step linked ran queue own,
          without_step linked'' ran'' front own]
        exact congrArg (step h) (same.trans same'.symm)

/-- A call has run when it is cancelled, in a run from a scheduler on. -/
def CancelsRan (h : Host σ V) (s : Scheduler σ V V) (gone : List Nat) (es : List (Event σ V V)) : Prop :=
  ∀ pre id post, es = pre ++ .cancel id :: post → id ∈ gone → (s.play h pre).Ran id

/-- **A run without the cancellations of some calls** goes for all others as the run with them. -/
theorem exists_uncancelled (es : List (Event σ V V)) {some_ : List Nat} (sub : some_ ⊆ gone)
    {s s' : Scheduler σ V V} (linked : s.Linked s.queue) (linked' : s'.Linked s'.queue)
    (ran : ∀ id ∈ some_, s.Ran id) (ran' : ∀ id ∈ some_, s'.Ran id)
    (same : s.without some_ = s'.without some_) (cancels : CancelsRan h s gone es) :
    ∃ es', es'.filter Event.outside =
        es.filter (fun e => e.outside && !e.cancels gone) ∧
      (s.play h es).without gone = (s'.play h es').without gone := by
  induction es generalizing s s' some_ with
  | nil => exact ⟨[], rfl, by rw [play_nil, play_nil, ← without_without sub, same, without_without sub]⟩
  | cons e es ih =>
    have later : CancelsRan h (s.after h e) gone es :=
      fun pre id post split mem => cancels (e :: pre) id post (by rw [split]; rfl) mem
    have linked₁ := linked.after (h := h) e
    cases own : e.cancels gone with
    | true =>
      -- from here on the call is among those that are gone
      obtain ⟨id, rfl, mem⟩ : ∃ id, e = .cancel id ∧ id ∈ gone := by
        cases e <;> simp [Event.cancels] at own
        exact ⟨_, rfl, own⟩
      have now : s.Ran id := cancels [] id es rfl mem
      have more : id :: some_ ⊆ gone := List.cons_subset.mpr ⟨mem, sub⟩
      have same₁ : (s.after h (.cancel id)).without (id :: some_) = s'.without (id :: some_) := by
        have narrow : some_ ⊆ id :: some_ := List.subset_cons_self _ _
        rw [after, without_cancel_gone List.mem_cons_self, ← without_without narrow, same,
          without_without narrow]
      have now' : s'.Ran id := by
        by_cases old : id ∈ some_
        · exact ran' id old
        · obtain ⟨service, st, cancelling, at_, spent⟩ := now
          have seen := congrArg (fun s : Scheduler σ V V => s.job? id) same
          simp only [job?_without_stays old, at_, Option.map_some] at seen
          obtain ⟨job, at_', is⟩ := Option.map_eq_some_iff.mp seen.symm
          obtain ⟨service', work, cancelling'⟩ := job
          cases work with
          | load => simp [Work.unawaited] at is
          | request st' =>
            simp only [Work.unawaited, Job.mk.injEq, Work.request.injEq] at is
            obtain ⟨rfl, rfl, rfl⟩ := is
            exact ⟨_, _, _, at_', spent⟩
      obtain ⟨es', outside, matches_⟩ := ih more linked₁ linked'
        (List.forall_mem_cons.mpr ⟨now.after _, fun k old => (ran k old).after _⟩)
        (List.forall_mem_cons.mpr ⟨now', ran'⟩) same₁ later
      exact ⟨es', by rw [outside, List.filter_cons_of_neg (by simp [own])], matches_⟩
    | false =>
      have other : e.cancels some_ = false := by
        cases e with
        | cancel id =>
          simp only [Event.cancels, decide_eq_false_iff_not] at own ⊢
          exact fun old => own (sub old)
        | _ => rfl
      obtain ⟨es₁, outside₁, same₁⟩ := exists_match (h := h) linked linked' ran ran' same other
      obtain ⟨es₂, outside₂, same₂⟩ := ih sub linked₁ linked'.play
        (fun id old => (ran id old).after e) (fun id old => (ran' id old).play es₁) same₁ later
      refine ⟨es₁ ++ es₂, ?_, by rw [play_cons, same₂, play_append]⟩
      rw [List.filter_append, outside₁, outside₂, List.filter_cons, List.filter_cons, own]
      cases e.outside <;> rfl

end Scheduler

end Stencil
