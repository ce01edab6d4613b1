import Stencil.Proofs.Schedule.Course
import Stencil.Proofs.Schedule.Flight
import Stencil.Proofs.Schedule.Total

/-!
# What holds of all jobs

An event leads from one property of all jobs to another one, if it does so for the job whose turn it is, for
those that are told something, and for what is submitted and started. In particular, a property of all jobs and of
the state that they work on is kept through every run, if it lasts of each job and each turn leaves the state as it
should be.

## Main definitions

- `Scheduler.Carries` — an event leads from a property of jobs to another one
- `Scheduler.Trait` — something about the work of a job that changes only at its turn
- `Scheduler.Pervades` — a property of all jobs is kept
- `Scheduler.Everywhere` — all jobs and the state have a property

## Main results

- `Scheduler.Carries.jobs`, `Scheduler.Trait.still`, `Scheduler.Everywhere.after`
-/

namespace Stencil

variable {σ V α : Type}

namespace Scheduler

variable {h : Host σ V} {s : Scheduler σ V α}

/-- An event leads from a property of the jobs, by their numbers and services, to another one. -/
structure Carries (h : Host σ V) (s : Scheduler σ V α) (e : Event σ V α) (P P' : Nat → Nat → Work V α → Bool → Prop) :
    Prop where
  rests : ∀ {id service : Nat} {w w' : Work V α} {c : Bool}, w'.bare = w.bare → P id service w c →
    P' id service w' c
  acts : ∀ {t : Scheduler σ V α} {id service : Nat} {β : Type} {wrap : Standing V β → Work V α}
    {st : Standing V β} {c : Bool} {halt : Halt V β} {y : σ} (l : Nat),
    s.Move h e t id service wrap st c halt y → P id service (wrap st) c →
    (s.after h e).job? id = some ⟨service, wrap (halt.standing l), false⟩ → P' id service (wrap (halt.standing l)) false
  starts : ∀ {t : Scheduler σ V α} {id service : Nat} {β : Type} {wrap : Standing V β → Work V α}
    {st : Standing V β} {c : Bool} {name path : Text} {next : Except Failure V → Routine V β} {y : σ} {l : Nat},
    s.Move h e t id service wrap st c (.sharing name path next) y → P id service (wrap st) c →
    s.flights.lookup (service, name) = none → s.job? l = none →
    P' l service (.load name (.fresh (h.load service name path y)) [id]) false
  told : ∀ {l id service : Nat} {load : Job V α} {o : Except Failure V} {β : Type}
    {wrap : Standing V β → Work V α} {next : Except Failure V → Routine V β} {c : Bool}, Seat V α β wrap →
    s.job? l = some load → load.work.landed? = some o → P id service (wrap (.waiting l next)) c →
    P' id service (wrap (.landed o next)) c
  passes : ∀ {id service : Nat} {β : Type} {wrap : Standing V β → Work V α} {path : Text}
    {next : Except Failure Bytes → Routine V β} {c : Bool}, Seat V α β wrap →
    P id service (wrap (.held path next)) c → P' id service (wrap (.passed path next)) c
  interrupted : ∀ {id service : Nat} {β : Type} {wrap : Standing V β → Work V α} {st st' : Standing V β} {c : Bool},
    Seat V α β wrap → e = .cancel id → s.job? id = some ⟨service, wrap st, c⟩ → st.interrupt? = some st' →
    P id service (wrap st) c → P' id service (wrap st') c
  flagged : ∀ {id service : Nat} {w : Work V α} {c : Bool}, e = .cancel id → s.job? id = some ⟨service, w, c⟩ →
    P id service w c → P' id service w true
  answered : ∀ {id service : Nat} {β : Type} {wrap : Standing V β → Work V α} {path : Text}
    {next : Except Failure Bytes → Routine V β} {c : Bool} {a : Except Failure Bytes}, Seat V α β wrap →
    e = .answer id a → P id service (wrap (.held path next)) c → P' id service (wrap (.resumed (next a))) c
  brings : ∀ {service : Nat} {r : Routine V α}, e = .submit service r ∨ e = .start service r →
    P s.jobs.length service (.request (.fresh r)) false

namespace Carries

variable {e : Event σ V α} {P P' : Nat → Nat → Work V α → Bool → Prop}

/-- Whose turn it is has the property. -/
theorem summoned (carries : s.Carries h e P P')
    (all : ∀ id job, s.job? id = some job → P id job.service job.work job.cancelling)
    {t : Scheduler σ V α} {id : Nat} (summons : s.Summons e t id) {k : Nat} {job : Job V α}
    (at_ : t.job? k = some job) : P k job.service job.work job.cancelling := by
  cases summons with
  | step front => exact all k job at_
  | start service r =>
    by_cases old : k < s.jobs.length
    · exact all k job ((List.getElem?_append_left old).symm.trans at_)
    · obtain rfl : k = s.jobs.length := by
        have lt := lt_of_job? at_
        rw [List.length_append, List.length_singleton] at lt
        omega
      obtain rfl : ⟨service, .request (.fresh r), false⟩ = job := by simpa [job?] using at_
      exact carries.brings (.inr rfl)

private theorem cancels (carries : s.Carries h e P P') {id : Nat} {job : Job V α} (at_ : s.job? id = some job)
    (holds : P id job.service job.work job.cancelling) (is : e = .cancel id) :
    ∃ job', (s.cancel id).2.job? id = some job' ∧ P' id job'.service job'.work job'.cancelling := by
  obtain ⟨e, _⟩ | wakes | ⟨old, at_', _, e⟩ := s.cancel_cases id
  · exact ⟨job, by rw [e, at_], carries.rests rfl holds⟩
  · obtain ⟨β, wrap, st, st', service, c, seat, at_', goes, job?_eq⟩ := wakes.seat
    obtain rfl := Option.some.inj (at_.symm.trans at_')
    exact ⟨_, by rw [job?_eq, if_pos rfl], carries.interrupted seat is at_ goes holds⟩
  · obtain rfl := Option.some.inj (at_.symm.trans at_')
    exact ⟨_, by rw [e, job?_setJob, if_pos rfl, at_, Option.map_some], carries.flagged is at_ holds⟩

/-- When the gate opens a job stays as it is or passes, which it does once. -/
private theorem opens (carries : s.Carries h e P P') {id : Nat} {job : Job V α} (at_ : s.job? id = some job)
    (holds : P id job.service job.work job.cancelling) :
    ∃ job', s.openGate.job? id = some job' ∧ P' id job'.service job'.work job'.cancelling := by
  have passes : s.openGate.job? id = some job ∨ ∃ job', s.openGate.job? id = some job' ∧
      (job'.work.restand? fun st => st.pass?) = none ∧ P' id job'.service job'.work job'.cancelling := by
    refine openGate_keeps (P := fun t => t.job? id = some job ∨ ∃ job', t.job? id = some job' ∧
      (job'.work.restand? fun st => st.pass?) = none ∧ P' id job'.service job'.work job'.cancelling)
      (fun t k kept => ?_) (fun _ kept => kept) (.inl at_)
    obtain now | ⟨job', now, passed, holds'⟩ := kept
    · obtain now | ⟨_, work, goes, now⟩ := wake_job? (k := k) now fun st => st.pass?
      · exact .inl now
      · refine .inr ⟨_, now, ?_⟩
        obtain ⟨service, work', c⟩ := job
        obtain ⟨β, wrap, st, seat, rfl⟩ := work'.exists_seat
        rw [restand?_seat seat, Option.map_eq_some_iff] at goes
        obtain ⟨st', goes, rfl⟩ := goes
        cases st with
        | held path next =>
          obtain rfl := Option.some.inj goes
          exact ⟨restand?_seat seat _ _, carries.passes seat holds⟩
        | _ => cases goes
    · obtain now | ⟨_, work, goes, _⟩ := wake_job? (k := k) now fun st => st.pass?
      · exact .inr ⟨job', now, passed, holds'⟩
      · cases passed.symm.trans goes
  obtain now | ⟨job', now, _, holds'⟩ := passes
  · exact ⟨job, now, carries.rests rfl holds⟩
  · exact ⟨job', now, holds'⟩

private theorem answers (carries : s.Carries h e P P') {id : Nat} {job : Job V α} (at_ : s.job? id = some job)
    (holds : P id job.service job.work job.cancelling) {a : Except Failure Bytes} (is : e = .answer id a) :
    ∃ job', (s.answer id a).job? id = some job' ∧ P' id job'.service job'.work job'.cancelling := by
  obtain now | ⟨_, work, goes, now⟩ := wake_job? (k := id) at_ fun st => st.answer? a
  · exact ⟨job, now, carries.rests rfl holds⟩
  · refine ⟨_, now, ?_⟩
    obtain ⟨service, work', c⟩ := job
    obtain ⟨β, wrap, st, seat, rfl⟩ := work'.exists_seat
    rw [restand?_seat seat, Option.map_eq_some_iff] at goes
    obtain ⟨st', answers, rfl⟩ := goes
    cases st with
    | held path next =>
      obtain rfl := Option.some.inj answers
      exact carries.answered seat is holds
    | _ => cases answers

/-- A job that is there already comes to have the new property. -/
theorem old (carries : s.Carries h e P P') {id : Nat} {job : Job V α} (at_ : s.job? id = some job)
    (holds : P id job.service job.work job.cancelling) :
    ∃ job', (s.after h e).job? id = some job' ∧ P' id job'.service job'.work job'.cancelling := by
  obtain ⟨job', now, does⟩ := after_does (h := h) at_ e
  cases does with
  | rests same =>
    refine ⟨job', now, ?_⟩
    have flag : job'.cancelling = job.cancelling := by
      have := congrArg Job.cancelling same
      exact this
    rw [flag, Job.service_of_bare same]
    exact carries.rests (Job.work_of_bare same) holds
  | acts l front seat is goes =>
    subst is
    exact ⟨_, now, carries.acts l ⟨.step front, seat, at_, goes⟩ holds now⟩
  | told _ seat is at_l lands =>
    subst is
    exact ⟨_, now, carries.told seat at_l lands holds⟩
  | addressed own _ =>
    obtain is | ⟨_, rfl | ⟨a, is⟩⟩ := own
    · obtain ⟨job', now, holds'⟩ := carries.cancels at_ holds is
      exact ⟨job', by rwa [is], holds'⟩
    · exact carries.opens at_ holds
    · obtain ⟨job', now, holds'⟩ := carries.answers at_ holds is
      exact ⟨job', by rwa [is], holds'⟩

/-- Where no job takes its turn, what is new was submitted or started just then. -/
private theorem rested (carries : s.Carries h e P P') (rests : s.Rests h e) {id : Nat} {job : Job V α}
    (new : s.job? id = none) (now : (s.after h e).job? id = some job) :
    P' id job.service job.work job.cancelling := by
  have grown : s.jobs.length < (s.after h e).jobs.length :=
    Nat.lt_of_le_of_lt (List.getElem?_eq_none_iff.mp new) (lt_of_job? now)
  have brought {t : Scheduler σ V α} {service : Nat} {r : Routine V α} (is : e = .submit service r ∨ e = .start service r)
      (added : t.jobs = s.jobs ++ [⟨service, .request (.fresh r), false⟩]) (now : t.job? id = some job) :
      P' id job.service job.work job.cancelling := by
    have at_ : (s.jobs ++ [(⟨service, .request (.fresh r), false⟩ : Job V α)])[id]? = some job := by
      rw [← added]
      exact now
    have last : id = s.jobs.length := by
      have lt := lt_of_job? now
      rw [added, List.length_append, List.length_singleton] at lt
      have bound : s.jobs.length ≤ id := List.getElem?_eq_none_iff.mp new
      omega
    subst last
    obtain rfl := Option.some.inj (at_.symm.trans List.getElem?_concat_length)
    exact carries.rests rfl (carries.brings is)
  have same (is : (s.after h e).jobs.length = s.jobs.length) : P' id job.service job.work job.cancelling :=
    absurd (is ▸ grown) (Nat.lt_irrefl _)
  cases e with
  | step =>
    refine same ?_
    cases queue : s.queue with
    | nil => rw [after, step_of_empty queue]
    | cons x rest =>
      cases x with
      | turn k =>
        have summons : s.Summons .step { s with queue := rest } k := .step queue
        rw [summons.after, (rests.idle _ _ summons).1]
      | forget l | report l =>
        rw [after, step_of_queue queue]
        rfl
      | relay l k =>
        rw [after, step_of_queue queue, perform]
        split
        · rfl
        · exact wake_length _ k _
  | submit service r => exact brought (.inl rfl) rfl now
  | start service r =>
    have summons : s.Summons (.start service r) _ _ := .start service r
    rw [summons.after, (rests.idle _ _ summons).1] at now
    exact brought (.inr rfl) rfl now
  | cancel k => exact same (cancel_length s k)
  | openGate => exact same (openGate_length s)
  | answer k a => exact same (wake_length s k _)
  | update f => exact same rfl

/-- Where a job takes its turn, what is new is that job or a load that it starts. -/
private theorem moved (carries : s.Carries h e P P')
    (all : ∀ id job, s.job? id = some job → P id job.service job.work job.cancelling) {t : Scheduler σ V α}
    {k service : Nat} {β : Type} {wrap : Standing V β → Work V α} {st : Standing V β} {c : Bool} {halt : Halt V β}
    {y : σ} (move : s.Move h e t k service wrap st c halt y) {id : Nat} {job : Job V α}
    (now : (s.after h e).job? id = some job) (new : s.job? id = none) : P' id job.service job.work job.cancelling := by
  by_cases own : id = k
  · subst own
    obtain ⟨l, now'⟩ := move.job?
    obtain rfl := Option.some.inj (now'.symm.trans now)
    exact carries.acts l move (carries.summoned all move.summons move.at_) now
  · have absent : t.job? id = none := by
      obtain ⟨t, k, _⟩ := move
      cases t with
      | step front => exact new
      | start service r =>
        have bound : s.jobs.length ≤ id := List.getElem?_eq_none_iff.mp new
        refine List.getElem?_eq_none ?_
        rw [List.length_append, List.length_singleton]
        omega
    have turns := takeTurn_turns h t k
    rw [← move.summons.after] at turns
    obtain ⟨β', service', wrap', name, path, next, x, ⟨seat, st', c', at_, goes⟩, rfl⟩ :=
      turns.started_of_new absent now
    rw [move.summons.landed?, move.summons.state] at goes
    obtain ⟨grounded, _⟩ := after_loads new now rfl
    exact carries.starts ⟨move.summons, seat, at_, goes⟩ (carries.summoned all move.summons at_) grounded new

/-- **An event leads from one property of all jobs to another one.** -/
theorem jobs (carries : s.Carries h e P P')
    (all : ∀ id job, s.job? id = some job → P id job.service job.work job.cancelling) :
    ∀ id job, (s.after h e).job? id = some job → P' id job.service job.work job.cancelling := by
  intro id job now
  cases at_ : s.job? id with
  | some job' =>
    obtain ⟨job'', now', holds⟩ := carries.old at_ (all id job' at_)
    obtain rfl := Option.some.inj (now.symm.trans now')
    exact holds
  | none =>
    obtain rests | move := s.after_passing h e
    · exact carries.rested rests at_ now
    · exact carries.moved all move now at_

end Carries

/-- Something about the work of a job that changes only at the turn of the job. -/
structure Trait {τ : Type} (f : Work V α → τ) (x : τ) : Prop where
  bare : ∀ {w w' : Work V α}, w'.bare = w.bare → f w' = f w
  roused : ∀ {β : Type} {wrap : Standing V β → Work V α} {st st' : Standing V β}, Seat V α β wrap →
    st.Roused st' → f (wrap st') = f (wrap st)
  fresh : ∀ r : Routine V α, f (.request (.fresh r)) = x

/-- How many jobs of some services have a trait. -/
theorem Trait.measure {b : Work V α → Bool} (trait : Trait b false) (chosen : Nat → Bool) :
    Measure fun service w => (chosen service && b w).toNat where
  bare same := by rw [trait.bare same]
  roused seat roused := by rw [trait.roused seat roused]
  fresh service r := by rw [trait.fresh, Bool.and_false, Bool.toNat_false]

/-- **A job that does not take its turn keeps its traits.** -/
theorem Trait.still {τ : Type} {f : Work V α → τ} {x : τ} (trait : Trait f x)
    (load : ∀ (name : Text) (r : Routine V V) (waiters : List Nat), f (.load name (.fresh r) waiters) = x)
    {e : Event σ V α} {id : Nat}
    (still : ∀ {t : Scheduler σ V α} {service : Nat} {β : Type} {wrap : Standing V β → Work V α}
      {st : Standing V β} {c : Bool} {halt : Halt V β} {y : σ}, ¬s.Move h e t id service wrap st c halt y) :
    ((s.after h e).job? id).elim x (fun job => f job.work) = (s.job? id).elim x fun job => f job.work := by
  let P (k _ : Nat) (w : Work V α) (_ : Bool) : Prop := k = id → f w = (s.job? id).elim x fun job => f job.work
  have carries : s.Carries h e P P := {
    rests := fun same holds own => (trait.bare same).trans (holds own)
    acts := by
      rintro t k service β wrap st c halt y l move _ _ rfl
      exact absurd move still
    starts := by
      rintro t k service β wrap st c name path next y l _ _ _ new rfl
      rw [new]
      exact load name _ _
    told := fun seat _ _ holds own => (trait.roused seat (.landed ..)).trans (holds own)
    passes := fun seat holds own => (trait.roused seat (.passed ..)).trans (holds own)
    interrupted := fun seat _ _ goes holds own =>
      (trait.roused seat (Standing.roused_of_interrupt goes)).trans (holds own)
    flagged := fun _ _ holds => holds
    answered := fun seat _ holds own => (trait.roused seat (.answered ..)).trans (holds own)
    brings := by
      rintro service r _ rfl
      rw [show s.job? s.jobs.length = none from List.getElem?_eq_none (Nat.le_refl _)]
      exact trait.fresh r }
  cases now : (s.after h e).job? id with
  | some job =>
    refine carries.jobs (fun k job at_ own => ?_) id job now rfl
    subst own
    rw [at_]
    rfl
  | none =>
    cases at_ : s.job? id with
    | none => rfl
    | some job =>
      obtain ⟨job', now', _⟩ := after_does (h := h) at_ e
      cases now.symm.trans now'

theorem trait_landed? : Trait (Work.landed? : Work V α → _) none where
  bare {w w'} same := by rw [← Work.landed?_bare, same, Work.landed?_bare]
  roused seat roused := by cases seat <;> cases roused <;> rfl
  fresh _ := rfl

/-- A load that does not take its turn comes to no outcome. -/
theorem told?_of_still {e : Event σ V α} {id : Nat}
    (still : ∀ {t : Scheduler σ V α} {service : Nat} {β : Type} {wrap : Standing V β → Work V α}
      {st : Standing V β} {c : Bool} {halt : Halt V β} {y : σ}, ¬s.Move h e t id service wrap st c halt y) :
    (s.after h e).told? id = s.told? id := by
  have told (t : Scheduler σ V α) : t.told? id = (t.job? id).elim none fun job => job.work.landed? := by
    rw [told?]
    cases t.job? id <;> rfl
  rw [told, told]
  exact trait_landed?.still (fun _ _ _ => rfl) still

/-- What is waited for from now on has not ended. -/
theorem Move.awaits {e : Event σ V α} {t : Scheduler σ V α} {id service : Nat} {β : Type}
    {wrap : Standing V β → Work V α} {st : Standing V β} {c : Bool} {name path : Text}
    {next : Except Failure V → Routine V β} {y : σ} (linked : s.Linked s.queue)
    (move : s.Move h e t id service wrap st c (.sharing name path next) y) :
    ∃ l load, (s.after h e).job? id = some ⟨service, wrap (.waiting l next), false⟩ ∧
      (s.after h e).job? l = some load ∧ load.key? = some (service, name) ∧ load.work.landed? = none := by
  obtain ⟨l, load, now, at_l, keyed, from_⟩ := move.shares linked
  refine ⟨l, load, now, at_l, keyed, ?_⟩
  by_cases own : l = id
  · subst own
    obtain rfl := Option.some.inj (now.symm.trans at_l)
    cases move.seat <;> rfl
  · have same : (s.after h e).told? l = s.told? l := told?_of_still fun other =>
      own (move.summons.unique other.summons).2
    have now_l : (s.after h e).told? l = load.work.landed? := by rw [told?, at_l, Option.bind_some]
    rw [← now_l, same, told?]
    obtain flying | new := from_
    · have untold := Host.landed_of_sharing_turn move.goes
      rwa [landed?, flying] at untold
    · rw [new, Option.bind_none]

theorem trait_outcome? : Trait (Work.outcome? : Work V α → _) none where
  bare {w w'} same := by
    cases w with
    | request st => rw [Work.bare_eq_request.mp same]
    | load name st ws =>
      cases w' with
      | request st' => cases same
      | load name' st' ws' => rfl
  roused seat roused := by cases seat <;> cases roused <;> rfl
  fresh _ := rfl

/-- A request that does not take its turn comes to no outcome. -/
theorem outcome?_of_still {e : Event σ V α} {id : Nat}
    (still : ∀ {t : Scheduler σ V α} {service : Nat} {β : Type} {wrap : Standing V β → Work V α}
      {st : Standing V β} {c : Bool} {halt : Halt V β} {y : σ}, ¬s.Move h e t id service wrap st c halt y) :
    (s.after h e).outcome? id = s.outcome? id := by
  have outcome (t : Scheduler σ V α) : t.outcome? id = (t.job? id).elim none fun job => job.work.outcome? := by
    rw [Scheduler.outcome?]
    cases t.job? id <;> rfl
  rw [outcome, outcome]
  exact trait_outcome?.still (fun _ _ _ => rfl) still

/-- A property of jobs, by their services, that is kept as long as the state is as it should be. -/
structure Pervades (h : Host σ V) (I : σ → Prop) (P : Nat → Work V α → Bool → Prop) : Prop where
  lasts : ∀ service, Lasts h (P service)
  interrupted : ∀ {service : Nat} {β : Type} {wrap : Standing V β → Work V α} {st st' : Standing V β}
    {c : Bool}, Seat V α β wrap → P service (wrap st) c → st.interrupt? = some st' → P service (wrap st') c
  flagged : ∀ {service : Nat} {w : Work V α} {c : Bool}, P service w c → P service w true
  acts : ∀ {service : Nat} {β : Type} {wrap : Standing V β → Work V α} {st : Standing V β}
    {landed : Text → Option (Except Failure V)} {c : Bool} {x y : σ} {halt : Halt V β},
    Seat V α β wrap → I x → P service (wrap st) c → h.turn service landed c st x = some (halt, y) → I y
  joined : ∀ {service : Nat} {x : σ} (name : Text), I x → I (h.act service (.note (.joined name)) x)
  starts : ∀ {service : Nat} {β : Type} {wrap : Standing V β → Work V α} {st : Standing V β}
    {landed : Text → Option (Except Failure V)} {c : Bool} {x y : σ} {name path : Text}
    {next : Except Failure V → Routine V β} (id : Nat), Seat V α β wrap → I x → P service (wrap st) c →
    h.turn service landed c st x = some (.sharing name path next, y) →
    P service (.load name (.fresh (h.load service name path y)) [id]) false

/-- All jobs and the state have a property. -/
structure Everywhere (I : σ → Prop) (P : Nat → Work V α → Bool → Prop) (s : Scheduler σ V α) : Prop where
  state : I s.state
  jobs : ∀ id job, s.job? id = some job → P job.service job.work job.cancelling

/-- An event brings only what has the property, and no read is answered from outside. -/
def Befits (I : σ → Prop) (P : Nat → Work V α → Bool → Prop) (s : Scheduler σ V α) : Event σ V α → Prop
  | .submit service r | .start service r => P service (.request (.fresh r)) false
  | .update f => I (f s.state)
  | .answer .. => False
  | .step | .cancel _ | .openGate => True

variable {I : σ → Prop} {P : Nat → Work V α → Bool → Prop}

/-- Whose turn it is has the property. -/
theorem Everywhere.plays (everywhere : s.Everywhere I P) {e : Event σ V α} (befits : s.Befits I P e)
    {job : Job V α} (plays : s.Plays e job) : P job.service job.work job.cancelling := by
  cases plays with
  | step _ at_ => exact everywhere.jobs _ job at_
  | start service r => exact befits

private theorem Everywhere.state_after (pervades : Pervades h I P) (everywhere : s.Everywhere I P)
    {e : Event σ V α} (befits : s.Befits I P e) : I (s.after h e).state := by
  obtain same | ⟨f, rfl, same⟩ | ⟨job, plays, leaves⟩ := s.after_state h e
  · rw [same]
    exact everywhere.state
  · rw [same]
    exact befits
  · have holds := everywhere.plays befits plays
    generalize (s.after h e).state = y at leaves ⊢
    cases leaves with
    | stopped seat is goes =>
      rw [is] at holds
      exact pervades.acts seat everywhere.state holds goes
    | joined seat is name goes =>
      rw [is] at holds
      exact pervades.joined name (pervades.acts seat everywhere.state holds goes)

/-- A property that pervades is carried over every event that befits it. -/
theorem Everywhere.carries (pervades : Pervades h I P) (everywhere : s.Everywhere I P) {e : Event σ V α}
    (befits : s.Befits I P e) : s.Carries h e (fun _ => P) (fun _ => P) where
  rests same holds := (pervades.lasts _).bare same holds
  acts l move holds _ := (pervades.lasts _).acts l move.seat holds move.goes
  starts move holds _ _ := pervades.starts _ move.seat everywhere.state holds move.goes
  told seat _ _ holds := (pervades.lasts _).told _ _ seat holds
  passes seat holds := (pervades.lasts _).passes seat holds
  interrupted seat _ _ goes holds := pervades.interrupted seat holds goes
  flagged _ _ holds := pervades.flagged holds
  answered _ is _ := by
    rw [is] at befits
    exact befits.elim
  brings is := by
    obtain rfl | rfl := is
    · exact befits
    · exact befits

/-- **What holds of all jobs** and of the state does so after an event that befits it. -/
theorem Everywhere.after (pervades : Pervades h I P) (everywhere : s.Everywhere I P) {e : Event σ V α}
    (befits : s.Befits I P e) : (s.after h e).Everywhere I P where
  state := everywhere.state_after pervades befits
  jobs := (everywhere.carries pervades befits).jobs everywhere.jobs

theorem Everywhere.play (pervades : Pervades h I P) (everywhere : s.Everywhere I P)
    {es : List (Event σ V α)}
    (befits : ∀ pre e post, es = pre ++ e :: post → (s.play h pre).Befits I P e) :
    (s.play h es).Everywhere I P := by
  induction es generalizing s with
  | nil => exact everywhere
  | cons e es ih =>
    refine ih (everywhere.after pervades (befits [] e es rfl)) fun pre e' post split => ?_
    exact befits (e :: pre) e' post (by rw [split, List.cons_append])

end Scheduler

end Stencil
