import Mathlib.Tactic.Common
import Stencil.Schedule.Scheduler

/-!
# One turn of the scheduler

What a job does when its turn comes, said once for all later proofs. A turn runs the routine of the job
until it stops; the five ways to stop are five equations for the scheduler that results.

## Main definitions

- `Phase` — what a job needs before it can go on
- `Host.entry?` — the routine that a job goes on with at its turn
- `Seat` — where the standing of a job sits in its work
- `Scheduler.Turns` — the scheduler after a turn, by the way in which the routine has stopped
-/

namespace Stencil

/-- What a job needs before it can go on: its turn, the gate, a load, or nothing any more. -/
inductive Phase where
  | ready
  | held
  | waiting (load : Nat)
  | ended
  deriving DecidableEq

namespace Standing

variable {V β : Type}

def phase : Standing V β → Phase
  | fresh _ | passed .. | paused .. | landed .. | resumed _ => .ready
  | held .. => .held
  | waiting load _ => .waiting load
  | ended _ => .ended

theorem hasEnded_iff (st : Standing V β) : st.hasEnded = true ↔ st.phase = .ended := by
  cases st <;> simp [hasEnded, phase]

theorem phase_of_interrupt {st st' : Standing V β} (h : st.interrupt? = some st') :
    st'.phase = .ready ∧ (st.phase = .held ∨ ∃ l, st.phase = .waiting l) := by
  cases st <;> simp [interrupt?] at h <;> subst h <;> simp [phase]

theorem interrupt?_eq_none {st : Standing V β} (h : st.interrupt? = none) :
    st.phase = .ready ∨ st.phase = .ended := by
  cases st <;> simp [interrupt?] at h <;> simp [phase]

end Standing

namespace Work

variable {V α : Type}

def phase : Work V α → Phase
  | request st => st.phase
  | load _ st _ => st.phase

/-- The name that a load is for. -/
def name? : Work V α → Option Text
  | request _ => none
  | load name _ _ => some name

/-- The jobs that wait for a load. -/
def waiters : Work V α → List Nat
  | request _ => []
  | load _ _ waiters => waiters

/-- What the end of a job puts into the queue. -/
def endHandles (id : Nat) : Work V α → List Handle
  | request _ => [.report id]
  | load _ _ waiters => .forget id :: waiters.map (Handle.relay id)

theorem hasEnded_iff (w : Work V α) : w.hasEnded = true ↔ w.phase = .ended := by
  cases w <;> exact Standing.hasEnded_iff _

@[simp] theorem phase_joinedBy (id : Nat) (w : Work V α) : (w.joinedBy id).phase = w.phase := by
  cases w <;> rfl

@[simp] theorem name?_joinedBy (id : Nat) (w : Work V α) : (w.joinedBy id).name? = w.name? := by
  cases w <;> rfl

/-- A load has an outcome to tell exactly when it has ended. -/
theorem landed?_isSome (w : Work V α) :
    w.landed?.isSome = true ↔ w.name?.isSome = true ∧ w.phase = .ended := by
  cases w with
  | request st => simp [landed?, name?]
  | load name st waiters =>
    cases st with
    | ended o => cases o <;> simp [landed?, name?, phase, Standing.phase]
    | _ => simp [landed?, name?, phase, Standing.phase]

end Work

/-- Where the standing of a job sits in its work: a request has results of its own kind, a load has
values of the cache. -/
inductive Seat (V α : Type) : (β : Type) → (Standing V β → Work V α) → Prop where
  | request : Seat V α α .request
  | load (name : Text) (waiters : List Nat) : Seat V α V fun st => .load name st waiters

namespace Seat

variable {V α β : Type} {wrap : Standing V β → Work V α}

theorem phase (seat : Seat V α β wrap) (st : Standing V β) : (wrap st).phase = st.phase := by
  cases seat <;> rfl

theorem hasEnded (seat : Seat V α β wrap) (st : Standing V β) :
    (wrap st).hasEnded = st.hasEnded := by
  cases seat <;> rfl

theorem name? (seat : Seat V α β wrap) (st st' : Standing V β) : (wrap st).name? = (wrap st').name? := by
  cases seat <;> rfl

theorem waiters (seat : Seat V α β wrap) (st st' : Standing V β) :
    (wrap st).waiters = (wrap st').waiters := by
  cases seat <;> rfl

end Seat

theorem Work.exists_seat {V α : Type} (w : Work V α) :
    ∃ (β : Type) (wrap : Standing V β → Work V α) (st : Standing V β),
      Seat V α β wrap ∧ w = wrap st := by
  cases w with
  | request st => exact ⟨α, .request, st, .request, rfl⟩
  | load name st waiters => exact ⟨V, fun st => .load name st waiters, st, .load name waiters, rfl⟩

/-- Where a job stands after its routine has stopped. One that shares waits for `load`. -/
def Halt.standing {V β : Type} (load : Nat) : Halt V β → Standing V β
  | ended o => .ended o
  | held path next => .held path next
  | paused path next => .paused path next
  | sharing _ _ next => .waiting load next

namespace Host

variable {σ V β : Type}

/-- The routine that a job goes on with at its turn, and the state that it finds. A job that begins a
read at its turn has none. -/
def entry? (h : Host σ V) (cancelling : Bool) : Standing V β → σ → Option (Routine V β × σ)
  | .fresh r, x => some (if cancelling then .finish (.error .cancelled) else r, x)
  | .passed _ next, x => if cancelling then some (next (.error .cancelled), x) else none
  | .paused path next, x =>
    if cancelling then some (next (.error .cancelled), x)
    else some (next (h.serve path x).1, (h.serve path x).2)
  | .landed outcome next, x => some (next (if cancelling then .error .cancelled else outcome), x)
  | .resumed r, x => some (r, x)
  | .held .., _ | .waiting .., _ | .ended _, _ => none

/-- A job either goes on with a routine, or begins a read, or is not ready. -/
theorem turn_cases (h : Host σ V) (service : Nat) (landed : Text → Option (Except Failure V))
    (cancelling : Bool) (st : Standing V β) (x : σ) :
    (∃ r y, h.entry? cancelling st x = some (r, y) ∧ st.phase = .ready ∧
      h.turn service landed cancelling st x = some (h.advance service landed r y)) ∨
    (∃ path next, st = .passed path next ∧ cancelling = false ∧
      h.turn service landed cancelling st x = some (.paused path next, h.beginRead path x)) ∨
    (st.phase ≠ .ready ∧ h.turn service landed cancelling st x = none) := by
  cases st with
  | fresh r =>
    refine .inl ⟨_, _, rfl, rfl, ?_⟩
    cases cancelling <;> rfl
  | passed path next =>
    cases cancelling with
    | false => exact .inr (.inl ⟨path, next, rfl, rfl, rfl⟩)
    | true => exact .inl ⟨_, _, rfl, rfl, rfl⟩
  | paused path next =>
    cases cancelling with
    | false => exact .inl ⟨_, _, rfl, rfl, rfl⟩
    | true => exact .inl ⟨_, _, rfl, rfl, rfl⟩
  | landed outcome next => exact .inl ⟨_, _, rfl, rfl, rfl⟩
  | resumed r => exact .inl ⟨_, _, rfl, rfl, rfl⟩
  | held path next => exact .inr (.inr ⟨by simp [Standing.phase], rfl⟩)
  | waiting load next => exact .inr (.inr ⟨by simp [Standing.phase], rfl⟩)
  | ended outcome => exact .inr (.inr ⟨by simp [Standing.phase], rfl⟩)

/-- A routine that asks for a load has found none that has landed. -/
theorem landed_of_advance_sharing {h : Host σ V} {service : Nat}
    {landed : Text → Option (Except Failure V)} {r : Routine V β} {x y : σ} {name path : Text}
    {next : Except Failure V → Routine V β}
    (stops : h.advance service landed r x = (.sharing name path next, y)) : landed name = none := by
  induction r generalizing x with
  | finish o => simp [advance] at stops
  | lookup n k ih => exact ih _ stops
  | act a k ih => exact ih stops
  | read p k ih =>
    rw [advance] at stops
    split at stops <;> simp at stops
  | share n p k ih =>
    rw [advance] at stops
    split at stops
    · exact ih _ stops
    · next none =>
      simp only [Prod.mk.injEq, Halt.sharing.injEq] at stops
      exact stops.1.1 ▸ none

end Host

namespace Scheduler

variable {σ V α β : Type}

/-- A job takes its turn and stops at `halt`, which leaves the state `x`. -/
structure Acting (h : Host σ V) (s : Scheduler σ V α) (id service : Nat)
    (wrap : Standing V β → Work V α) (halt : Halt V β) (x : σ) : Prop where
  seat : Seat V α β wrap
  acts : ∃ st cancelling, s.job? id = some ⟨service, wrap st, cancelling⟩ ∧
    h.turn service (s.landed? service) cancelling st s.state = some (halt, x)

/-- A job with new work that has been told whether it was cancelled, over a new state. -/
def reseat (s : Scheduler σ V α) (id service : Nat) (work : Work V α) (x : σ) : Scheduler σ V α :=
  { s with state := x, jobs := s.jobs.set id { service, work } }

/-- The scheduler after the turn of a job, by the way in which its routine has stopped. -/
inductive Turns (h : Host σ V) (s : Scheduler σ V α) (id : Nat) : Scheduler σ V α → Prop where
  | idle (unready : ∀ job, s.job? id = some job → job.work.phase ≠ .ready) : Turns h s id s
  | ended {β : Type} {service : Nat} {wrap : Standing V β → Work V α} {o : Except Failure β} {x : σ}
      (acting : s.Acting h id service wrap (.ended o) x) :
      Turns h s id { s.reseat id service (wrap (.ended o)) x with
        queue := s.queue ++ (wrap (.ended o)).endHandles id }
  | held {β : Type} {service : Nat} {wrap : Standing V β → Work V α} {path : Text}
      {next : Except Failure Bytes → Routine V β} {x : σ}
      (acting : s.Acting h id service wrap (.held path next) x) :
      Turns h s id { s.reseat id service (wrap (.held path next)) x with gate := s.gate ++ [id] }
  | paused {β : Type} {service : Nat} {wrap : Standing V β → Work V α} {path : Text}
      {next : Except Failure Bytes → Routine V β} {x : σ}
      (acting : s.Acting h id service wrap (.paused path next) x) :
      Turns h s id { s.reseat id service (wrap (.paused path next)) x with
        queue := s.queue ++ [.turn id] }
  | joined {β : Type} {service : Nat} {wrap : Standing V β → Work V α} {name path : Text}
      {next : Except Failure V → Routine V β} {x : σ} {load : Nat}
      (acting : s.Acting h id service wrap (.sharing name path next) x)
      (flying : s.flights.lookup (service, name) = some load)
      (aloft : s.landed? service name = none) :
      Turns h s id { s with
        state := h.act service (.note (.joined name)) x
        jobs := (s.jobs.modify load fun job => { job with work := job.work.joinedBy id }).set id
          { service, work := wrap (.waiting load next) } }
  | started {β : Type} {service : Nat} {wrap : Standing V β → Work V α} {name path : Text}
      {next : Except Failure V → Routine V β} {x : σ}
      (acting : s.Acting h id service wrap (.sharing name path next) x)
      (grounded : s.flights.lookup (service, name) = none) :
      Turns h s id { s with
        state := x
        jobs := s.jobs.set id { service, work := wrap (.waiting s.jobs.length next) } ++
          [{ service, work := .load name (.fresh (h.load service name path x)) [id] }]
        queue := s.queue ++ [.turn s.jobs.length]
        flights := s.flights ++ [((service, name), s.jobs.length)] }

/-! ### The jobs after an elementary change -/

theorem job?_setJob (s : Scheduler σ V α) (id k : Nat) (job : Job V α) :
    (s.setJob id job).job? k = if k = id then (s.job? k).map fun _ => job else s.job? k := by
  simp only [job?, setJob, List.getElem?_set]
  split
  · next e => subst e; cases hk : s.jobs[id]? with
      | none => simp [List.getElem?_eq_none_iff.mp hk]
      | some j => simp [(List.getElem?_eq_some_iff.mp hk).1]
  · next e => simp [Ne.symm e]

theorem job?_reseat (s : Scheduler σ V α) (id service k : Nat) (work : Work V α) (x : σ) :
    (s.reseat id service work x).job? k =
      if k = id then (s.job? k).map fun _ => { service, work } else s.job? k :=
  s.job?_setJob id k { service, work }

theorem job?_setWork (s : Scheduler σ V α) (id k : Nat) (work : Work V α) :
    (s.setWork id work).job? k =
      if k = id then (s.job? k).map fun job => { job with work } else s.job? k := by
  simp only [job?, setWork, List.getElem?_modify]
  split
  · next e => simp [e]
  · next e => simp [Ne.symm e]

theorem lt_of_job? {s : Scheduler σ V α} {id : Nat} {job : Job V α} (at_ : s.job? id = some job) :
    id < s.jobs.length :=
  (List.getElem?_eq_some_iff.mp at_).1

theorem job?_join {s : Scheduler σ V α} {id load : Nat} {job : Job V α} {x : σ} (k : Nat) :
    Scheduler.job? { s with
      state := x
      jobs := (s.jobs.modify load fun job => { job with work := job.work.joinedBy id }).set id job } k =
    if k = id then (s.job? k).map fun _ => job
    else if k = load then (s.job? k).map fun job => { job with work := job.work.joinedBy id }
    else s.job? k := by
  simp only [job?, List.getElem?_set, List.getElem?_modify, List.length_modify]
  grind

theorem job?_start {s : Scheduler σ V α} {id : Nat} {job load : Job V α} {x : σ}
    {queue : List Handle} {flights : List ((Nat × Text) × Nat)} (lt : id < s.jobs.length) (k : Nat) :
    Scheduler.job? { s with state := x, jobs := s.jobs.set id job ++ [load], queue, flights } k =
      if k = id then some job else if k = s.jobs.length then some load else s.job? k := by
  simp only [job?, List.getElem?_append, List.getElem?_set, List.length_set]
  grind

theorem mem_of_lookup {s : Scheduler σ V α} {key : Nat × Text} {l : Nat}
    (flying : s.flights.lookup key = some l) : (key, l) ∈ s.flights := by
  obtain ⟨before, after, e, _⟩ := List.lookup_eq_some_iff.mp flying
  simp [e]

/-- The job that acts was ready, and its turn changes only its standing. -/
theorem Acting.exists_job {β : Type} {h : Host σ V} {s : Scheduler σ V α} {id service : Nat}
    {wrap : Standing V β → Work V α} {halt : Halt V β} {x : σ}
    (acting : s.Acting h id service wrap halt x) :
    ∃ job, s.job? id = some job ∧ job.service = service ∧ job.work.phase = .ready ∧
      ∀ st, (wrap st).name? = job.work.name? ∧ (wrap st).waiters = job.work.waiters ∧
        (wrap st).phase = st.phase := by
  obtain ⟨seat, st, cancelling, at_, goes⟩ := acting
  refine ⟨_, at_, rfl, ?_, fun st' => ⟨seat.name? st' st, seat.waiters st' st, seat.phase st'⟩⟩
  rw [seat.phase]
  obtain ⟨_, _, _, ready, _⟩ | ⟨_, _, rfl, _, _⟩ | ⟨_, stays⟩ :=
    h.turn_cases service (s.landed? service) cancelling st s.state
  · exact ready
  · rfl
  · cases stays.symm.trans goes

private theorem setWork_reseat (s : Scheduler σ V α) (id service : Nat) (w w' : Work V α) (x : σ) :
    (s.reseat id service w x).setWork id w' = s.reseat id service w' x := by
  simp only [setWork, reseat, Scheduler.mk.injEq, true_and, and_true]
  apply List.ext_getElem?
  intro k
  simp only [List.getElem?_modify, List.getElem?_set]
  by_cases e : id = k <;> simp [e]

private theorem job?_reseat_self {s : Scheduler σ V α} {id service : Nat} {w : Work V α} {x : σ}
    (lt : id < s.jobs.length) : (s.reseat id service w x).job? id = some { service, work := w } := by
  simp [job?, reseat, lt]

private theorem ending_reseat {s : Scheduler σ V α} {id service : Nat} {w : Work V α} {x : σ}
    (lt : id < s.jobs.length) :
    (s.reseat id service w x).ending id =
      { s.reseat id service w x with queue := s.queue ++ w.endHandles id } := by
  rw [ending, job?_reseat_self lt]
  cases w <;> rfl

/-- The jobs after a job has come to wait for a load in flight. The load may be the job itself. -/
private theorem join_jobs (jobs : List (Job V α)) (id service load : Nat) (w w' : Work V α) :
    ((jobs.set id { service, work := w }).modify load fun job =>
        { job with work := job.work.joinedBy id }).modify id (fun job => { job with work := w' }) =
      (jobs.modify load fun job => { job with work := job.work.joinedBy id }).set id
        { service, work := w' } := by
  apply List.ext_getElem?
  intro k
  simp only [List.getElem?_modify, List.getElem?_set, List.length_modify]
  by_cases e : id = k
  · subst e
    by_cases e' : load = id <;> by_cases lt : id < jobs.length <;> simp [e', lt]
  · by_cases e' : load = k <;> simp [e, e']

private theorem start_jobs (jobs : List (Job V α)) (id service : Nat) (w w' : Work V α)
    (job : Job V α) (lt : id < jobs.length) :
    (jobs.set id { service, work := w } ++ [job]).modify id (fun job => { job with work := w' }) =
      jobs.set id { service, work := w' } ++ [job] := by
  apply List.ext_getElem?
  intro k
  simp only [List.getElem?_modify, List.getElem?_set, List.getElem?_append, List.length_set]
  by_cases e : id = k
  · subst e
    simp [lt]
  · simp [e]

private theorem settle_turns {β : Type} {h : Host σ V} {s : Scheduler σ V α} {id service : Nat}
    {wrap : Standing V β → Work V α} {st : Standing V β} {halt : Halt V β} {x : σ}
    (acting : s.Acting h id service wrap halt x)
    (aloft : ∀ name path next, halt = .sharing name path next → s.landed? service name = none) :
    s.Turns h id (settle h (s.reseat id service (wrap st) x) id service wrap halt) := by
  have lt : id < s.jobs.length := by
    obtain ⟨_, _, at_, _⟩ := acting.acts
    exact lt_of_job? at_
  cases halt with
  | ended o =>
    rw [settle, setWork_reseat, ending_reseat lt]
    exact .ended acting
  | held path next =>
    rw [settle, setWork_reseat]
    exact .held acting
  | paused path next =>
    rw [settle, setWork_reseat]
    exact .paused acting
  | sharing name path next =>
    rw [settle, join]
    split
    · next load flying =>
      have jobs := join_jobs s.jobs id service load (wrap st) (wrap (.waiting load next))
      have joined := Turns.joined acting flying (aloft name path next rfl)
      rw [← jobs] at joined
      exact joined
    · next grounded =>
      have started := Turns.started acting grounded
      rw [← start_jobs s.jobs id service (wrap st) _ _ lt] at started
      simpa only [setWork, reseat, spawn, push, List.length_set] using started

theorem takeTurn_of_none {h : Host σ V} {s : Scheduler σ V α} {id service : Nat}
    {wrap : Standing V β → Work V α} {st : Standing V β} {cancelling : Bool}
    (seat : Seat V α β wrap) (at_ : s.job? id = some ⟨service, wrap st, cancelling⟩)
    (stays : h.turn service (s.landed? service) cancelling st s.state = none) :
    s.takeTurn h id = s := by
  cases seat <;> simp [takeTurn, at_, stays]

theorem takeTurn_of_some {h : Host σ V} {s : Scheduler σ V α} {id service : Nat}
    {wrap : Standing V β → Work V α} {st : Standing V β} {cancelling : Bool} {halt : Halt V β} {x : σ}
    (seat : Seat V α β wrap) (at_ : s.job? id = some ⟨service, wrap st, cancelling⟩)
    (goes : h.turn service (s.landed? service) cancelling st s.state = some (halt, x)) :
    s.takeTurn h id = settle h (s.reseat id service (wrap st) x) id service wrap halt := by
  cases seat <;> simp [takeTurn, at_, goes, reseat, setJob]

/-- **A turn** leaves the scheduler as it is, or ends the job, holds it at the gate, lets it pause in a
read, or has it wait for a load that is in flight or started for it. -/
theorem takeTurn_turns (h : Host σ V) (s : Scheduler σ V α) (id : Nat) :
    s.Turns h id (s.takeTurn h id) := by
  cases at_ : s.job? id with
  | none =>
    rw [takeTurn, at_]
    exact .idle fun job same => by cases at_.symm.trans same
  | some job =>
    obtain ⟨service, work, cancelling⟩ := job
    obtain ⟨β, wrap, st, seat, rfl⟩ := work.exists_seat
    obtain ⟨r, y, _, _, goes⟩ | ⟨path, next, _, _, goes⟩ | ⟨unready, stays⟩ :=
      h.turn_cases service (s.landed? service) cancelling st s.state
    · rw [takeTurn_of_some seat at_ goes]
      refine settle_turns ⟨seat, st, cancelling, at_, goes⟩ fun name path next shares => ?_
      exact Host.landed_of_advance_sharing (Prod.ext shares rfl)
    · rw [takeTurn_of_some seat at_ goes]
      exact settle_turns ⟨seat, st, cancelling, at_, goes⟩ fun _ _ _ shares => by cases shares
    · rw [takeTurn_of_none seat at_ stays]
      refine .idle fun job same => ?_
      rw [← Option.some.inj (at_.symm.trans same), seat.phase]
      exact unready

/-- A job whose routine ends at its turn. -/
theorem takeTurn_of_ended {h : Host σ V} {s : Scheduler σ V α} {id service : Nat}
    {wrap : Standing V β → Work V α} {st : Standing V β} {cancelling : Bool} {o : Except Failure β}
    {x : σ} (seat : Seat V α β wrap) (at_ : s.job? id = some ⟨service, wrap st, cancelling⟩)
    (goes : h.turn service (s.landed? service) cancelling st s.state = some (.ended o, x)) :
    s.takeTurn h id = { s.reseat id service (wrap (.ended o)) x with
      queue := s.queue ++ (wrap (.ended o)).endHandles id } := by
  rw [takeTurn_of_some seat at_ goes, settle, setWork_reseat, ending_reseat (lt_of_job? at_)]

/-- The load that a job waits for whose routine has stopped. -/
def loadOf (s : Scheduler σ V α) (service : Nat) : Halt V β → Nat
  | .sharing name _ _ => (s.flights.lookup (service, name)).getD s.jobs.length
  | _ => 0

/-- A job whose turn it is comes to stand where its routine stops. -/
theorem takeTurn_job? {h : Host σ V} {s : Scheduler σ V α} {id service : Nat}
    {wrap : Standing V β → Work V α} {st : Standing V β} {cancelling : Bool} {halt : Halt V β} {x : σ}
    (seat : Seat V α β wrap) (at_ : s.job? id = some ⟨service, wrap st, cancelling⟩)
    (goes : h.turn service (s.landed? service) cancelling st s.state = some (halt, x)) :
    (s.takeTurn h id).job? id =
      some ⟨service, wrap (halt.standing (s.loadOf service halt)), false⟩ := by
  have lt := lt_of_job? at_
  rw [takeTurn_of_some seat at_ goes]
  cases halt with
  | ended o =>
    rw [← takeTurn_of_some seat at_ goes, takeTurn_of_ended seat at_ goes]
    exact job?_reseat_self (x := x) lt
  | held path next =>
    rw [settle, setWork_reseat]
    exact job?_reseat_self (x := x) lt
  | paused path next =>
    rw [settle, setWork_reseat]
    exact job?_reseat_self (x := x) lt
  | sharing name path next =>
    rw [settle, join]
    split
    · next load flying =>
      have flying : s.flights.lookup (service, name) = some load := flying
      simp [setWork, reseat, job?, lt, Halt.standing, loadOf, flying]
      grind
    · next grounded =>
      have grounded : s.flights.lookup (service, name) = none := grounded
      simp [setWork, reseat, spawn, push, job?, lt, List.getElem?_append_left, Halt.standing, loadOf,
        grounded]

end Scheduler

end Stencil
