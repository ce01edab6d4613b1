import Stencil.Proofs.Routine.Answers
import Stencil.Proofs.Schedule.Order

/-!
# The course of a job

A job goes its way in turns, and between them it is told what it waits for, passes the gate or is
cancelled. What it still has to do is a part of what it had to do before. So a property of routines that
does not depend on their answers lasts as long as the job does.

## Main definitions

- `Standing.All` — a property of what a job still has to do
- `Scheduler.Lasts` — a property of a job that lasts unless the job is addressed from outside
- `Scheduler.Firm` — a property of a job that lasts whatever happens
-/

namespace Stencil

variable {σ V α β : Type}

/-- A property of what a job still has to do, with what it waits for. -/
def Standing.All (Q : Routine V β → Prop) : Standing V β → Prop
  | fresh r => Q r
  | held path next => Q (.read path next)
  | passed path next => Q (.read path next)
  | paused path next => Q (.read path next)
  | waiting _ next => ∃ name path, Q (.share name path next)
  | landed _ next => ∃ name path, Q (.share name path next)
  | resumed r => Q r
  | ended o => Q (.finish o)

namespace Host

variable {h : Host σ V} {service : Nat} {landed : Text → Option (Except Failure V)}
  {Q : Routine V β → Prop}

/-- Where a routine stops, it still has the property. -/
theorem advance_all (hereditary : Routine.Hereditary Q) {r : Routine V β} {x y : σ} {halt : Halt V β}
    (holds : Q r) (stops : h.advance service landed r x = (halt, y)) (l : Nat) :
    (halt.standing l).All Q := by
  induction r generalizing x with
  | finish o =>
    cases stops
    exact holds
  | lookup name next ih => exact ih _ (hereditary.lookup name next _ holds) stops
  | act a next ih => exact ih (hereditary.act a next holds) stops
  | read path next ih =>
    rw [advance] at stops
    split at stops <;> cases stops <;> exact holds
  | share name path next ih =>
    rw [advance] at stops
    split at stops
    · next o _ => exact ih o (hereditary.share name path next o holds) stops
    · cases stops
      exact ⟨name, path, holds⟩

theorem entry?_all (hereditary : Routine.Hereditary Q) {cancelling : Bool} {st : Standing V β}
    {x y : σ} {r : Routine V β} (all : st.All Q)
    (ends : cancelling = true → Q (.finish (.error .cancelled)))
    (enters : h.entry? cancelling st x = some (r, y)) : Q r := by
  cases st with
  | fresh r =>
    cases enters
    cases cancelling with
    | false => exact all
    | true => exact ends rfl
  | passed path next =>
    cases cancelling with
    | false => cases enters
    | true =>
      cases enters
      exact hereditary.read path next _ all
  | paused path next => cases cancelling <;> cases enters <;> exact hereditary.read path next _ all
  | landed o next =>
    cases enters
    obtain ⟨name, path, all⟩ := all
    exact hereditary.share name path next _ all
  | resumed r =>
    cases enters
    exact all
  | held path next => cases enters
  | waiting l next => cases enters
  | ended o => cases enters

/-- A job that takes its turn still has the property. -/
theorem turn_all (hereditary : Routine.Hereditary Q) {cancelling : Bool} {st : Standing V β}
    {x y : σ} {halt : Halt V β} (all : st.All Q)
    (ends : cancelling = true → Q (.finish (.error .cancelled)))
    (goes : h.turn service landed cancelling st x = some (halt, y)) (l : Nat) :
    (halt.standing l).All Q := by
  obtain ⟨r, z, enters, _, runs⟩ | ⟨path, next, rfl, _, pauses⟩ | ⟨_, stays⟩ :=
    h.turn_cases service landed cancelling st x
  · exact advance_all hereditary (entry?_all hereditary all ends enters)
      (Option.some.inj (runs.symm.trans goes)) l
  · cases pauses.symm.trans goes
    exact all
  · cases stays.symm.trans goes

end Host

namespace Scheduler

variable {h : Host σ V} {s : Scheduler σ V α} {P : Work V α → Bool → Prop}

/-- A property of the work of a job, and of whether the job is to be told that it was cancelled. It lasts
unless the job is cancelled or answered from outside. -/
structure Lasts (h : Host σ V) (P : Work V α → Bool → Prop) : Prop where
  bare : ∀ {w w' : Work V α} {c : Bool}, w'.bare = w.bare → P w c → P w' c
  acts : ∀ {β : Type} {wrap : Standing V β → Work V α} {st : Standing V β} {service : Nat}
    {landed : Text → Option (Except Failure V)} {c : Bool} {x y : σ} {halt : Halt V β} (l : Nat),
    Seat V α β wrap → P (wrap st) c → h.turn service landed c st x = some (halt, y) →
      P (wrap (halt.standing l)) false
  told : ∀ {β : Type} {wrap : Standing V β → Work V α} {next : Except Failure V → Routine V β}
    {c : Bool} (l : Nat) (o : Except Failure V), Seat V α β wrap → P (wrap (.waiting l next)) c →
      P (wrap (.landed o next)) c
  passes : ∀ {β : Type} {wrap : Standing V β → Work V α} {path : Text}
    {next : Except Failure Bytes → Routine V β} {c : Bool}, Seat V α β wrap →
      P (wrap (.held path next)) c → P (wrap (.passed path next)) c

/-- A property of a job that lasts whatever happens. -/
structure Firm (h : Host σ V) (P : Work V α → Bool → Prop) : Prop extends Lasts h P where
  answered : ∀ {β : Type} {wrap : Standing V β → Work V α} {path : Text}
    {next : Except Failure Bytes → Routine V β} {c : Bool} (a : Except Failure Bytes),
    Seat V α β wrap → P (wrap (.held path next)) c → P (wrap (.resumed (next a))) c
  interrupted : ∀ {β : Type} {wrap : Standing V β → Work V α} {st st' : Standing V β} {c : Bool},
    Seat V α β wrap → P (wrap st) c → st.interrupt? = some st' → P (wrap st') c
  flagged : ∀ {w : Work V α} {c : Bool}, P w c → P w true

/-- What lasts of where a request stands lasts of the request. -/
theorem Lasts.ofRequest {Q : Standing V α → Bool → Prop}
    (acts : ∀ {st : Standing V α} {service : Nat} {landed : Text → Option (Except Failure V)} {c : Bool}
      {x y : σ} {halt : Halt V α} (l : Nat), Q st c → h.turn service landed c st x = some (halt, y) →
        Q (halt.standing l) false)
    (told : ∀ {next : Except Failure V → Routine V α} {c : Bool} (l : Nat) (o : Except Failure V),
      Q (.waiting l next) c → Q (.landed o next) c)
    (passes : ∀ {path : Text} {next : Except Failure Bytes → Routine V α} {c : Bool},
      Q (.held path next) c → Q (.passed path next) c) :
    Lasts h fun (w : Work V α) c => ∃ st, w = .request st ∧ Q st c where
  bare same holds := by
    obtain ⟨st, rfl, holds⟩ := holds
    exact ⟨st, Work.bare_eq_request.mp same, holds⟩
  acts l seat holds goes := by
    obtain ⟨st, is, holds⟩ := holds
    cases seat with
    | load => cases is
    | request =>
      obtain rfl := Work.request.inj is
      exact ⟨_, rfl, acts l holds goes⟩
  told l o seat holds := by
    obtain ⟨st, is, holds⟩ := holds
    cases seat with
    | load => cases is
    | request =>
      obtain rfl := Work.request.inj is
      exact ⟨_, rfl, told l o holds⟩
  passes seat holds := by
    obtain ⟨st, is, holds⟩ := holds
    cases seat with
    | load => cases is
    | request =>
      obtain rfl := Work.request.inj is
      exact ⟨_, rfl, passes holds⟩

/-- What is firm of where a request stands is firm of the request. -/
theorem Firm.ofRequest {Q : Standing V α → Bool → Prop}
    (lasts : Lasts h fun (w : Work V α) c => ∃ st, w = .request st ∧ Q st c)
    (answered : ∀ {path : Text} {next : Except Failure Bytes → Routine V α} {c : Bool}
      (a : Except Failure Bytes), Q (.held path next) c → Q (.resumed (next a)) c)
    (interrupted : ∀ {st st' : Standing V α} {c : Bool}, Q st c → st.interrupt? = some st' → Q st' c)
    (flagged : ∀ {st : Standing V α} {c : Bool}, Q st c → Q st true) :
    Firm h fun (w : Work V α) c => ∃ st, w = .request st ∧ Q st c where
  toLasts := lasts
  answered a seat holds := by
    obtain ⟨st, is, holds⟩ := holds
    cases seat with
    | load => cases is
    | request =>
      obtain rfl := Work.request.inj is
      exact ⟨_, rfl, answered a holds⟩
  interrupted seat holds goes := by
    obtain ⟨st, is, holds⟩ := holds
    cases seat with
    | load => cases is
    | request =>
      obtain rfl := Work.request.inj is
      exact ⟨_, rfl, interrupted holds goes⟩
  flagged holds := by
    obtain ⟨st, rfl, holds⟩ := holds
    exact ⟨st, rfl, flagged holds⟩

private theorem Lasts.opens (lasts : Lasts h P) {id : Nat} {job : Job V α} (at_ : s.job? id = some job)
    (holds : P job.work job.cancelling) :
    ∃ job', s.openGate.job? id = some job' ∧ P job'.work job'.cancelling := by
  refine openGate_keeps (P := fun t => ∃ job', t.job? id = some job' ∧ P job'.work job'.cancelling)
    (fun t k kept => ?_) (fun _ kept => kept) ⟨job, at_, holds⟩
  obtain ⟨job', now, holds⟩ := kept
  obtain now | ⟨_, work, goes, now⟩ := wake_job? (k := k) now fun st => st.pass?
  · exact ⟨job', now, holds⟩
  · refine ⟨_, now, ?_⟩
    obtain ⟨service, work', cancelling⟩ := job'
    obtain ⟨β, wrap, st, seat, rfl⟩ := work'.exists_seat
    rw [restand?_seat seat, Option.map_eq_some_iff] at goes
    obtain ⟨st', passes, rfl⟩ := goes
    cases st with
    | held path next =>
      obtain rfl := Option.some.inj passes
      exact lasts.passes seat holds
    | _ => cases passes

/-- **What lasts** is kept by every event that does not address the job. -/
theorem Lasts.after (lasts : Lasts h P) {id : Nat} {job : Job V α} (at_ : s.job? id = some job)
    (holds : P job.work job.cancelling) {e : Event σ V α} (uncancelled : e ≠ .cancel id)
    (unanswered : ∀ a, e ≠ .answer id a) :
    ∃ job', (s.after h e).job? id = some job' ∧ P job'.work job'.cancelling := by
  obtain ⟨job', now, does⟩ := after_does (h := h) at_ e
  cases does with
  | rests same =>
    refine ⟨job', now, ?_⟩
    have flag : job'.cancelling = job.cancelling := by
      have := congrArg Job.cancelling same
      exact this
    rw [flag]
    exact lasts.bare (Job.work_of_bare same) holds
  | acts l _ seat is goes =>
    subst is
    exact ⟨_, now, lasts.acts l seat holds goes⟩
  | told _ seat is _ _ =>
    subst is
    exact ⟨_, now, lasts.told _ _ seat holds⟩
  | addressed own _ =>
    obtain rfl | ⟨_, rfl | ⟨a, rfl⟩⟩ := own
    · exact absurd rfl uncancelled
    · -- the gate opens for all jobs, so no event names this one
      exact lasts.opens at_ holds
    · exact absurd rfl (unanswered a)

/-- What lasts is kept by a cancellation too, if it does not depend on whether the job is cancelled. -/
theorem job?_cancel_of {id : Nat} {job : Job V α}
    (interrupted : ∀ {β : Type} {wrap : Standing V β → Work V α} {st st' : Standing V β} {c : Bool},
      Seat V α β wrap → P (wrap st) c → st.interrupt? = some st' → P (wrap st') c)
    (flagged : ∀ {w : Work V α} {c : Bool}, P w c → P w true) (at_ : s.job? id = some job)
    (holds : P job.work job.cancelling) :
    ∃ job', (s.cancel id).2.job? id = some job' ∧ P job'.work job'.cancelling := by
  obtain ⟨e, _⟩ | wakes | ⟨old, at_', _, e⟩ := s.cancel_cases id
  · exact ⟨job, by rw [e, at_], holds⟩
  · obtain ⟨β, wrap, st, st', service, c, seat, at_', goes, job?_eq⟩ := wakes.seat
    obtain rfl := Option.some.inj (at_.symm.trans at_')
    exact ⟨_, by rw [job?_eq, if_pos rfl], interrupted seat holds goes⟩
  · obtain rfl := Option.some.inj (at_.symm.trans at_')
    exact ⟨_, by rw [e, job?_setJob, if_pos rfl, at_, Option.map_some], flagged holds⟩

private theorem Firm.answers (firm : Firm h P) {id : Nat} {job : Job V α} (at_ : s.job? id = some job)
    (holds : P job.work job.cancelling) (a : Except Failure Bytes) :
    ∃ job', (s.answer id a).job? id = some job' ∧ P job'.work job'.cancelling := by
  obtain now | ⟨_, work, goes, now⟩ := wake_job? (k := id) at_ fun st => st.answer? a
  · exact ⟨job, now, holds⟩
  · refine ⟨_, now, ?_⟩
    obtain ⟨service, work', cancelling⟩ := job
    obtain ⟨β, wrap, st, seat, rfl⟩ := work'.exists_seat
    rw [restand?_seat seat, Option.map_eq_some_iff] at goes
    obtain ⟨st', answers, rfl⟩ := goes
    cases st with
    | held path next =>
      obtain rfl := Option.some.inj answers
      exact firm.answered a seat holds
    | _ => cases answers

/-- **What is firm** is kept by every event. -/
theorem Firm.after (firm : Firm h P) {id : Nat} {job : Job V α} (at_ : s.job? id = some job)
    (holds : P job.work job.cancelling) (e : Event σ V α) :
    ∃ job', (s.after h e).job? id = some job' ∧ P job'.work job'.cancelling := by
  by_cases cancels : e = .cancel id
  · subst cancels
    exact job?_cancel_of firm.interrupted firm.flagged at_ holds
  by_cases answers : ∃ a, e = .answer id a
  · obtain ⟨a, rfl⟩ := answers
    exact firm.answers at_ holds a
  exact firm.toLasts.after at_ holds cancels fun a is => answers ⟨a, is⟩

theorem Firm.play (firm : Firm h P) {id : Nat} {job : Job V α} (at_ : s.job? id = some job)
    (holds : P job.work job.cancelling) (es : List (Event σ V α)) :
    ∃ job', (s.play h es).job? id = some job' ∧ P job'.work job'.cancelling := by
  induction es generalizing s job with
  | nil => exact ⟨job, at_, holds⟩
  | cons e es ih =>
    obtain ⟨job', now, holds'⟩ := firm.after at_ holds e
    exact ih now holds'

end Scheduler

end Stencil
