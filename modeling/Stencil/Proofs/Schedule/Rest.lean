import Mathlib.Logic.Relation
import Stencil.Proofs.Schedule.Course
import Stencil.Proofs.Schedule.Flight

/-!
# Schedulers at rest

A load that asks for no other load waits for none. So whoever waits for a load waits for a job that does
not wait for another, and jobs cannot wait for each other in a circle. If no entry is queued and no job
is at the gate, there is nothing left that a job could wait for, and all jobs have ended.

## Main definitions

- `Work.Solo` — work that asks for no other load if it is one
- `Scheduler.Solo` — all loads go on alone
- `Scheduler.Awaits` — who waits for whom

## Main results

- `Scheduler.solo_play` — loads go on alone through every run
- `Scheduler.Solo.acyclic` — no job waits for itself, by way of others or not
- `Scheduler.Solo.all_ended` — at rest all jobs have ended
-/

namespace Stencil

variable {σ V α β : Type}

/-- Work that, if it is a load, asks for no other load. -/
def Work.Solo : Work V α → Prop
  | request _ => True
  | load _ st _ => st.All Routine.Alone

/-- Loads do not wait for loads. -/
theorem Work.Solo.not_waiting {w : Work V α} (solo : w.Solo) (isLoad : w.name?.isSome) (l : Nat) :
    w.phase ≠ .waiting l := by
  cases w with
  | request st => cases isLoad
  | load name st waiters =>
    intro waits
    cases st with
    | waiting l' next =>
      obtain ⟨_, _, shares⟩ := solo
      exact shares
    | _ => cases waits

namespace Scheduler

variable {h : Host σ V} {s : Scheduler σ V α}

/-- To go on alone is firm. -/
theorem firm_solo (h : Host σ V) : Firm h fun (w : Work V α) _ => w.Solo where
  bare {w w'} _ same solo := by
    cases w with
    | request st => rwa [Work.bare_eq_request.mp same]
    | load name st waiters =>
      cases w' with
      | request st' => trivial
      | load name' st' waiters' =>
        simp only [Work.bare, Work.load.injEq, and_true] at same
        exact same.2 ▸ solo
  acts l seat solo goes := by
    cases seat with
    | request => trivial
    | load => exact Host.turn_all Routine.hereditary_alone solo (fun _ => trivial) goes l
  told _ _ seat solo := by
    cases seat with
    | request => trivial
    | load => exact solo
  passes seat solo := by
    cases seat with
    | request => trivial
    | load => exact solo
  answered a seat solo := by
    cases seat with
    | request => trivial
    | load => exact solo a
  interrupted {_ _ st _ _} seat solo goes := by
    cases seat with
    | request => trivial
    | load =>
      cases st with
      | held path next =>
        obtain rfl := Option.some.inj goes
        exact solo _
      | waiting l next =>
        obtain ⟨_, _, shares⟩ := solo
        exact shares.elim
      | _ => cases goes
  flagged solo := solo

/-- All loads go on alone. -/
def Solo (s : Scheduler σ V α) : Prop :=
  ∀ id job, s.job? id = some job → job.work.Solo

/-- **One event** leaves loads alone. -/
theorem Solo.after (alone : ∀ service name path x, (h.load service name path x).Alone) (solo : s.Solo)
    (e : Event σ V α) : (s.after h e).Solo := by
  intro id job at_
  cases old : s.job? id with
  | some job' =>
    obtain ⟨job'', now, solo'⟩ := (firm_solo h).after old (solo id job' old) e
    obtain rfl := Option.some.inj (at_.symm.trans now)
    exact solo'
  | none =>
    obtain ⟨_, isRequest, _⟩ | ⟨t, k, turns, new, _⟩ := turns_of_new old at_
    · obtain ⟨service, work, cancelling⟩ := job
      cases work with
      | request st => trivial
      | load name st waiters => cases isRequest
    · obtain ⟨_, service, _, name, path, _, x, _, rfl⟩ := turns.started_of_new new at_
      exact alone service name path x

theorem Solo.play (alone : ∀ service name path x, (h.load service name path x).Alone) (solo : s.Solo)
    (es : List (Event σ V α)) : (s.play h es).Solo := by
  induction es generalizing s with
  | nil => exact solo
  | cons e es ih => exact ih (solo.after alone e)

/-- **Loads go on alone** through every run. -/
theorem solo_play (h : Host σ V) (alone : ∀ service name path x, (h.load service name path x).Alone)
    (x : σ) (es : List (Event σ V α)) : (play h { state := x } es).Solo := by
  refine Solo.play alone (fun id job at_ => ?_) es
  rw [job?, List.getElem?_nil] at at_
  cases at_

/-! ### Who waits for whom -/

/-- A job waits for another one. -/
def Awaits (s : Scheduler σ V α) (id l : Nat) : Prop :=
  ∃ job, s.job? id = some job ∧ job.work.phase = .waiting l

/-- Whom a job waits for waits for nobody. -/
theorem Solo.not_awaits (solo : s.Solo) (linked : s.Linked s.queue) {id l : Nat} (awaits : s.Awaits id l)
    (l' : Nat) : ¬s.Awaits l l' := by
  rintro ⟨load, at_l, waits⟩
  obtain ⟨job, at_, waits'⟩ := awaits
  cases isRequest : job.work.name? with
  | some name => exact (solo id job at_).not_waiting (by rw [isRequest]; rfl) l waits'
  | none =>
    obtain ⟨load', at_l', _, isLoad, _⟩ := linked.waiting id job l at_ isRequest waits'
    obtain rfl := Option.some.inj (at_l.symm.trans at_l')
    exact (solo l load at_l).not_waiting isLoad l' waits

/-- **No circle**: no job waits for one that waits for it, by way of others or not. -/
theorem Solo.acyclic (solo : s.Solo) (linked : s.Linked s.queue) (id : Nat) :
    ¬Relation.TransGen s.Awaits id id := by
  intro circle
  obtain ⟨l, awaits, rest⟩ := Relation.TransGen.head'_iff.mp circle
  obtain rfl | ⟨l', next, _⟩ := rest.cases_head
  · exact solo.not_awaits linked awaits l awaits
  · exact solo.not_awaits linked awaits l' next

/-! ### At rest -/

/-- No entry is queued and no job is held at the gate. -/
structure Idle (s : Scheduler σ V α) : Prop where
  queue : s.queue = []
  unheld : ∀ id job, s.job? id = some job → job.work.phase ≠ .held

section

variable (solo : s.Solo) (linked : s.Linked s.queue) (idle : s.Idle)

include solo linked idle

/-- **At rest all jobs have ended.** -/
theorem Solo.all_ended {id : Nat} {job : Job V α} (at_ : s.job? id = some job) :
    job.work.phase = .ended := by
  have unready : ∀ k job, s.job? k = some job → job.work.phase ≠ .ready := by
    intro k job at_ ready
    have queued := linked.ready k job at_ ready
    rw [idle.queue] at queued
    cases queued
  cases phase : job.work.phase with
  | ready => exact absurd phase (unready id job at_)
  | held => exact absurd phase (idle.unheld id job at_)
  | ended => rfl
  | waiting l =>
    cases isRequest : job.work.name? with
    | some name => exact absurd phase ((solo id job at_).not_waiting (by rw [isRequest]; rfl) l)
    | none =>
      -- the load that it waits for has nothing to wait for, and the news of its end is not queued
      obtain ⟨load, at_l, _, isLoad, _, news⟩ := linked.waiting id job l at_ isRequest phase
      rw [idle.queue] at news
      cases loading : load.work.phase with
      | ready => exact absurd loading (unready l load at_l)
      | held => exact absurd loading (idle.unheld l load at_l)
      | waiting l' => exact absurd loading ((solo l load at_l).not_waiting isLoad l')
      | ended => cases news loading

/-- At rest no load is in flight. -/
theorem Solo.none_flying : s.flights = [] := by
  rw [List.eq_nil_iff_forall_not_mem]
  rintro ⟨key, l⟩ flying
  obtain ⟨job, at_, _⟩ := linked.flight key l flying
  have forgotten := linked.landed key l job flying at_ (solo.all_ended linked idle at_)
  rw [idle.queue] at forgotten
  cases forgotten

end

end Scheduler

end Stencil
