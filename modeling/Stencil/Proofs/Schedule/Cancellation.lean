import Stencil.Proofs.Schedule.Course

/-!
# Cancelled requests

A request goes its way until it is cancelled or has ended. Once a cancellation has been accepted, the
request can end in one way only, and what a request ends with that nobody cancelled is its own.

## Main definitions

- `Standing.Undisturbed` — a request that was not cancelled
- `Standing.Doomed` — a request that was
- `Scheduler.Cancels` — a run in which a cancellation of a job is accepted

## Main results

- `Scheduler.course_of_submitted` — where a request stands after a run, by whether it was cancelled
-/

namespace Stencil

variable {σ V α β : Type}

namespace Standing

/-- Where a job stands that was not cancelled. It has still to do what its routine leads to. -/
structure Undisturbed (r : Routine V β) (st : Standing V β) : Prop where
  all : st.All fun r' => r'.Yields ∧ r.Leads r'
  unanswered : ∀ r', st ≠ resumed r'

/-- Where a job stands that was cancelled: it is still to be told, or it is being told, or it has ended
for that reason. -/
inductive Doomed : Standing V β → Bool → Prop where
  | flagged {st : Standing V β} (ready : st.phase = .ready) (yields : st.All Routine.Yields)
      (unanswered : ∀ r, st ≠ resumed r) : Doomed st true
  | interrupted (c : Bool) : Doomed (resumed (.finish (.error .cancelled))) c
  | ended (c : Bool) : Doomed (ended (.error .cancelled)) c

theorem All.mono {Q Q' : Routine V β → Prop} {st : Standing V β} (all : st.All Q)
    (weaker : ∀ r, Q r → Q' r) : st.All Q' := by
  cases st with
  | waiting l next =>
    obtain ⟨name, path, holds⟩ := all
    exact ⟨name, path, weaker _ holds⟩
  | landed o next =>
    obtain ⟨name, path, holds⟩ := all
    exact ⟨name, path, weaker _ holds⟩
  | _ => exact weaker _ all

/-- A job that waits for something else is told at once that it was cancelled. -/
theorem Undisturbed.doomed_of_interrupt {r : Routine V β} {st st' : Standing V β}
    (undisturbed : st.Undisturbed r) (goes : st.interrupt? = some st') (c : Bool) : st'.Doomed c := by
  have all := undisturbed.all
  cases st with
  | held path next =>
    obtain rfl := Option.some.inj goes
    rw [all.1.1]
    exact .interrupted c
  | waiting l next =>
    obtain rfl := Option.some.inj goes
    obtain ⟨_, _, yields, _⟩ := all
    rw [yields.1]
    exact .interrupted c
  | _ => cases goes

end Standing

/-- A job that was cancelled is not held and waits for nobody. -/
theorem Standing.Doomed.neither {st : Standing V β} {c : Bool} (doomed : st.Doomed c) :
    st.phase ≠ .held ∧ ∀ l, st.phase ≠ .waiting l := by
  cases doomed with
  | flagged ready => simp [ready]
  | interrupted | ended => exact ⟨nofun, nofun⟩

theorem Halt.standing_ne_resumed (halt : Halt V β) (l : Nat) (r : Routine V β) :
    halt.standing l ≠ .resumed r := by
  cases halt <;> exact nofun

namespace Host

variable {h : Host σ V} {service : Nat} {landed : Text → Option (Except Failure V)}

/-- A job that is to be told of its cancellation ends at its turn. -/
theorem turn_of_doomed {st : Standing V β} {c : Bool} {x y : σ} {halt : Halt V β} (doomed : st.Doomed c)
    (goes : h.turn service landed c st x = some (halt, y)) : halt = .ended (.error .cancelled) := by
  cases doomed with
  | interrupted =>
    cases goes
    rfl
  | ended => cases goes
  | flagged ready yields unanswered =>
    cases st with
    | fresh r =>
      cases goes
      rfl
    | passed path next =>
      have goes : h.advance service landed (next (.error .cancelled)) x = _ := Option.some.inj goes
      rw [yields.1] at goes
      cases goes
      rfl
    | paused path next =>
      have goes : h.advance service landed (next (.error .cancelled)) x = _ := Option.some.inj goes
      rw [yields.1] at goes
      cases goes
      rfl
    | landed o next =>
      obtain ⟨_, _, yields, _⟩ := yields
      have goes : h.advance service landed (next (.error .cancelled)) x = _ := Option.some.inj goes
      rw [yields] at goes
      cases goes
      rfl
    | resumed r => exact absurd rfl (unanswered r)
    | held path next => cases ready
    | waiting l next => cases ready
    | ended o => cases ready

end Host

namespace Scheduler

variable {h : Host σ V} {s : Scheduler σ V α} {id service : Nat} {r : Routine V α}

/-- A request that nobody cancels goes its way. -/
theorem lasts_undisturbed (h : Host σ V) (r : Routine V α) :
    Lasts h fun w c => ∃ st, w = .request st ∧ c = false ∧ st.Undisturbed r := by
  refine .ofRequest (fun l holds goes => ?_) (fun l o holds => ?_) fun holds => ?_
  all_goals obtain ⟨rfl, undisturbed⟩ := holds
  · refine ⟨rfl, ?_, fun r' => Halt.standing_ne_resumed _ l r'⟩
    have hereditary := Routine.hereditary_yields.and (Routine.hereditary_leads r)
    exact Host.turn_all hereditary undisturbed.all (fun cancelled => by cases cancelled) goes l
  · exact ⟨rfl, undisturbed.all, nofun⟩
  · exact ⟨rfl, undisturbed.all, nofun⟩

/-- Whatever happens, a request that was cancelled remains so. Nothing but its turn can reach it. -/
theorem firm_doomed (h : Host σ V) :
    Firm h fun (w : Work V α) c => ∃ st, w = .request st ∧ st.Doomed c := by
  refine .ofRequest (.ofRequest (fun l doomed goes => ?_) (fun l o doomed => ?_) fun doomed => ?_)
    (fun a doomed => ?_) (fun doomed goes => ?_) fun doomed => ?_
  · obtain rfl := Host.turn_of_doomed doomed goes
    exact .ended false
  · exact absurd doomed.neither.2 (fun not => not l rfl)
  · exact absurd rfl doomed.neither.1
  · exact absurd rfl doomed.neither.1
  · obtain ⟨_, held | ⟨l, waits⟩⟩ := Standing.phase_of_interrupt goes
    · exact absurd held doomed.neither.1
    · exact absurd waits (doomed.neither.2 l)
  · cases doomed with
    | flagged ready yields unanswered => exact .flagged ready yields unanswered
    | interrupted => exact .interrupted true
    | ended => exact .ended true

/-! ### Accepted cancellations -/

/-- A cancellation is accepted exactly if the job has not ended. -/
theorem cancel_accepted_iff (s : Scheduler σ V α) (id : Nat) :
    (s.cancel id).1 = true ↔ ∃ job, s.job? id = some job ∧ job.work.phase ≠ .ended := by
  rw [cancel]
  cases at_ : s.job? id with
  | none => simp
  | some job =>
    have live : job.work.hasEnded = true ↔ job.work.phase = .ended := job.work.hasEnded_iff
    by_cases ended : job.work.hasEnded = true
    · simp [ended, live.mp ended]
    · have live := mt live.mpr ended
      dsimp only
      rw [if_neg ended]
      split <;> simp [live]

/-- A cancellation that is not accepted changes nothing. -/
theorem cancel_refused (s : Scheduler σ V α) (id : Nat) (refused : (s.cancel id).1 = false) :
    (s.cancel id).2 = s := by
  have ended : ∀ job, s.job? id = some job → job.work.phase = .ended := by
    intro job at_
    by_contra live
    cases refused.symm.trans ((s.cancel_accepted_iff id).mpr ⟨job, at_, live⟩)
  obtain ⟨e, _⟩ | wakes | ⟨job, at_, ready, _⟩ := s.cancel_cases id
  · exact e
  · obtain ⟨_, _, st, _, _, _, seat, at_, goes, _⟩ := wakes.seat
    obtain ⟨_, held | ⟨l, waits⟩⟩ := Standing.phase_of_interrupt goes
    · cases held.symm.trans ((seat.phase st).symm.trans (ended _ at_))
    · cases waits.symm.trans ((seat.phase st).symm.trans (ended _ at_))
  · cases ready.symm.trans (ended job at_)

/-- A request that was not cancelled before is doomed by a cancellation that is accepted. -/
theorem doomed_of_cancel {st : Standing V α} (accepted : (s.cancel id).1 = true)
    (at_ : s.job? id = some ⟨service, .request st, false⟩) (undisturbed : st.Undisturbed r) :
    ∃ job, (s.cancel id).2.job? id = some job ∧
      ∃ st', job.work = .request st' ∧ st'.Doomed job.cancelling := by
  obtain ⟨_, ended⟩ | wakes | ⟨old, at_', ready, e⟩ := s.cancel_cases id
  · obtain ⟨job, at_, live⟩ := (s.cancel_accepted_iff id).mp accepted
    exact absurd (ended job at_) live
  · obtain ⟨β, wrap, st₀, st', service, c, seat, at_', goes, job?_eq⟩ := wakes.seat
    have same : _ = _ := Option.some.inj (at_.symm.trans at_')
    cases seat with
    | load => cases same
    | request =>
      cases same
      refine ⟨_, by rw [job?_eq, if_pos rfl], st', rfl, ?_⟩
      exact undisturbed.doomed_of_interrupt goes false
  · obtain rfl := Option.some.inj (at_.symm.trans at_')
    refine ⟨_, by rw [e, job?_setJob, if_pos rfl, at_, Option.map_some], st, rfl, ?_⟩
    exact .flagged ready (undisturbed.all.mono fun _ => And.left) undisturbed.unanswered

/-- A cancellation of a job is accepted in a run. -/
def Cancels (h : Host σ V) (s : Scheduler σ V α) (id : Nat) (es : List (Event σ V α)) : Prop :=
  ∃ pre post, es = pre ++ .cancel id :: post ∧ ((s.play h pre).cancel id).1 = true

theorem not_cancels_nil : ¬s.Cancels h id [] := by
  rintro ⟨pre, post, e, _⟩
  cases pre <;> cases e

theorem cancels_cons {e : Event σ V α} {es : List (Event σ V α)} :
    s.Cancels h id (e :: es) ↔
      e = .cancel id ∧ (s.cancel id).1 = true ∨ (s.after h e).Cancels h id es := by
  constructor
  · rintro ⟨pre, post, split, accepted⟩
    cases pre with
    | nil =>
      obtain ⟨rfl, rfl⟩ := List.cons.inj split
      exact .inl ⟨rfl, accepted⟩
    | cons e' pre =>
      obtain ⟨rfl, rfl⟩ := List.cons.inj split
      exact .inr ⟨pre, post, rfl, accepted⟩
  · rintro (⟨rfl, accepted⟩ | ⟨pre, post, rfl, accepted⟩)
    · exact ⟨[], es, rfl, accepted⟩
    · exact ⟨e :: pre, post, rfl, accepted⟩

/-- A request that goes its way is doomed after a run in which it was cancelled, and otherwise it still
goes its way. -/
theorem course_of_undisturbed {st : Standing V α} (undisturbed : st.Undisturbed r)
    (at_ : s.job? id = some ⟨service, .request st, false⟩) (es : List (Event σ V α))
    (unanswered : ∀ a, .answer id a ∉ es) : ∃ st' service' c,
      (s.play h es).job? id = some ⟨service', .request st', c⟩ ∧
      (s.Cancels h id es → st'.Doomed c) ∧
      (¬s.Cancels h id es → st'.Undisturbed r) := by
  induction es generalizing s st service with
  | nil =>
    exact ⟨st, service, false, at_, fun cancels => absurd cancels not_cancels_nil,
      fun _ => undisturbed⟩
  | cons e es ih =>
    have later : ∀ a, .answer id a ∉ es := fun a mem => unanswered a (List.mem_cons_of_mem _ mem)
    -- the first cancellation that is accepted ends the course, and all others change nothing
    by_cases cancels : e = .cancel id ∧ (s.cancel id).1 = true
    · obtain ⟨rfl, accepted⟩ := cancels
      obtain ⟨job, now, doomed⟩ := doomed_of_cancel accepted at_ undisturbed
      obtain ⟨⟨service', work, c⟩, then_, st', is, doomed'⟩ := (firm_doomed h).play now doomed es
      obtain rfl : work = .request st' := is
      refine ⟨st', service', c, then_, fun _ => doomed', fun not => ?_⟩
      exact absurd (cancels_cons.mpr (.inl ⟨rfl, accepted⟩)) not
    · have rest : s.Cancels h id (e :: es) ↔ (s.after h e).Cancels h id es :=
        cancels_cons.trans (or_iff_right cancels)
      rw [rest]
      by_cases own : e = .cancel id
      · subst own
        have same := s.cancel_refused id (by simpa using cancels)
        have at_ : (s.after h (.cancel id)).job? id = some ⟨service, .request st, false⟩ := by
          rw [after, same, at_]
        exact ih undisturbed at_ later
      · have unanswered : ∀ a, e ≠ .answer id a := fun a is => unanswered a (is ▸ List.mem_cons_self)
        obtain ⟨⟨service', work, c⟩, now, st', rfl, rfl, undisturbed'⟩ :=
          (lasts_undisturbed h r).after at_ ⟨st, rfl, rfl, undisturbed⟩ own unanswered
        exact ih undisturbed' now later

/-- **The course of a request** that is submitted: it ends with the cancellation if one was accepted, and
otherwise with something that its own routine comes to. -/
theorem course_of_submitted (yields : r.Yields) (es : List (Event σ V α))
    (unanswered : ∀ a, .answer s.jobs.length a ∉ es) {o : Except Failure α} {service' : Nat} {c : Bool}
    (ended : ((s.submit service r).play h es).job? s.jobs.length =
      some ⟨service', .request (.ended o), c⟩) :
    ((s.submit service r).Cancels h s.jobs.length es → o = .error .cancelled) ∧
      (¬(s.submit service r).Cancels h s.jobs.length es → r.Leads (.finish o)) := by
  have undisturbed : (Standing.fresh r).Undisturbed r := ⟨⟨yields, .refl⟩, nofun⟩
  have submitted : (s.submit service r).job? s.jobs.length =
      some ⟨service, .request (.fresh r), false⟩ := by
    simp [submit, spawn, push, job?]
  obtain ⟨st, _, c', now, cancelled, own⟩ :=
    course_of_undisturbed (h := h) undisturbed submitted es unanswered
  cases ended.symm.trans now
  refine ⟨fun cancels => ?_, fun not => ((own not).all).2⟩
  cases cancelled cancels with
  | flagged ready => cases ready
  | ended => rfl

end Scheduler

end Stencil
