import Mathlib.Algebra.GroupWithZero.Nat
import Stencil.Proofs.Schedule.Deeds

/-!
# Totals over all jobs

A number for each job that does not change while the job waits, when it is told something and when it is cancelled
changes only at the turn of the job. So the total over all jobs changes by the number of the job whose turn it is,
and by the number of the load that it starts.

## Main definitions

- `Standing.Roused` — what becomes of a routine that waits, other than by its own turn
- `Scheduler.Measure` — a number for the work of a job that changes only at its turn
- `Scheduler.total` — the total over all jobs

## Main results

- `Scheduler.Rests.total`, `Scheduler.Move.total`
-/

namespace Stencil

variable {σ V α β : Type}

/-- What becomes of a routine that waits for a load or for the gate, when it need not wait any longer. -/
inductive Standing.Roused : Standing V β → Standing V β → Prop where
  | landed (l : Nat) (o : Except Failure V) (next : Except Failure V → Routine V β) :
      Roused (.waiting l next) (.landed o next)
  | passed (path : Text) (next : Except Failure Bytes → Routine V β) : Roused (.held path next) (.passed path next)
  | answered (path : Text) (a : Except Failure Bytes) (next : Except Failure Bytes → Routine V β) :
      Roused (.held path next) (.resumed (next a))
  | interrupted (l : Nat) (next : Except Failure V → Routine V β) :
      Roused (.waiting l next) (.resumed (next (.error .cancelled)))

namespace Standing

variable {st st' : Standing V β}

theorem roused_of_land {l : Nat} {o : Except Failure V} (is : st.land? l o = some st') : st.Roused st' := by
  cases st with
  | waiting l' next =>
    rw [land?] at is
    split at is
    · cases is
      exact .landed l' o next
    · cases is
  | _ => cases is

theorem roused_of_pass (is : st.pass? = some st') : st.Roused st' := by
  cases st with
  | held path next =>
    cases is
    exact .passed path next
  | _ => cases is

theorem roused_of_answer {a : Except Failure Bytes} (is : st.answer? a = some st') : st.Roused st' := by
  cases st with
  | held path next =>
    cases is
    exact .answered path a next
  | _ => cases is

theorem roused_of_interrupt (is : st.interrupt? = some st') : st.Roused st' := by
  cases st with
  | held path next =>
    cases is
    exact .answered path _ next
  | waiting l next =>
    cases is
    exact .interrupted l next
  | _ => cases is

end Standing

/-- A change of one member of a list changes the total by what the member counts. -/
theorem sum_map_modify {J : Type} {f : J → Nat} {g : J → J} {js : List J} {i : Nat} {j : J}
    (at_ : js[i]? = some j) : ((js.modify i g).map f).sum + f j = (js.map f).sum + f (g j) := by
  induction js generalizing i with
  | nil => cases at_
  | cons k js ih =>
    cases i with
    | zero =>
      obtain rfl := Option.some.inj at_
      simp only [List.modify_zero_cons, List.map_cons, List.sum_cons]
      omega
    | succ i =>
      have rest := ih (i := i) at_
      simp only [List.modify_succ_cons, List.map_cons, List.sum_cons]
      omega

theorem sum_map_modify_of_same {J : Type} {f : J → Nat} {g : J → J} (same : ∀ j, f (g j) = f j) (js : List J)
    (i : Nat) : ((js.modify i g).map f).sum = (js.map f).sum := by
  cases at_ : js[i]? with
  | none => rw [List.modify_eq_self (List.getElem?_eq_none_iff.mp at_)]
  | some j =>
    have changed := sum_map_modify (f := f) (g := g) at_
    rw [same] at changed
    exact Nat.add_right_cancel changed

namespace Scheduler

/-- A number for the work of a job of a service that changes only at the turn of the job. A request that was not
begun has none. -/
structure Measure (μ : Nat → Work V α → Nat) : Prop where
  bare : ∀ {service : Nat} {w w' : Work V α}, w'.bare = w.bare → μ service w' = μ service w
  roused : ∀ {β : Type} {service : Nat} {wrap : Standing V β → Work V α} {st st' : Standing V β},
    Seat V α β wrap → st.Roused st' → μ service (wrap st') = μ service (wrap st)
  fresh : ∀ (service : Nat) (r : Routine V α), μ service (.request (.fresh r)) = 0

/-- The total of a number over all jobs. -/
def total (μ : Nat → Work V α → Nat) (s : Scheduler σ V α) : Nat :=
  (s.jobs.map fun job => μ job.service job.work).sum

variable {μ : Nat → Work V α → Nat} {h : Host σ V} {s t : Scheduler σ V α} {e : Event σ V α} {id : Nat}

theorem total_of_jobs (same : t.jobs = s.jobs) : t.total μ = s.total μ := by
  rw [total, same, total]

theorem total_setWork {job : Job V α} (at_ : s.job? id = some job) (w : Work V α) :
    (s.setWork id w).total μ + μ job.service job.work = s.total μ + μ job.service w :=
  sum_map_modify (f := fun job : Job V α => μ job.service job.work) at_

theorem total_concat {job : Job V α} (added : t.jobs = s.jobs ++ [job]) :
    t.total μ = s.total μ + μ job.service job.work := by
  rw [total, added, List.map_append, List.sum_append, List.map_singleton, List.sum_singleton, total]

/-- The total of what is one or nothing is how often it is one. -/
theorem total_toNat (b : Nat → Work V α → Bool) (s : Scheduler σ V α) :
    s.total (fun service w => (b service w).toNat) = s.jobs.countP fun job => b job.service job.work := by
  rw [total]
  induction s.jobs with
  | nil => rfl
  | cons job jobs ih =>
    rw [List.map_cons, List.sum_cons, List.countP_cons, ih, Nat.add_comm]
    cases b job.service job.work <;> rfl

namespace Measure

variable (measure : Measure μ)

include measure

theorem total_setJob {job job' : Job V α} (at_ : s.job? id = some job) (service : job'.service = job.service)
    (work : job'.work.bare = job.work.bare) : (s.setJob id job').total μ = s.total μ := by
  have set : s.jobs.set id job' = s.jobs.modify id fun _ => job' := List.set_eq_modify _ _ _
  have changed := sum_map_modify (f := fun job : Job V α => μ job.service job.work) (g := fun _ => job') at_
  rw [service, measure.bare work] at changed
  rw [total, total, setJob, set]
  exact Nat.add_right_cancel changed

theorem total_joined {load : Nat}
    (joined : t.jobs = s.jobs.modify load fun job => { job with work := job.work.joinedBy id }) :
    t.total μ = s.total μ := by
  rw [total, joined, total]
  exact sum_map_modify_of_same (f := fun job : Job V α => μ job.service job.work)
    (g := fun job => { job with work := job.work.joinedBy id })
    (fun job => measure.bare (Work.bare_joinedBy id job.work)) s.jobs load

theorem total_wake {f : {β : Type} → Standing V β → Option (Standing V β)}
    (rouses : ∀ {β : Type} {st st' : Standing V β}, f st = some st' → st.Roused st') (s : Scheduler σ V α)
    (id : Nat) : (s.wake id f).total μ = s.total μ := by
  rw [wake]
  cases wakes : (s.job? id).bind fun job => job.work.restand? f with
  | none => rfl
  | some work =>
    obtain ⟨⟨service, work', c⟩, at_, restands⟩ := Option.bind_eq_some_iff.mp wakes
    obtain ⟨β, wrap, st, seat, rfl⟩ := work'.exists_seat
    rw [restand?_seat seat, Option.map_eq_some_iff] at restands
    obtain ⟨st', goes, rfl⟩ := restands
    have changed := total_setWork (μ := μ) at_ (wrap st')
    rw [measure.roused seat (rouses goes)] at changed
    exact Nat.add_right_cancel changed

theorem total_openGate (s : Scheduler σ V α) : s.openGate.total μ = s.total μ :=
  openGate_keeps (P := fun t => t.total μ = s.total μ)
    (fun t id same => (measure.total_wake Standing.roused_of_pass t id).trans same) (fun _ same => same) rfl

theorem total_cancel (s : Scheduler σ V α) (id : Nat) : (s.cancel id).2.total μ = s.total μ := by
  rw [cancel]
  cases at_ : s.job? id with
  | none => rfl
  | some job =>
    dsimp only
    split
    · rfl
    · split
      · exact measure.total_wake Standing.roused_of_interrupt _ id
      · exact measure.total_setJob at_ rfl rfl

end Measure

theorem Summons.total (measure : Measure μ) (summons : s.Summons e t id) : t.total μ = s.total μ := by
  cases summons with
  | step front => rfl
  | start service r => exact (total_concat rfl).trans (congrArg _ (measure.fresh service r))

/-- **Where no job takes its turn** the total stays as it is. -/
theorem Rests.total (measure : Measure μ) (rests : s.Rests h e) : (s.after h e).total μ = s.total μ := by
  have idle {t : Scheduler σ V α} {id : Nat} (summons : s.Summons e t id) : (s.after h e).total μ = s.total μ := by
    rw [summons.after, (rests.idle t id summons).1, summons.total measure]
  cases e with
  | step =>
    cases queue : s.queue with
    | nil => rw [after, step_of_empty queue]
    | cons x rest =>
      cases x with
      | turn id => exact idle (.step queue)
      | forget l | report l =>
        rw [after, step_of_queue queue]
        rfl
      | relay l id =>
        rw [after, step_of_queue queue, perform]
        split
        · rfl
        · exact measure.total_wake Standing.roused_of_land _ id
  | submit service r => exact (total_concat rfl).trans (congrArg _ (measure.fresh service r))
  | start service r => exact idle (.start service r)
  | cancel id => exact measure.total_cancel s id
  | openGate => exact measure.total_openGate s
  | answer id a => exact measure.total_wake Standing.roused_of_answer s id
  | update f => rfl

/-- The number of the load that a job starts that stops. -/
def launched (μ : Nat → Work V α → Nat) (h : Host σ V) (s : Scheduler σ V α) (id service : Nat) (y : σ) :
    Halt V β → Nat
  | .sharing name path _ =>
    if (s.flights.lookup (service, name)).isSome then 0
    else μ service (.load name (.fresh (h.load service name path y)) [id])
  | .ended _ | .held .. | .paused .. => 0

/-- **Where a job takes its turn** each total changes by its number, and by the number of the load that it
starts. -/
theorem Move.total {service : Nat} {wrap : Standing V β → Work V α} {st : Standing V β} {c : Bool} {halt : Halt V β}
    {y : σ} (move : s.Move h e t id service wrap st c halt y) :
    ∃ l, ∀ {μ : Nat → Work V α → Nat}, Measure μ → (s.after h e).total μ + μ service (wrap st) =
      s.total μ + μ service (wrap (halt.standing l)) + s.launched μ h id service y halt := by
  have flights : (t.reseat id service (wrap st) y).flights = s.flights := move.summons.flights
  rw [move.summons.after, takeTurn_of_some move.seat move.at_ move.goes']
  have same {μ : Nat → Work V α → Nat} (measure : Measure μ) : (t.reseat id service (wrap st) y).total μ = s.total μ := by
    rw [← move.summons.total measure]
    exact measure.total_setJob (s := { t with state := y }) move.at_ rfl rfl
  have now : (t.reseat id service (wrap st) y).job? id = some ⟨service, wrap st, false⟩ := by
    rw [job?_reseat, if_pos rfl, move.at_]
    rfl
  have state : (t.reseat id service (wrap st) y).state = y := rfl
  generalize t.reseat id service (wrap st) y = u at flights same now state
  have stops {μ : Nat → Work V α → Nat} (measure : Measure μ) (w : Work V α) :
      (u.setWork id w).total μ + μ service (wrap st) = s.total μ + μ service w := by
    rw [← same measure]
    exact total_setWork (μ := μ) now w
  cases halt with
  | ended o =>
    refine ⟨0, fun measure => ?_⟩
    have ends : ((u.setWork id (wrap (.ended o))).ending id).jobs = (u.setWork id (wrap (.ended o))).jobs := by
      rw [ending]
      split <;> rfl
    rw [settle, total_of_jobs ends]
    exact stops measure _
  | held path next => exact ⟨0, fun measure => stops measure _⟩
  | paused path next => exact ⟨0, fun measure => stops measure _⟩
  | sharing name path next =>
    rw [settle, join, flights]
    simp only [launched]
    cases s.flights.lookup (service, name) with
    | some load =>
      refine ⟨load, fun {μ} measure => ?_⟩
      -- the load learns who waits for it
      let v : Scheduler σ V α := { u with
        state := h.act service (.note (.joined name)) u.state
        jobs := u.jobs.modify load fun job => { job with work := job.work.joinedBy id } }
      have joined : v.total μ = u.total μ := measure.total_joined rfl
      obtain ⟨w, at_id, bare⟩ : ∃ w, v.job? id = some ⟨service, w, false⟩ ∧ w.bare = (wrap st).bare := by
        have modified : v.job? id = _ := List.getElem?_modify _ load u.jobs id
        rw [show u.jobs[id]? = _ from now] at modified
        by_cases own : load = id
        · simp only [if_pos own] at modified
          exact ⟨_, modified, Work.bare_joinedBy id (wrap st)⟩
        · simp only [if_neg own] at modified
          exact ⟨_, modified, rfl⟩
      have changed := total_setWork (μ := μ) at_id (wrap (.waiting load next))
      rw [measure.bare bare, joined, same measure] at changed
      exact changed
    | none =>
      refine ⟨u.jobs.length, fun {μ} measure => ?_⟩
      let load : Job V α := { service, work := .load name (.fresh (h.load service name path u.state)) [id] }
      let v := u.spawn service load.work
      have added : v.total μ = u.total μ + μ service load.work := total_concat (show v.jobs = u.jobs ++ [load] from rfl)
      have at_id : v.job? id = some ⟨service, wrap st, false⟩ :=
        (List.getElem?_append_left (lt_of_job? now)).trans now
      have changed := total_setWork (μ := μ) at_id (wrap (.waiting u.jobs.length next))
      rw [added, same measure] at changed
      refine changed.trans ?_
      simp only [load, state, Halt.standing, Option.isSome_none, Bool.false_eq_true, if_false]
      omega

end Scheduler

end Stencil
