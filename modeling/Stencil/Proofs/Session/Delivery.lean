import Stencil.Proofs.Pipeline.Closure
import Stencil.Proofs.Schedule.Cancellation
import Stencil.Proofs.Schedule.Progress
import Stencil.Proofs.Schedule.Rest
import Stencil.Proofs.Session.Operation

/-!
# The delivery of outcomes

The callback of a request is called once, after the request has ended, and it is given what the request
ended with. That is the cancellation if one was accepted. If none was, it is what the routine of the
request has come to by itself.

The load of a template asks for no other load: nested templates are loaded by the request that renders
them. So whatever the requests of a session wait for, they do not wait for each other, and a session
in which nothing is queued or held has done all that it was asked for.

## Main definitions

- `Outcome.ofEnd` — what a callback is given by what its request ended with

## Main results

- `Session.delivered_once` — the callback of a submitted request, over any run
- `Session.done_at_rest` — at rest all requests have been answered and no load is left, and at no time do
  jobs wait for each other in a circle
-/

namespace Stencil

/-- What a callback is given by what its request ended with. -/
def Outcome.ofEnd : Except Failure Bytes → Outcome
  | .ok bytes => .success bytes
  | .error f => .failure (if f.kind = .cancelled then .cancelled else f)

namespace Scheduler

variable {σ V α : Type} {h : Host σ V} {s : Scheduler σ V α} {id : Nat} {job : Job V α}

/-- The end of a request is reported once at most. -/
theorem Linked.reported_le (linked : s.Linked s.queue) (id : Nat) : s.reported.count id ≤ 1 := by
  by_cases ended : ∃ job, s.job? id = some job ∧ job.work.name? = none ∧ job.work.phase = .ended
  · obtain ⟨job, at_, isRequest, ended⟩ := ended
    have once := linked.reported id job at_ isRequest ended
    omega
  · have never := linked.unreported id fun job at_ isRequest phase =>
      ended ⟨job, at_, isRequest, phase⟩
    omega

/-- The end of a request has been reported once no report of it is queued. -/
theorem Linked.reported_once (linked : s.Linked s.queue) (at_ : s.job? id = some job)
    (isRequest : job.work.name? = none) (ended : job.work.phase = .ended)
    (ran : .report id ∉ s.queue) : s.reported.count id = 1 := by
  have once := linked.reported id job at_ isRequest ended
  rw [List.count_eq_zero.mpr ran] at once
  omega

/-- Who has ended cannot be cancelled any more. -/
theorem cancel_of_ended (at_ : s.job? id = some job) (ended : job.work.phase = .ended)
    (es : List (Event σ V α)) : ((s.play h es).cancel id).1 = false := by
  obtain ⟨job', now, same⟩ := play_ended (h := h) es at_ ended
  by_contra accepted
  obtain ⟨job'', now', live⟩ := (cancel_accepted_iff _ id).mp (by simpa using accepted)
  obtain rfl := Option.some.inj (now.symm.trans now')
  exact live ((Job.phase_of_bare same).trans ended)

end Scheduler

namespace Session

theorem delivery?_eq (s : Session) (id : Nat) :
    s.delivery? id = if s.reported.contains id then (s.outcome? id).map Outcome.ofEnd else none := by
  rw [delivery?]
  split
  · congr 1
    funext o
    cases o <;> rfl
  · rfl

/-- What was delivered stays so. -/
theorem delivery?_play {s : Session} {id : Nat} {o : Outcome} (delivered : s.delivery? id = some o)
    (es : List (Event Deployment Compiled Bytes)) :
    Session.delivery? (s.play Deployment.host es) id = some o := by
  rw [delivery?_eq] at delivered ⊢
  split at delivered
  · next reported =>
    obtain ⟨e, outcome, rfl⟩ := Option.map_eq_some_iff.mp delivered
    obtain ⟨new, same⟩ := Scheduler.play_reported Deployment.host s es
    rw [if_pos (by simp_all), Scheduler.play_outcome? es outcome, Option.map_some]
  · cases delivered

/-- The callback of a request that has ended was called once, if no report of it is queued. -/
theorem delivered_of_ended {s : Session} {id : Nat} {job : Job Compiled Bytes}
    (linked : s.Linked s.queue) (at_ : s.job? id = some job) (isRequest : job.work.name? = none)
    (ended : job.work.phase = .ended) (ran : .report id ∉ s.queue) :
    s.reported.count id = 1 ∧ (s.delivery? id).isSome := by
  have once := linked.reported_once at_ isRequest ended ran
  refine ⟨once, ?_⟩
  have reported : s.reported.contains id = true := by
    rw [List.contains_iff_mem]
    exact List.count_pos_iff.mp (by omega)
  rw [delivery?_eq, if_pos reported]
  obtain ⟨service, work, c⟩ := job
  cases work with
  | load name st waiters => cases isRequest
  | request st =>
    cases st with
    | ended e => rw [Scheduler.outcome?_of_at at_]; rfl
    | _ => cases ended

/-- **Delivery is exactly once.** Over any run, a callback is called once at most, and once when its
request has ended and no report of it is queued. It is given one of bytes and a failure: the cancellation
if one was accepted, and otherwise what the routine of the request has come to. Once the request has
ended, no cancellation is accepted. -/
theorem delivered_once (d : Deployment) (before after : List (Event Deployment Compiled Bytes))
    (service : Nat) (r : Request)
    (unanswered : ∀ a, .answer ((start d).play Deployment.host before).jobs.length a ∉ after) :
    let s : Session := (start d).play Deployment.host before
    let id := (s.submit service r).1
    let t : Session := (s.submit service r).2.play Deployment.host after
    t.reported.count id ≤ 1 ∧
    (t.hasEnded id = true → .report id ∉ t.queue →
      t.reported.count id = 1 ∧ (t.delivery? id).isSome) ∧
    (∀ o, t.delivery? id = some o →
      Outcome.ofParts? o.value? o.error? = .ok o ∧
      ((s.submit service r).2.Cancels Deployment.host id after → o = .failure .cancelled) ∧
      (¬(s.submit service r).2.Cancels Deployment.host id after → ∃ e,
        t.outcome? id = some e ∧ (s.routine service r).Leads (.finish e) ∧ o = .ofEnd e) ∧
      ∀ later, Session.delivery? (t.play Deployment.host later) id = some o) ∧
    (t.hasEnded id = true → ∀ later, ((t.play Deployment.host later).cancel id).1 = false) := by
  intro s id t
  have linked : t.Linked t.queue := by
    have := Scheduler.linked_play Deployment.host d (before ++ .submit service (s.routine service r) :: after)
    rwa [Scheduler.play_append] at this
  -- the request stays a request
  have submitted : (s.submit service r).2.job? id =
      some ⟨service, .request (.fresh (s.routine service r)), false⟩ := by
    simp [submit, Scheduler.submit, Scheduler.spawn, Scheduler.push, Scheduler.job?, id]
  obtain ⟨⟨service', work, c⟩, at_, _, kind⟩ := Scheduler.play_kind (h := Deployment.host) submitted after
  have ended_iff : t.hasEnded id = true ↔ work.phase = .ended := by
    rw [Scheduler.hasEnded, at_]
    exact work.hasEnded_iff
  have ended_of_outcome : ∀ {e}, t.outcome? id = some e → work = .request (.ended e) := by
    intro e outcome
    obtain ⟨_, _, now⟩ := Scheduler.at_of_outcome? outcome
    cases at_.symm.trans now
    rfl
  refine ⟨linked.reported_le id, fun ended ran => ?_, fun o delivered => ?_, fun ended later => ?_⟩
  · exact delivered_of_ended linked at_ kind (ended_iff.mp ended) ran
  · refine ⟨o.ofParts?_parts, ?_⟩
    have is := delivered
    rw [delivery?_eq] at is
    split at is
    · obtain ⟨e, outcome, rfl⟩ := Option.map_eq_some_iff.mp is
      obtain rfl := ended_of_outcome outcome
      obtain ⟨cancelled, own⟩ := Scheduler.course_of_submitted (s.yields_routine service r) after
        unanswered at_
      refine ⟨fun cancels => ?_, fun not => ⟨e, outcome, own not, rfl⟩, delivery?_play delivered⟩
      rw [cancelled cancels]
      rfl
    · cases is
  · exact Scheduler.cancel_of_ended at_ (ended_iff.mp ended) later

/-- The request that started a load is cancelled while it waits for it. -/
theorem delivered_once_cancelled :
    let p : Pipeline := { templateDir := "t", singleFlight := true }
    let d := Deployment.create [(p, 1)] none (.memory { files := [("t/x", [111])] })
    let after : List (Event Deployment Compiled Bytes) := .step :: .cancel 0 :: List.replicate 4 .step
    (∀ a, .answer 0 a ∉ after) ∧
      Session.delivery? (((start d).submit 0 (.file "x" none)).2.play Deployment.host after) 0 =
        some (.failure .cancelled) := by
  intro p d after
  have unanswered : ∀ a, .answer 0 a ∉ after := by simp [after]
  refine ⟨unanswered, ?_⟩
  obtain ⟨_, once, delivers, _⟩ := delivered_once d [] after 0 (.file "x" none) unanswered
  obtain ⟨o, delivered⟩ := Option.isSome_iff_exists.mp (once (by decide +kernel) (by decide +kernel)).2
  have cancels : ((start d).submit 0 (.file "x" none)).2.Cancels Deployment.host 0 after :=
    ⟨[.step], List.replicate 4 .step, rfl, by decide +kernel⟩
  exact (delivers o delivered).2.1 cancels ▸ delivered

end Session

/-! ### Sessions at rest -/

/-- A load asks for no other load. -/
theorem Pipeline.alone_load (p : Pipeline) (name path : Text) : (p.load name path).Alone := by
  refine Routine.Alone.bind (r := Routine.note _) trivial fun _ => ?_
  refine Routine.Alone.bind (r := Routine.count _) trivial fun _ => ?_
  refine Routine.Alone.bind (r := .read path fun r => .finish r) (fun _ => trivial) fun source => ?_
  exact Routine.Alone.bind (r := Routine.ofExcept _) trivial fun compiled => trivial

theorem Deployment.alone_load (service : Nat) (name path : Text) (d : Deployment) :
    (host.load service name path d).Alone := by
  change (d.load service name path).Alone
  rw [load]
  split
  · exact Pipeline.alone_load _ name path
  · trivial

namespace Session

/-- **No deadlock.** Once nothing is queued and no read is held, all jobs of a session have ended, all
requests have been answered once and no load is in flight. And never do jobs wait for each other in a
circle, so a request does not wait for a load that waits for it. -/
theorem done_at_rest (d : Deployment) (es : List (Event Deployment Compiled Bytes)) :
    let s : Session := (start d).play Deployment.host es
    (s.Idle → (∀ id job, s.job? id = some job → job.work.phase = .ended) ∧
      (∀ id job, s.job? id = some job → job.key? = none →
        s.reported.count id = 1 ∧ (s.delivery? id).isSome) ∧
      s.flights = []) ∧
    ∀ id, ¬Relation.TransGen s.Awaits id id := by
  intro s
  have linked : s.Linked s.queue := Scheduler.linked_play Deployment.host d es
  have solo : s.Solo := Scheduler.solo_play Deployment.host Deployment.alone_load d es
  refine ⟨fun idle => ⟨fun id job at_ => ?_, fun id job at_ isRequest => ?_, ?_⟩, solo.acyclic linked⟩
  · exact solo.all_ended linked idle at_
  · have ran : .report id ∉ s.queue := by
      rw [idle.queue]
      exact List.not_mem_nil
    exact delivered_of_ended linked at_ (Option.map_eq_none_iff.mp isRequest)
      (solo.all_ended linked idle at_) ran
  · exact solo.none_flying linked idle

/-- A template that renders itself is rendered with single flight until it is nested too deep. -/
theorem done_at_rest_nested :
    let p : Pipeline := { templateDir := "t", singleFlight := true, maxDepth := 2 }
    let source : Bytes := "\x7b\x7b render('x') \x7d\x7d".toList.map fun c => c.toNat.toUInt8
    let d := Deployment.create [(p, 0)] none (.memory { files := [("t/x", source)] })
    let s : Session := (start d).play Deployment.host
      (.submit 0 (p.renderFile "x" none) :: List.replicate 12 .step)
    s.Idle ∧ s.jobs.length = 3 ∧ s.flights = [] ∧ (s.delivery? 0).isSome := by
  intro p source d s
  have unheld : s.jobs.all fun job => job.work.phase ≠ .held := by decide +kernel
  have idle : s.Idle := by
    refine ⟨by decide +kernel, fun id job at_ => ?_⟩
    simpa using List.all_eq_true.mp unheld job (List.mem_of_getElem? at_)
  obtain ⟨_, delivered, grounded⟩ :=
    (done_at_rest d (.submit 0 (p.renderFile "x" none) :: List.replicate 12 .step)).1 idle
  have three : s.jobs.length = 3 := by decide +kernel
  have first : (s.job? 0).any fun job => job.key?.isNone := by decide +kernel
  obtain ⟨job, at_, isRequest⟩ := (Option.any_eq_true _ _).mp first
  exact ⟨idle, three, grounded, (delivered 0 job at_ (Option.isNone_iff_eq_none.mp isRequest)).2⟩

end Session

end Stencil
