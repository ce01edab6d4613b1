import Stencil.Proofs.Schedule.Order
import Stencil.Session

/-!
# Operations on a session

Whatever is done to a session is done in small parts: a job takes its turn, a request is submitted or
begun or cancelled, a template is dropped from a cache, or the storage changes.

## Main definitions

- `Session.Operation` — the small parts
- `Session.operate`, `Session.run` — a session after one of them, and after many
-/

namespace Stencil

namespace Scheduler

variable {σ V α : Type}

theorem repeat_step (h : Host σ V) (n : Nat) (s : Scheduler σ V α) :
    n.repeat (step h) s = s.steps h n := by
  induction n generalizing s with
  | zero => rfl
  | succ n ih =>
    rw [Nat.repeat, ih, ← steps_zero h (step h (s.steps h n)), ← steps_succ]
    exact (steps_add h n 1 s).symm

theorem round_steps (h : Host σ V) (s : Scheduler σ V α) : s.round h = s.steps h s.queue.length :=
  repeat_step h s.queue.length s

theorem exists_runUntil (h : Host σ V) (done : Scheduler σ V α → Bool) (fuel : Nat)
    (s : Scheduler σ V α) : ∃ n, runUntil h done fuel s = s.steps h n := by
  induction fuel generalizing s with
  | zero => exact ⟨0, rfl⟩
  | succ fuel ih =>
    rw [runUntil]
    split
    · exact ⟨0, rfl⟩
    · obtain ⟨n, e⟩ := ih (s.step h)
      exact ⟨n + 1, e⟩

theorem exists_rounds (h : Host σ V) (k : Nat) (s : Scheduler σ V α) :
    ∃ n, rounds h k s = s.steps h n := by
  induction k with
  | zero => exact ⟨0, rfl⟩
  | succ k ih =>
    obtain ⟨n, e⟩ := ih
    refine ⟨n + (s.steps h n).queue.length, ?_⟩
    rw [steps_add, ← round_steps, ← e]
    rfl

theorem exists_runTogether (h : Host σ V) (s : Scheduler σ V α) (requests : List (Nat × Routine V α)) :
    ∃ n, (runTogether h s requests).2 =
      (requests.foldl (fun s (service, r) => s.submit service r) s).steps h n := by
  rw [runTogether]
  split
  · next none =>
    obtain rfl := List.isEmpty_iff.mp none
    exact ⟨0, rfl⟩
  · let t := requests.foldl (fun s (service, r) => s.submit service r) s
    obtain ⟨n, e⟩ := exists_runUntil h
      (fun t => ((List.range requests.length).map (s.jobs.length + ·)).all fun id =>
        t.reported.contains id) stepLimit t
    refine ⟨n + (t.steps h n).queue.length, ?_⟩
    rw [steps_add, ← round_steps]
    exact congrArg (round h) e

/-- Jobs do not go away. -/
theorem length_le_play (h : Host σ V) (s : Scheduler σ V α) (es : List (Event σ V α)) :
    s.jobs.length ≤ (s.play h es).jobs.length := by
  by_contra shrinks
  have last := List.getElem?_eq_getElem (Nat.lt_of_not_le shrinks)
  obtain ⟨job, now, _⟩ := play_kind (h := h) last es
  exact Nat.lt_irrefl _ (lt_of_job? now)

end Scheduler

namespace Session

/-- What can be done to a session. -/
inductive Operation where
  /-- The first entry of the queue is performed. -/
  | step
  /-- A request is submitted as a new task. -/
  | submit (service : Nat) (r : Request)
  /-- A request is begun at once. -/
  | start (service : Nat) (r : Request)
  | cancel (id : Nat)
  | invalidate (service : Nat) (name : Text)
  | clear (service : Nat)
  | add (path : Text) (content : Bytes)
  | remove (path : Text)
  | hold
  | release

/-- What happens to the scheduler of a session in an operation. Only requests can be cancelled. -/
def Operation.events (s : Session) : Operation → List (Event Deployment Compiled Bytes)
  | step => [.step]
  | submit service r => [.submit service (s.routine service r)]
  | start service r => [.start service (s.routine service r)]
  | cancel id =>
    match s.job? id with
    | some { work := .request _, .. } => [.cancel id]
    | _ => []
  | invalidate service name => [.update fun d => (d.invalidate service name).2]
  | clear service => [.update fun d => d.clear service]
  | add path content => [.update fun d => d.updateMemory fun m => m.add path content]
  | remove path => [.update fun d => d.updateMemory fun m => (m.remove path).2]
  | hold => [.update fun d => { d with held := true }]
  | release => [.update fun d => { d with held := false }, .openGate]

/-- How an operation changes a deployment by itself, and not by the jobs. -/
inductive Operation.Effect (d : Deployment) : Operation → Deployment → Prop
  | invalidate (service : Nat) (name : Text) :
      Effect d (.invalidate service name) (d.invalidate service name).2
  | clear (service : Nat) : Effect d (.clear service) (d.clear service)
  | add (path : Text) (content : Bytes) :
      Effect d (.add path content) (d.updateMemory fun m => m.add path content)
  | remove (path : Text) : Effect d (.remove path) (d.updateMemory fun m => (m.remove path).2)
  | hold : Effect d .hold { d with held := true }
  | release : Effect d .release { d with held := false }

/-- An operation that changes what is stored. -/
def Operation.Changes : Operation → Prop
  | add .. | remove _ => True
  | _ => False

def operate (s : Session) (op : Operation) : Session :=
  s.play Deployment.host (op.events s)

def run (s : Session) (ops : List Operation) : Session :=
  ops.foldl operate s

@[simp] theorem run_nil (s : Session) : s.run [] = s := rfl

@[simp] theorem run_cons (s : Session) (op : Operation) (ops : List Operation) :
    s.run (op :: ops) = (s.operate op).run ops := rfl

theorem run_append (s : Session) (ops ops' : List Operation) :
    s.run (ops ++ ops') = (s.run ops).run ops' :=
  List.foldl_append

theorem run_steps (s : Session) (n : Nat) :
    s.run (List.replicate n .step) = s.steps Deployment.host n := by
  induction n generalizing s with
  | zero => rfl
  | succ n ih => exact ih (s.operate .step)

/-- An operation that asks a service for something. -/
def Operation.Asks (op : Operation) (service : Nat) (r : Request) : Prop :=
  op = .submit service r ∨ op = .start service r

/-- Who is asked for something gets a new job. -/
theorem Operation.Asks.job? {op : Operation} {service : Nat} {r : Request} (asks : op.Asks service r)
    (s : Session) : ∃ st cancelling, (s.operate op).job? s.jobs.length =
      some ⟨service, .request st, cancelling⟩ := by
  obtain rfl | rfl := asks
  · refine ⟨.fresh (s.routine service r), false, ?_⟩
    change (Scheduler.submit s service (s.routine service r)).job? s.jobs.length = _
    simp [Scheduler.submit, Scheduler.spawn, Scheduler.push, Scheduler.job?]
  · exact Scheduler.begin_job? Deployment.host s service (s.routine service r)

theorem run_play (s : Session) (ops : List Operation) : ∃ es, s.run ops = s.play Deployment.host es := by
  induction ops generalizing s with
  | nil => exact ⟨[], rfl⟩
  | cons op ops ih =>
    obtain ⟨es, e⟩ := ih (s.operate op)
    exact ⟨op.events s ++ es, by rw [run_cons, e, operate, Scheduler.play_append]⟩

/-- A request stays a request of its service. -/
theorem run_request {s : Session} {id service : Nat} {st : Standing Compiled Bytes} {cancelling : Bool}
    (at_ : s.job? id = some ⟨service, .request st, cancelling⟩) (ops : List Operation) :
    ∃ st cancelling, (s.run ops).job? id = some ⟨service, .request st, cancelling⟩ := by
  obtain ⟨es, e⟩ := s.run_play ops
  obtain ⟨⟨service', work, cancelling'⟩, now, same, kind⟩ :=
    Scheduler.play_kind (h := Deployment.host) at_ es
  obtain rfl : service' = service := same
  cases work with
  | request st' => exact ⟨st', cancelling', by rw [e, now]⟩
  | load name st' waiters => cases kind

theorem length_le_run (s : Session) (ops : List Operation) :
    s.jobs.length ≤ (s.run ops).jobs.length := by
  obtain ⟨es, e⟩ := s.run_play ops
  rw [e]
  exact Scheduler.length_le_play Deployment.host s es

theorem length_operate_le (s : Session) {ops pre post : List Operation} {op : Operation}
    (split : ops = pre ++ op :: post) :
    ((s.run pre).operate op).jobs.length ≤ (s.run ops).jobs.length := by
  rw [split, run_append, run_cons]
  exact length_le_run _ post

theorem submit_operate (s : Session) (service : Nat) (r : Request) :
    s.submit service r = (s.jobs.length, s.operate (.submit service r)) := rfl

theorem hold_operate (s : Session) : s.hold = s.operate .hold := rfl

theorem release_operate (s : Session) : s.release = s.operate .release := rfl

theorem exists_pass_run (s : Session) (rounds : Nat) : ∃ ops, s.pass rounds = s.run ops := by
  obtain ⟨n, e⟩ := Scheduler.exists_rounds Deployment.host rounds s
  exact ⟨_, e.trans (run_steps s n).symm⟩

/-- To render a request is to begin it and to let all jobs take turns. -/
theorem exists_render_run (s : Session) (service : Nat) (r : Request) :
    ∃ n, (s.render service r).2 = s.run (.start service r :: List.replicate n .step) := by
  obtain ⟨n, e⟩ := Scheduler.exists_runUntil Deployment.host
    (fun t : Session => t.hasEnded s.jobs.length) Scheduler.stepLimit (s.operate (.start service r))
  exact ⟨n, e.trans (run_steps _ n).symm⟩

private theorem run_submits (s : Session) (service : Nat) (rs : List Request) :
    s.run (rs.map (.submit service)) = (rs.map fun r => (service, s.routine service r)).foldl
      (fun s (service, r) => Scheduler.submit s service r) s := by
  induction rs generalizing s with
  | nil => rfl
  | cons r rs ih => exact ih (s.operate (.submit service r))

/-- To render requests together is to submit them and to let all jobs take turns. -/
theorem exists_renderTogether_run (s : Session) (service : Nat) (rs : List Request) :
    ∃ n, (s.renderTogether service rs).2 =
      s.run (rs.map (.submit service) ++ List.replicate n .step) := by
  obtain ⟨n, e⟩ := Scheduler.exists_runTogether Deployment.host s
    (rs.map fun r => (service, s.routine service r))
  refine ⟨n, Eq.trans ?_ (e.trans ?_)⟩
  · rfl
  · rw [run_append, run_steps, run_submits]

end Session

end Stencil
