import Stencil.Schedule.Standing

/-!
# The scheduler

Jobs take turns in the order in which they become ready. A job is a request, or the load of a template
that several requests share. A load is its own job, so that cancelling the request that started it
takes nothing from the others.

## Main definitions

- `Job`, `Handle` — the jobs, and what can stand in the queue
- `Scheduler` — all jobs with the queue, the loads in flight and the gate
- `Scheduler.perform` — one entry of the queue
- `Scheduler.round`, `Scheduler.runUntil` — many of them
- `Scheduler.submit`, `Scheduler.cancel`, `Scheduler.openGate` — what can be done to a scheduler from outside

## Design notes

When a load ends it is not forgotten at once: that is an entry of the queue too, before those that tell
the waiting requests. A request that asks in between gets the outcome of the load that has ended.
-/

namespace Stencil

/-- What a job works on: a request, or a load with the jobs that wait for it, in the order in which
they came. -/
inductive Work (V α : Type) where
  | request (standing : Standing V α)
  | load (name : Text) (standing : Standing V V) (waiters : List Nat)

/-- A job of a service. -/
structure Job (V α : Type) where
  service : Nat
  work : Work V α
  /-- Whether it is to be told that it was cancelled. -/
  cancelling : Bool := false

/-- An entry of the queue. Jobs are given by their number. -/
inductive Handle where
  /-- A job goes on. -/
  | turn (job : Nat)
  /-- A load that has ended leaves the loads in flight. -/
  | forget (load : Nat)
  /-- A job is told the outcome of a load. -/
  | relay (load job : Nat)
  /-- The end of a request is reported. -/
  | report (job : Nat)
  deriving DecidableEq

/-- All jobs, the entries that are ready, and the state that the jobs work on. -/
structure Scheduler (σ V α : Type) where
  state : σ
  jobs : List (Job V α) := []
  queue : List Handle := []
  /-- The loads in flight by service and name. -/
  flights : List ((Nat × Text) × Nat) := []
  /-- The jobs that wait at the gate. -/
  gate : List Nat := []
  /-- The requests whose end was reported, in this order. -/
  reported : List Nat := []

namespace Work

variable {V α : Type}

def hasEnded : Work V α → Bool
  | request standing => standing.hasEnded
  | load _ standing _ => standing.hasEnded

/-- The outcome of a load that has ended, as those who wait for it are told. -/
def landed? : Work V α → Option (Except Failure V)
  | load _ (.ended (.error f)) _ => some (.error (if f.kind = .cancelled then .cancelled else f))
  | load _ (.ended outcome) _ => some outcome
  | _ => none

/-- The outcome of a request that has ended. -/
def outcome? : Work V α → Option (Except Failure α)
  | request (.ended outcome) => some outcome
  | _ => none

end Work

namespace Standing

variable {V β : Type}

/-- The standing of a job that waits for a load, once it has been told the outcome. -/
def land? (load : Nat) (outcome : Except Failure V) : Standing V β → Option (Standing V β)
  | waiting l next => if l = load then some (landed outcome next) else none
  | _ => none

/-- The standing of a job at the gate, once it may pass. -/
def pass? : Standing V β → Option (Standing V β)
  | held path next => some (passed path next)
  | _ => none

/-- The standing of a job at the gate whose read is answered from outside. -/
def answer? (answer : Except Failure Bytes) : Standing V β → Option (Standing V β)
  | held _ next => some (resumed (next answer))
  | _ => none

/-- The standing of a job that is cancelled while it waits for something that others do. -/
def interrupt? : Standing V β → Option (Standing V β)
  | held _ next => some (resumed (next (.error .cancelled)))
  | waiting _ next => some (resumed (next (.error .cancelled)))
  | _ => none

end Standing

namespace Work

variable {V α : Type}

/-- A load with one more job that waits for it. -/
def joinedBy (id : Nat) : Work V α → Work V α
  | load name standing waiters => load name standing (waiters ++ [id])
  | request standing => request standing

/-- Change where the routine of a job stands. -/
def restand? (f : {β : Type} → Standing V β → Option (Standing V β)) : Work V α → Option (Work V α)
  | request standing => (f standing).map request
  | load name standing waiters => (f standing).map fun s => load name s waiters

end Work

namespace Scheduler

variable {σ V α β : Type}

def job? (s : Scheduler σ V α) (id : Nat) : Option (Job V α) :=
  s.jobs[id]?

def push (s : Scheduler σ V α) (h : Handle) : Scheduler σ V α :=
  { s with queue := s.queue ++ [h] }

def setJob (s : Scheduler σ V α) (id : Nat) (job : Job V α) : Scheduler σ V α :=
  { s with jobs := s.jobs.set id job }

def setWork (s : Scheduler σ V α) (id : Nat) (work : Work V α) : Scheduler σ V α :=
  { s with jobs := s.jobs.modify id fun job => { job with work } }

/-- A new job that has not begun; its first turn comes after all that is queued. -/
def spawn (s : Scheduler σ V α) (service : Nat) (work : Work V α) : Scheduler σ V α :=
  let job : Job V α := { service, work }
  ({ s with jobs := s.jobs ++ [job] }).push (.turn s.jobs.length)

/-- The outcome of a load of a service that has ended and is not yet forgotten. -/
def landed? (s : Scheduler σ V α) (service : Nat) (name : Text) : Option (Except Failure V) := do
  let load ← s.flights.lookup (service, name)
  (← s.job? load).work.landed?

/-- Have a job wait for the load of a name, which is started if there is none in flight. -/
def join (h : Host σ V) (s : Scheduler σ V α) (id service : Nat) (name path : Text)
    (wait : Nat → Work V α) : Scheduler σ V α :=
  match s.flights.lookup (service, name) with
  | some load =>
    let s := { s with state := h.act service (.note (.joined name)) s.state }
    let s := { s with jobs := s.jobs.modify load fun job => { job with work := job.work.joinedBy id } }
    s.setWork id (wait load)
  | none =>
    let load := s.jobs.length
    let s := s.spawn service (.load name (.fresh (h.load service name path s.state)) [id])
    let s := { s with flights := s.flights ++ [((service, name), load)] }
    s.setWork id (wait load)

/-- What the end of a job puts into the queue. -/
def ending (s : Scheduler σ V α) (id : Nat) : Scheduler σ V α :=
  match s.job? id with
  | some { work := .load _ _ waiters, .. } =>
    { s with queue := s.queue ++ .forget id :: waiters.map (Handle.relay id) }
  | _ => s.push (.report id)

/-- Record where the routine of a job has stopped. -/
def settle (h : Host σ V) (s : Scheduler σ V α) (id service : Nat) (wrap : Standing V β → Work V α) :
    Halt V β → Scheduler σ V α
  | .ended outcome => (s.setWork id (wrap (.ended outcome))).ending id
  | .held path next =>
    { s.setWork id (wrap (.held path next)) with gate := s.gate ++ [id] }
  | .paused path next => (s.setWork id (wrap (.paused path next))).push (.turn id)
  | .sharing name path next => s.join h id service name path fun load => wrap (.waiting load next)

/-- A job takes its turn. -/
def takeTurn (h : Host σ V) (s : Scheduler σ V α) (id : Nat) : Scheduler σ V α :=
  match s.job? id with
  | none => s
  | some job =>
    let go {β : Type} (standing : Standing V β) (wrap : Standing V β → Work V α) :=
      match h.turn job.service (s.landed? job.service) job.cancelling standing s.state with
      | none => s
      | some (halt, state) =>
        let s := { s.setJob id { job with cancelling := false } with state }
        settle h s id job.service wrap halt
    match job.work with
    | .request standing => go standing .request
    | .load name standing waiters => go standing fun standing => .load name standing waiters

/-- Change where a job stands and put its next turn into the queue. -/
def wake (s : Scheduler σ V α) (id : Nat)
    (f : {β : Type} → Standing V β → Option (Standing V β)) : Scheduler σ V α :=
  match (s.job? id).bind fun job => job.work.restand? f with
  | none => s
  | some work => (s.setWork id work).push (.turn id)

/-- One entry of the queue. -/
def perform (h : Host σ V) (s : Scheduler σ V α) : Handle → Scheduler σ V α
  | .turn id => s.takeTurn h id
  | .forget load => { s with flights := s.flights.filter (·.2 != load) }
  | .relay load id =>
    match (s.job? load).bind fun job => job.work.landed? with
    | none => s
    | some outcome => s.wake id fun standing => standing.land? load outcome
  | .report id => { s with reported := s.reported ++ [id] }

/-- The first entry of the queue. -/
def step (h : Host σ V) (s : Scheduler σ V α) : Scheduler σ V α :=
  match s.queue with
  | [] => s
  | handle :: rest => ({ s with queue := rest }).perform h handle

/-- All entries that are in the queue now; what they add stays for later. -/
def round (h : Host σ V) (s : Scheduler σ V α) : Scheduler σ V α :=
  s.queue.length.repeat (step h) s

/-- So many rounds. -/
def rounds (h : Host σ V) (n : Nat) (s : Scheduler σ V α) : Scheduler σ V α :=
  n.repeat (round h) s

/-- Run until a condition holds, or nothing can proceed, or `fuel` entries have been performed. -/
def runUntil (h : Host σ V) (done : Scheduler σ V α → Bool) : Nat → Scheduler σ V α → Scheduler σ V α
  | 0, s => s
  | fuel + 1, s => if done s || s.queue.isEmpty then s else runUntil h done fuel (s.step h)

/-- How many entries one request may take. -/
def stepLimit : Nat := 1000000

/-! ### From outside -/

/-- Submit a request, as the job with the number that `s.jobs.length` says. -/
def submit (s : Scheduler σ V α) (service : Nat) (r : Routine V α) : Scheduler σ V α :=
  s.spawn service (.request (.fresh r))

/-- Whether a request has ended. -/
def hasEnded (s : Scheduler σ V α) (id : Nat) : Bool :=
  ((s.job? id).map fun job => job.work.hasEnded).getD true

def outcome? (s : Scheduler σ V α) (id : Nat) : Option (Except Failure α) := do
  (← s.job? id).work.outcome?

/-- Run a request now, before all that is queued, until it has ended. -/
def runNow (h : Host σ V) (s : Scheduler σ V α) (service : Nat) (r : Routine V α) :
    Option (Except Failure α) × Scheduler σ V α :=
  let id := s.jobs.length
  let job : Job V α := { service, work := .request (.fresh r) }
  let s := { s with jobs := s.jobs ++ [job] }
  let s := runUntil h (fun s => s.hasEnded id) stepLimit (s.takeTurn h id)
  (s.outcome? id, s)

/-- Run requests together until the end of the last one is known. -/
def runTogether (h : Host σ V) (s : Scheduler σ V α) (requests : List (Nat × Routine V α)) :
    List (Option (Except Failure α)) × Scheduler σ V α :=
  if requests.isEmpty then ([], s)
  else
    let first := s.jobs.length
    let ids := (List.range requests.length).map (first + ·)
    let s := requests.foldl (fun s (service, r) => s.submit service r) s
    let s := runUntil h (fun s => ids.all fun id => s.reported.contains id) stepLimit s
    let s := s.round h
    (ids.map s.outcome?, s)

/-- Cancel a request, and say whether it had not ended yet. -/
def cancel (s : Scheduler σ V α) (id : Nat) : Bool × Scheduler σ V α :=
  match s.job? id with
  | none => (false, s)
  | some job =>
    if job.work.hasEnded then (false, s)
    else match job.work.restand? fun standing => standing.interrupt? with
      | some _ =>
        let s := { s with gate := s.gate.filter (· != id) }
        (true, s.wake id fun standing => standing.interrupt?)
      | none => (true, s.setJob id { job with cancelling := true })

/-- Let the jobs at the gate pass, in the order in which they came. -/
def openGate (s : Scheduler σ V α) : Scheduler σ V α :=
  { s.gate.foldl (fun s id => s.wake id fun standing => standing.pass?) s with gate := [] }

/-- Answer the read of a job at the gate. -/
def answer (s : Scheduler σ V α) (id : Nat) (answer : Except Failure Bytes) : Scheduler σ V α :=
  { s.wake id fun standing => standing.answer? answer with gate := s.gate.filter (· != id) }

end Scheduler

end Stencil
