import Stencil.Deployment
import Stencil.Outcome
import Stencil.Schedule.Scheduler

/-!
# Sessions

A deployment at work: requests are rendered one by one, together, or in the background, while
templates, caches and the storage change.

## Main definitions

- `Request` — a template to be rendered, or the error page
- `Session` — a deployment with its jobs
- `Session.render`, `Session.renderTogether`, `Session.submit` — the ways to have a request rendered
- `Session.delivery?` — what the callback of a submitted request is given
-/

namespace Stencil

/-- What a service can be asked for. -/
inductive Request where
  | file (name : Text) (model : Option Model)
  | page (model : Option Model)

def Request.routine (p : Pipeline) : Request → Routine Compiled Bytes
  | file name model => p.renderFile name model
  | page model => p.renderPage model

/-- A deployment with its jobs. -/
abbrev Session := Scheduler Deployment Compiled Bytes

namespace Session

def start (d : Deployment) : Session :=
  { state := d }

/-- The routine of a request to a service. -/
def routine (s : Session) (service : Nat) (r : Request) : Routine Compiled Bytes :=
  match s.state.services[service]? with
  | some found => r.routine found.pipeline
  | none => .fail (.ofText .runtime "no such service")

/-- Render a request now. There is no outcome if it waits for something that nobody will do. -/
def render (s : Session) (service : Nat) (r : Request) : Option (Except Failure Bytes) × Session :=
  Scheduler.runNow Deployment.host s service (s.routine service r)

/-- The outcome of a job as those see it who wait for its end: of a cancelled one they are told
nothing more. -/
def seenByOthers : Except Failure Bytes → Except Failure Bytes
  | .error f => .error (if f.kind = .cancelled then .cancelled else f)
  | .ok bytes => .ok bytes

/-- Render requests at the same time. -/
def renderTogether (s : Session) (service : Nat) (rs : List Request) :
    List (Option (Except Failure Bytes)) × Session :=
  let (outcomes, s) := Scheduler.runTogether Deployment.host s
    (rs.map fun r => (service, s.routine service r))
  (outcomes.map fun outcome => outcome.map seenByOthers, s)

/-- Have a request rendered in the background, as the job of the number that is returned. -/
def submit (s : Session) (service : Nat) (r : Request) : Nat × Session :=
  (s.jobs.length, Scheduler.submit s service (s.routine service r))

/-- What the callback of a submitted request is given. -/
def delivery? (s : Session) (id : Nat) : Option Outcome :=
  if s.reported.contains id then
    (s.outcome? id).map fun outcome => match seenByOthers outcome with
      | .ok bytes => .success bytes
      | .error f => .failure f
  else none

/-- Let the jobs take turns, for so many rounds. -/
def pass (s : Session) (rounds : Nat) : Session :=
  Scheduler.rounds Deployment.host rounds s

/-- How many rounds a session is given to come to rest. -/
def restingRounds : Nat := 200

def settle (s : Session) : Session :=
  s.pass restingRounds

/-- Change the deployment. -/
def update (s : Session) (f : Deployment → Deployment) : Session :=
  { s with state := f s.state }

/-- Have reads wait at the gate from now on. -/
def hold (s : Session) : Session :=
  s.update fun d => { d with held := true }

/-- Open the gate. -/
def release (s : Session) : Session :=
  (s.update fun d => { d with held := false }).openGate

end Session

end Stencil
