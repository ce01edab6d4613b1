import Stencil.Metrics
import Stencil.Notice

/-!
# Routines

What a request does, step by step, as data: the lookups, reports and reads it asks for, and how it goes
on with each answer. A routine itself knows neither caches nor storage nor other requests.

## Main definitions

- `Routine` — the steps of a request
- `Routine.bind`, `Routine.attempt` — sequencing, and the handling of failures
- `Tally` and `Tally.apply` — what is counted
-/

namespace Stencil

/-- What a request counts in the metrics of its service. -/
inductive Tally where
  | hit
  | miss
  | fetch
  | compile
  | render
  | failure (kind : Kind)

def Tally.apply (t : Tally) (m : Metrics) : Metrics :=
  match t with
  | hit => m.recordHit
  | miss => m.recordMiss
  | fetch => m.recordFetch
  | compile => m.recordCompile
  | render => m.recordRender (.real 0.0)
  | failure kind => m.recordFailure kind

/-- What a request does without an answer. -/
inductive Act (V : Type) where
  | note (n : Notice)
  | count (t : Tally)
  /-- Put a value into the cache. -/
  | keep (name : Text) (value : V)
  /-- Look up a key that is no text, so that no entry can have it. -/
  | miss (shown : Text)
  /-- A value begins to run. -/
  | run (value : V)

/-- The steps of a request over a cache of `V`, up to a result. -/
inductive Routine (V α : Type) where
  | finish (result : Except Failure α)
  /-- Look a name up in the cache. -/
  | lookup (name : Text) (next : Option V → Routine V α)
  | act (a : Act V) (next : Routine V α)
  /-- Read a file of the storage. Other requests may proceed meanwhile. -/
  | read (path : Text) (next : Except Failure Bytes → Routine V α)
  /-- Wait for the load of a name that concurrent requests share. -/
  | share (name path : Text) (next : Except Failure V → Routine V α)

namespace Routine

variable {V α β : Type}

/-- Go on with the outcome of a routine, success or failure. -/
def onEnd : Routine V α → (Except Failure α → Routine V β) → Routine V β
  | finish r, f => f r
  | lookup name next, f => lookup name fun v => (next v).onEnd f
  | act a next, f => act a (next.onEnd f)
  | read path next, f => read path fun b => (next b).onEnd f
  | share name path next, f => share name path fun v => (next v).onEnd f

/-- Go on with the result of a routine. -/
def bind (r : Routine V α) (f : α → Routine V β) : Routine V β :=
  r.onEnd fun
    | .ok a => f a
    | .error e => finish (.error e)

instance : Monad (Routine V) where
  pure a := finish (.ok a)
  bind := bind

instance : Inhabited (Routine V α) := ⟨finish (.error default)⟩

/-- The outcome of a routine as its result. -/
def attempt (r : Routine V α) : Routine V (Except Failure α) :=
  r.onEnd fun outcome => finish (.ok outcome)

def fail (f : Failure) : Routine V α :=
  finish (.error f)

def ofExcept (r : Except Failure α) : Routine V α :=
  finish r

def perform (a : Act V) : Routine V Unit :=
  act a (finish (.ok ()))

def note (n : Notice) : Routine V Unit :=
  perform (.note n)

def count (t : Tally) : Routine V Unit :=
  perform (.count t)

/-- Handle failures. -/
def handle (r : Routine V α) (h : Failure → Routine V α) : Routine V α :=
  r.onEnd fun
    | .ok a => finish (.ok a)
    | .error f => h f

end Routine

end Stencil
