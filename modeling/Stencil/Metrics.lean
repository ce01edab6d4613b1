import Stencil.Cache
import Stencil.Failure
import Stencil.Number.Binary64

/-!
# Counters of the render pipeline

Lookups, reads, compilations and renders since the last reset, the number of failures of each kind,
and the durations of the latest renders.

## Main definitions

- `Duration` — a number of seconds, with `Duration.mean`
- `Metrics` — the counters
- `Metrics.recordRender` — counts a render and keeps its duration in a bounded window
- `Metrics.averageRenderTime` — the mean of the durations kept
-/

namespace Stencil

/-- A number of seconds. -/
inductive Duration where
  | whole (seconds : Int)
  | real (seconds : Float)
  deriving Inhabited

namespace Duration

/-- The nearest double; beyond all doubles it is infinite. -/
def ofInt (i : Int) : Float :=
  (Binary64.ofInt? i).getD (Binary64.infinity (i < 0))

/-- A sum. It is exact as long as both sides are whole. -/
def add : Duration → Duration → Duration
  | whole a, whole b => whole (a + b)
  | whole a, real y => real (ofInt a + y)
  | real x, whole b => real (x + ofInt b)
  | real x, real y => real (x + y)

/-- The quotient by a number, correctly rounded. -/
def divideBy (d : Duration) (n : Nat) : Float :=
  match d with
  | whole a => (Binary64.divide? a n).getD (Binary64.infinity (a < 0))
  | real x => x / Float.ofNat n

/-- The sum from the first on, divided by the number; of nothing it is zero. -/
def mean (ds : List Duration) : Float :=
  if ds.isEmpty then 0.0 else (ds.foldl add (whole 0)).divideBy ds.length

end Duration

/-- The counters of a render pipeline. -/
structure Metrics where
  hits : Nat := 0
  misses : Nat := 0
  fetches : Nat := 0
  compiles : Nat := 0
  renders : Nat := 0
  /-- Failures by kind, in the order in which the kinds first occurred. -/
  failures : List (Kind × Nat) := []
  /-- The durations of the latest renders, oldest first. -/
  durations : List Duration := []

namespace Metrics

/-- How many durations are kept. -/
def window : Nat := 1000

def recordHit (m : Metrics) : Metrics :=
  { m with hits := m.hits + 1 }

def recordMiss (m : Metrics) : Metrics :=
  { m with misses := m.misses + 1 }

def recordFetch (m : Metrics) : Metrics :=
  { m with fetches := m.fetches + 1 }

def recordCompile (m : Metrics) : Metrics :=
  { m with compiles := m.compiles + 1 }

/-- Keep the last `n` members of a list. -/
def latest {α : Type} (n : Nat) (xs : List α) : List α :=
  xs.drop (xs.length - n)

def recordRender (m : Metrics) (d : Duration) : Metrics :=
  { m with renders := m.renders + 1, durations := latest window (m.durations ++ [d]) }

/-- Add one to the count of a kind. -/
def bump (kind : Kind) : List (Kind × Nat) → List (Kind × Nat)
  | [] => [(kind, 1)]
  | (k, n) :: rest => if k = kind then (k, n + 1) :: rest else (k, n) :: bump kind rest

def recordFailure (m : Metrics) (kind : Kind) : Metrics :=
  { m with failures := bump kind m.failures }

def failureCount (m : Metrics) (kind : Kind) : Nat :=
  (m.failures.lookup kind).getD 0

def hitRate (m : Metrics) : Float :=
  Cache.ratio m.hits (m.hits + m.misses)

/-- The mean of the durations kept. -/
def averageRenderTime (m : Metrics) : Float :=
  Duration.mean m.durations

def reset (_ : Metrics) : Metrics := {}

end Metrics

end Stencil
