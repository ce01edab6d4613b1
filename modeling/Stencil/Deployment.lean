import Stencil.Cache
import Stencil.Pipeline
import Stencil.Schedule.Standing
import Stencil.Storage.Local
import Stencil.Storage.Memory

/-!
# Deployments

Services that run side by side: each has its own pipeline and counters, and all read from one storage.
Services may share a cache.

## Main definitions

- `Service` — a pipeline with its counters and the number of its cache
- `Deployment` — services, caches, storage, and the events that were reported
- `Deployment.host` — what the routines of requests do to a deployment
-/

namespace Stencil

/-- A rendering service. -/
structure Service where
  pipeline : Pipeline
  /-- Which of the caches it uses. -/
  cache : Nat
  metrics : Metrics := {}

/-- Where template sources are read from. -/
inductive Storage where
  | memory (storage : MemoryStorage)
  | files (tree : FileTree)

/-- Services over one storage. -/
structure Deployment where
  services : List Service
  caches : List (Cache Compiled)
  storage : Storage
  /-- Whether reads have to wait at the gate. -/
  held : Bool := false
  /-- What was reported, in order. -/
  notices : List Notice := []

namespace Deployment

/-- A deployment of pipelines, each with the size of its cache. With a `shared` size there is one
cache for all. -/
def create (pipelines : List (Pipeline × Nat)) (shared : Option Nat) (storage : Storage) :
    Deployment :=
  match shared with
  | some size => {
      services := pipelines.map fun (pipeline, _) => { pipeline, cache := 0 }
      caches := [.empty size]
      storage }
  | none => {
      services := pipelines.mapIdx fun n (pipeline, _) => { pipeline, cache := n }
      caches := pipelines.map fun (_, size) => .empty size
      storage }

def report (d : Deployment) (n : Notice) : Deployment :=
  { d with notices := d.notices ++ [n] }

/-- The cache of a service. -/
def cacheOf (d : Deployment) (service : Nat) : Cache Compiled :=
  ((d.services[service]?).bind fun s => d.caches[s.cache]?).getD (.empty 0)

def setCache (d : Deployment) (service : Nat) (c : Cache Compiled) : Deployment :=
  match d.services[service]? with
  | some s => { d with caches := d.caches.set s.cache c }
  | none => d

def metricsOf (d : Deployment) (service : Nat) : Metrics :=
  ((d.services[service]?).map (·.metrics)).getD {}

def updateMetrics (d : Deployment) (service : Nat) (f : Metrics → Metrics) : Deployment :=
  { d with services := d.services.modify service fun s => { s with metrics := f s.metrics } }

/-! ### The cache of a service -/

/-- Look a template up in the cache of a service. -/
def lookup (d : Deployment) (service : Nat) (name : Text) : Option Compiled × Deployment :=
  let (found, cache) := (d.cacheOf service).lookup name
  let notice := if found.isSome then .cacheHit name else .cacheMiss name
  (found, (d.setCache service cache).report notice)

/-- Look a key up that no template can have. -/
def miss (d : Deployment) (service : Nat) (shown : Text) : Deployment :=
  (d.setCache service (d.cacheOf service).miss).report (.cacheMiss shown)

/-- Put a template into the cache of a service. -/
def keep (d : Deployment) (service : Nat) (name : Text) (value : Compiled) : Deployment :=
  let cache := d.cacheOf service
  ((cache.overflow name).map Notice.evicted).foldl report
    (d.setCache service (cache.insert name value))

/-- Remove a template from the cache of a service, and say whether it was there. -/
def invalidate (d : Deployment) (service : Nat) (name : Text) : Bool × Deployment :=
  let (found, cache) := (d.cacheOf service).invalidate name
  let d := d.setCache service cache
  (found, if found then d.report (.invalidated name) else d)

def clear (d : Deployment) (service : Nat) : Deployment :=
  d.setCache service (d.cacheOf service).clear

/-! ### The storage -/

/-- A read begins. The storage in memory counts it. -/
def beginRead (d : Deployment) (path : Text) : Deployment :=
  match d.storage with
  | .memory m => { d with storage := .memory (m.countRead path) }
  | .files _ => d

/-- Report a file that has been read. -/
def fileAnswer (d : Deployment) (path : Text) (answer : Except Failure Bytes) :
    Except Failure Bytes × Deployment :=
  match answer with
  | .ok content =>
    (.ok content, d.report (.bytesRead content.length (LocalStorage.resolve none path)))
  | .error failure => (.error failure, d)

/-- Answer a read. -/
def serve (d : Deployment) (path : Text) : Except Failure Bytes × Deployment :=
  match d.storage with
  | .memory m => (m.serve path, d)
  | .files tree => d.fileAnswer path (LocalStorage.read tree none path)

def updateMemory (d : Deployment) (f : MemoryStorage → MemoryStorage) : Deployment :=
  match d.storage with
  | .memory m => { d with storage := .memory (f m) }
  | .files _ => d

def updateFiles (d : Deployment) (f : FileTree → FileTree) : Deployment :=
  match d.storage with
  | .memory _ => d
  | .files tree => { d with storage := .files (f tree) }

/-! ### Running requests -/

def act (d : Deployment) (service : Nat) : Act Compiled → Deployment
  | .note n => d.report n
  | .count t => d.updateMetrics service t.apply
  | .keep name value => d.keep service name value
  | .miss shown => d.miss service shown
  | .run _ => d

/-- The routine that loads a template for a service. -/
def load (d : Deployment) (service : Nat) (name path : Text) : Routine Compiled Compiled :=
  match d.services[service]? with
  | some s => s.pipeline.load name path
  | none => .fail (.ofText .runtime "no such service")

def host : Host Deployment Compiled where
  lookup service name d := d.lookup service name
  act service a d := d.act service a
  holding d := d.held
  beginRead path d := d.beginRead path
  serve path d := d.serve path
  load service name path d := d.load service name path

end Deployment

end Stencil
