import Stencil.Deployment
import Stencil.Proofs.Cache
import Stencil.Proofs.Schedule.Honors

/-!
# What requests do to a deployment

Requests change caches, counters and reports, and they count their reads. They change neither the
services nor what is stored.

## Main definitions

- `Storage.contents` — what reads are answered with
- `Deployment.roster` — the pipelines of the services, with their caches
- `Deployment.CachesHold` — all caches hold what they should
-/

namespace Stencil

/-- What reads of a storage are answered with. -/
def Storage.contents : Storage → Contents
  | memory m => m.serve
  | files tree => LocalStorage.read tree none

/-- What is read from a storage in memory is stored there. -/
theorem MemoryStorage.lookup_of_serve {m : MemoryStorage} {path : Text} {b : Bytes}
    (read : m.serve path = .ok b) : m.files.lookup (Path.normalize path) = some b := by
  rw [serve] at read
  split at read
  · cases read
  · split at read
    · next at_ => exact Except.ok.inj read ▸ at_
    · cases read

/-- Whether a storage is in memory. -/
def Storage.isMemory : Storage → Bool
  | memory _ => true
  | files _ => false

namespace Deployment

/-- The pipelines of the services, with the numbers of their caches. -/
def roster (d : Deployment) : List (Pipeline × Nat) :=
  d.services.map fun s => (s.pipeline, s.cache)

theorem roster_getElem? (d : Deployment) (service : Nat) :
    d.roster[service]? = (d.services[service]?).map fun s => (s.pipeline, s.cache) := by
  rw [roster, List.getElem?_map]

/-- What a service loads, its pipeline does. -/
theorem load_of_served {d : Deployment} {service k : Nat} {p : Pipeline}
    (served : d.roster[service]? = some (p, k)) (name path : Text) :
    d.load service name path = p.load name path := by
  rw [roster_getElem?, Option.map_eq_some_iff] at served
  obtain ⟨found, at_, same⟩ := served
  obtain ⟨rfl, -⟩ := Prod.mk.inj same
  rw [load, at_]

theorem host_contents (d : Deployment) : host.contents d = d.storage.contents := by
  funext path
  change (d.serve path).1 = _
  rw [serve]
  cases d.storage with
  | memory m => rfl
  | files tree =>
    change (d.fileAnswer path (LocalStorage.read tree none path)).1 = LocalStorage.read tree none path
    cases LocalStorage.read tree none path <;> rfl

/-- The services of a new deployment have the pipelines that were given. -/
theorem mem_of_create {pipelines : List (Pipeline × Nat)} {shared : Option Nat} {storage : Storage}
    {service : Nat} {p : Pipeline} {k : Nat}
    (is : (create pipelines shared storage).roster[service]? = some (p, k)) :
    ∃ size, (p, size) ∈ pipelines := by
  rw [roster_getElem?] at is
  cases shared with
  | some size =>
    simp only [create, List.getElem?_map, Option.map_eq_some_iff] at is
    obtain ⟨_, ⟨⟨p', size'⟩, at_, rfl⟩, same⟩ := is
    obtain ⟨rfl, -⟩ := Prod.mk.inj same
    exact ⟨size', List.mem_of_getElem? at_⟩
  | none =>
    simp only [create, List.getElem?_mapIdx, Option.map_eq_some_iff] at is
    obtain ⟨_, ⟨⟨p', size'⟩, at_, rfl⟩, same⟩ := is
    obtain ⟨rfl, -⟩ := Prod.mk.inj same
    exact ⟨size', List.mem_of_getElem? at_⟩

/-- What holds of all entries of all caches, by the number of the cache. -/
def CachesHold (P : Nat → Text → Compiled → Prop) (d : Deployment) : Prop :=
  ∀ (k : Nat) (c : Cache Compiled), d.caches[k]? = some c → c.Holds (P k)

theorem cachesHold_create (P : Nat → Text → Compiled → Prop) (pipelines : List (Pipeline × Nat))
    (shared : Option Nat) (storage : Storage) : (create pipelines shared storage).CachesHold P := by
  intro k c at_k
  cases shared with
  | some size =>
    obtain rfl : c = .empty size := List.mem_singleton.mp (List.mem_of_getElem? at_k)
    exact Cache.holds_empty size
  | none =>
    obtain ⟨⟨p, size⟩, _, rfl⟩ := List.mem_map.mp (List.mem_of_getElem? at_k)
    exact Cache.holds_empty size

/-- What requests leave as it is. -/
structure Frame (d d' : Deployment) : Prop where
  roster : d'.roster = d.roster
  contents : d'.storage.contents = d.storage.contents
  memory : d'.storage.isMemory = d.storage.isMemory
  held : d'.held = d.held

namespace Frame

variable {d d' d'' : Deployment}

@[refl] theorem refl (d : Deployment) : d.Frame d := ⟨rfl, rfl, rfl, rfl⟩

theorem trans (frame : d.Frame d') (frame' : d'.Frame d'') : d.Frame d'' :=
  ⟨frame'.roster.trans frame.roster, frame'.contents.trans frame.contents,
    frame'.memory.trans frame.memory, frame'.held.trans frame.held⟩

theorem host_contents (frame : d.Frame d') : host.contents d' = host.contents d := by
  rw [Deployment.host_contents, Deployment.host_contents, frame.contents]

end Frame

variable {P : Nat → Text → Compiled → Prop} {d : Deployment}

theorem frame_report (d : Deployment) (n : Notice) : d.Frame (d.report n) := ⟨rfl, rfl, rfl, rfl⟩

theorem frame_setCache (d : Deployment) (service : Nat) (c : Cache Compiled) :
    d.Frame (d.setCache service c) := by
  rw [setCache]
  split <;> exact ⟨rfl, rfl, rfl, rfl⟩

theorem notices_setCache (d : Deployment) (service : Nat) (c : Cache Compiled) :
    (d.setCache service c).notices = d.notices := by
  rw [setCache]
  split <;> rfl

theorem frame_updateMetrics (d : Deployment) (service : Nat) (f : Metrics → Metrics) :
    d.Frame (d.updateMetrics service f) := by
  refine ⟨List.ext_getElem? fun n => ?_, rfl, rfl, rfl⟩
  rw [roster_getElem?, roster_getElem?, updateMetrics, List.getElem?_modify]
  cases d.services[n]? with
  | none => rfl
  | some s => by_cases e : service = n <;> simp [e]

theorem CachesHold.cacheOf (holds : d.CachesHold P) {service k : Nat} {p : Pipeline}
    (is : d.roster[service]? = some (p, k)) : (d.cacheOf service).Holds (P k) := by
  rw [roster_getElem?, Option.map_eq_some_iff] at is
  obtain ⟨s, at_, same⟩ := is
  obtain ⟨rfl, rfl⟩ := Prod.mk.inj same
  rw [Deployment.cacheOf, at_, Option.bind_some]
  cases at_k : d.caches[s.cache]? with
  | none => exact Cache.holds_empty 0
  | some c => exact holds s.cache c at_k

/-- A service that is not there has an empty cache. -/
theorem cacheOf_none {service : Nat} (is : d.roster[service]? = none) :
    d.cacheOf service = .empty 0 := by
  rw [roster_getElem?, Option.map_eq_none_iff] at is
  rw [Deployment.cacheOf, is]
  rfl

theorem cachesHold_setCache {service : Nat} {c : Cache Compiled}
    (others : ∀ k c', (∀ p, d.roster[service]? ≠ some (p, k)) → d.caches[k]? = some c' → c'.Holds (P k))
    (new : ∀ p k, d.roster[service]? = some (p, k) → c.Holds (P k)) :
    (d.setCache service c).CachesHold P := by
  intro k c' at_k
  rw [setCache] at at_k
  split at at_k
  · next s at_ =>
    have is : d.roster[service]? = some (s.pipeline, s.cache) := by rw [roster_getElem?, at_]; rfl
    rw [List.getElem?_set] at at_k
    split at at_k
    · next e =>
      split at at_k
      · obtain rfl := Option.some.inj at_k
        exact e ▸ new _ _ is
      · cases at_k
    · next other =>
      refine others k c' (fun p is' => other ?_) at_k
      exact congrArg Prod.snd (Option.some.inj (is.symm.trans is'))
  · next none =>
    refine others k c' (fun p is => ?_) at_k
    rw [roster_getElem?, none] at is
    cases is

theorem CachesHold.setCache (holds : d.CachesHold P) {service : Nat} {c : Cache Compiled}
    (new : ∀ p k, d.roster[service]? = some (p, k) → c.Holds (P k)) :
    (d.setCache service c).CachesHold P :=
  cachesHold_setCache (fun k c' _ at_k => holds k c' at_k) new

/-! ### Lookups and acts -/

theorem frame_lookup (d : Deployment) (service : Nat) (name : Text) :
    d.Frame (d.lookup service name).2 :=
  (frame_setCache d service _).trans (frame_report _ _)

theorem CachesHold.lookup (holds : d.CachesHold P) (service : Nat) (name : Text) :
    (d.lookup service name).2.CachesHold P :=
  holds.setCache fun _ _ is => (holds.cacheOf is).lookup name

/-- What a lookup finds is in the cache of the service. -/
theorem CachesHold.found (holds : d.CachesHold P) {service : Nat} {name : Text} {v : Compiled}
    (found : (d.lookup service name).1 = some v) :
    ∃ p k, d.roster[service]? = some (p, k) ∧ P k name v := by
  have found : ((d.cacheOf service).lookup name).1 = some v := found
  cases is : d.roster[service]? with
  | none =>
    rw [cacheOf_none is] at found
    cases found
  | some known => exact ⟨_, _, rfl, (holds.cacheOf is).found found⟩

theorem frame_reports (d : Deployment) (ns : List Notice) : d.Frame (ns.foldl report d) := by
  induction ns generalizing d with
  | nil => exact .refl d
  | cons n ns ih => exact (frame_report d n).trans (ih _)

theorem caches_reports (d : Deployment) (ns : List Notice) :
    (ns.foldl report d).caches = d.caches := by
  induction ns generalizing d with
  | nil => rfl
  | cons n ns ih => exact ih _

theorem notices_reports (d : Deployment) (ns : List Notice) :
    (ns.foldl report d).notices = d.notices ++ ns := by
  induction ns generalizing d with
  | nil => exact (List.append_nil _).symm
  | cons n ns ih => rw [List.foldl_cons, ih, report, List.append_assoc, List.singleton_append]

theorem frame_keep (d : Deployment) (service : Nat) (name : Text) (v : Compiled) :
    d.Frame (d.keep service name v) :=
  (frame_setCache d service _).trans (frame_reports _ _)

/-- What is replaced need not be as it should. -/
theorem CachesHold.replace {service : Nat} {name : Text} {v : Compiled}
    (holds : d.CachesHold fun k n w => (∀ p, d.roster[service]? = some (p, k) → n ≠ name) → P k n w)
    (new : ∀ p k, d.roster[service]? = some (p, k) → P k name v) :
    (d.keep service name v).CachesHold P := by
  intro k c at_k
  rw [Deployment.keep, caches_reports] at at_k
  refine cachesHold_setCache (fun k c' other at_k => ?_) (fun p k is => ?_) k c at_k
  · exact (holds k c' at_k).mono fun n w held => held fun p is => absurd is (other p)
  · refine Cache.Holds.replace ?_ (new p k is)
    exact (holds.cacheOf is).mono fun n w held other => held fun _ _ => other

theorem CachesHold.keep (holds : d.CachesHold P) {service : Nat} {name : Text} {v : Compiled}
    (new : ∀ p k, d.roster[service]? = some (p, k) → P k name v) :
    (d.keep service name v).CachesHold P :=
  CachesHold.replace (fun k c at_k => (holds k c at_k).mono fun _ _ held _ => held) new

theorem frame_act (d : Deployment) (service : Nat) (a : Act Compiled) : d.Frame (d.act service a) := by
  cases a with
  | note n => exact frame_report d n
  | count t => exact frame_updateMetrics d service _
  | keep name v => exact frame_keep d service name v
  | miss shown => exact (frame_setCache d service _).trans (frame_report _ _)
  | run v => exact .refl d

theorem CachesHold.act (holds : d.CachesHold P) {service : Nat} {a : Act Compiled}
    (new : ∀ name v p k, a = .keep name v → d.roster[service]? = some (p, k) → P k name v) :
    (d.act service a).CachesHold P := by
  cases a with
  | note n => exact holds
  | count t => exact holds
  | keep name v => exact holds.keep fun p k is => new name v p k rfl is
  | miss shown => exact holds.setCache fun _ _ is => (holds.cacheOf is).miss
  | run v => exact holds

/-! ### Reads -/

theorem frame_beginRead (d : Deployment) (path : Text) : d.Frame (d.beginRead path) := by
  rw [beginRead]
  cases storage : d.storage with
  | memory m =>
    refine ⟨rfl, ?_, ?_, rfl⟩ <;> rw [storage] <;> rfl
  | files tree => exact .refl d

theorem notices_beginRead (d : Deployment) (path : Text) : (d.beginRead path).notices = d.notices := by
  rw [beginRead]
  cases d.storage <;> rfl

theorem CachesHold.beginRead (holds : d.CachesHold P) (path : Text) :
    (d.beginRead path).CachesHold P := by
  rw [Deployment.beginRead]
  cases d.storage <;> exact holds

theorem frame_serve (d : Deployment) (path : Text) : d.Frame (d.serve path).2 := by
  rw [serve]
  cases d.storage with
  | memory m => exact .refl d
  | files tree =>
    change d.Frame (d.fileAnswer path (LocalStorage.read tree none path)).2
    cases LocalStorage.read tree none path with
    | ok content => exact frame_report d _
    | error f => exact .refl d

theorem CachesHold.serve (holds : d.CachesHold P) (path : Text) :
    (d.serve path).2.CachesHold P := by
  rw [Deployment.serve]
  cases d.storage with
  | memory m => exact holds
  | files tree =>
    change (d.fileAnswer path (LocalStorage.read tree none path)).2.CachesHold P
    cases LocalStorage.read tree none path <;> exact holds

/-! ### From outside -/

theorem frame_invalidate (d : Deployment) (service : Nat) (name : Text) :
    d.Frame (d.invalidate service name).2 := by
  rw [invalidate]
  refine (frame_setCache d service ((d.cacheOf service).invalidate name).2).trans ?_
  dsimp only
  split
  · exact frame_report _ _
  · exact .refl _

/-- After a name was dropped, nothing that should not be kept has to be but what was under that name. -/
theorem CachesHold.invalidate {Q : Nat → Text → Compiled → Prop} (holds : d.CachesHold P)
    {service : Nat} {name : Text} (weaker : ∀ k n v,
      (∀ p, d.roster[service]? = some (p, k) → n ≠ name) → P k n v → Q k n v) :
    (d.invalidate service name).2.CachesHold Q := by
  have dropped : (d.setCache service ((d.cacheOf service).invalidate name).2).CachesHold Q := by
    refine cachesHold_setCache (fun k c' other at_k => ?_) fun p k is => ?_
    · exact (holds k c' at_k).mono fun n v => weaker k n v fun p is => absurd is (other p)
    · refine Cache.Holds.invalidate ((holds.cacheOf is).mono fun n v held other => ?_)
      exact weaker k n v (fun _ _ => other) held
  rw [Deployment.invalidate]
  dsimp only
  split <;> exact dropped

theorem frame_clear (d : Deployment) (service : Nat) : d.Frame (d.clear service) :=
  frame_setCache d service _

theorem CachesHold.clear (holds : d.CachesHold P) (service : Nat) : (d.clear service).CachesHold P :=
  holds.setCache fun _ _ _ => Cache.holds_clear _

/-! ### Changes of the storage -/

theorem notices_updateMemory (d : Deployment) (f : MemoryStorage → MemoryStorage) :
    (d.updateMemory f).notices = d.notices := by
  rw [updateMemory]
  split <;> rfl

/-- What the storage holds is all that changes with it. -/
theorem updateMemory_same (d : Deployment) (f : MemoryStorage → MemoryStorage) :
    (d.updateMemory f).roster = d.roster ∧ (d.updateMemory f).caches = d.caches ∧
      (d.updateMemory f).storage.isMemory = d.storage.isMemory ∧ (d.updateMemory f).held = d.held := by
  rw [Deployment.updateMemory]
  split
  · next m storage => exact ⟨rfl, rfl, by rw [storage]; rfl, rfl⟩
  · exact ⟨rfl, rfl, rfl, rfl⟩

end Deployment

end Stencil
