import Mathlib.Algebra.BigOperators.Group.List.Basic
import Stencil.Proofs.Schedule.Gate
import Stencil.Proofs.Session.Accounts
import Stencil.Proofs.Session.Balance
import Stencil.Proofs.Storage.Memory

/-!
# How the counters agree

Services, caches and the storage count on their own. Whatever happens in whatever order, their counters agree with
each other, and with what was done.

## Main definitions

- `Cache.count` — how often a cache was asked and found what it was asked for, or did not
- `Deployment.Recounts` — how the counts of the cache of a service change
- `Session.ReadsAtOnce` — no read is held

## Main results

- `Session.cacheCount_undergo` — the counters of a cache after a run
- `Session.reads_undergo` — the reads of the storage after a run
- `Session.counters_agree`
-/

namespace Stencil

open Deployment

/-! ### What caches count -/

namespace Cache

variable {α : Type}

/-- How often a lookup has found its key, or has not. -/
def count (c : Cache α) (hit : Bool) : Nat :=
  if hit then c.hits else c.misses

theorem count_lookup (c : Cache α) (key : Text) (hit : Bool) :
    (c.lookup key).2.count hit = c.count hit + ((c.lookup key).1.isSome == hit).toNat := by
  rw [Cache.lookup]
  cases c.find? key <;> cases hit <;> rfl

theorem count_miss (c : Cache α) (hit : Bool) : c.miss.count hit = c.count hit + (!hit).toNat := by
  cases hit <;> rfl

end Cache

/-- Whether a cache is asked with this answer. What can be no name is not found. -/
def Deed.looks {V : Type} (hit : Bool) : Deed V → Bool
  | lookup _ v => v.isSome == hit
  | act (.miss _) => !hit
  | act _ | join _ | begin _ | serve .. => false

/-- A name is looked up, or something that can be no name. -/
def Deed.resolves {V : Type} : Deed V → Bool
  | lookup .. | act (.miss _) => true
  | act _ | join _ | begin _ | serve .. => false

theorem Deed.looks_true {V : Type} (d : Deed V) : d.looks true = d.found := by
  cases d with
  | lookup name v => cases v <;> rfl
  | act a => cases a <;> rfl
  | join | begin | serve => rfl

/-- What is not found is no name, or is not there. -/
theorem Deed.looks_false {V : Type} (d : Deed V) : (d.looks false).toNat = d.absent.toNat + d.refused.toNat := by
  cases d with
  | lookup name v => cases v <;> rfl
  | act a => cases a <;> rfl
  | join | begin | serve => rfl

theorem Deed.resolves_looks {V : Type} (d : Deed V) :
    d.resolves.toNat = (d.looks true).toNat + (d.looks false).toNat := by
  cases d with
  | lookup name v => cases v <;> rfl
  | act a => cases a <;> rfl
  | join | begin | serve => rfl

namespace Deployment

/-- The counts of one of the caches. -/
def cacheCount (d : Deployment) (k : Nat) (hit : Bool) : Nat :=
  ((d.caches[k]?).map (Cache.count · hit)).getD 0

/-- How the counts of the cache of a service change. -/
def Recounts (service : Nat) (n : Bool → Nat) (d d' : Deployment) : Prop :=
  ∃ c, d'.caches = (d.setCache service c).caches ∧ ∀ hit, c.count hit = (d.cacheOf service).count hit + n hit

/-- To put back what is there changes nothing. -/
theorem setCache_cacheOf (d : Deployment) (service : Nat) : (d.setCache service (d.cacheOf service)).caches = d.caches := by
  rw [setCache, cacheOf]
  cases d.services[service]? with
  | none => rfl
  | some s =>
    change d.caches.set s.cache ((d.caches[s.cache]?).getD _) = _
    cases at_ : d.caches[s.cache]? with
    | none => exact List.set_eq_of_length_le (List.getElem?_eq_none_iff.mp at_)
    | some c =>
      obtain ⟨lt, rfl⟩ := List.getElem?_eq_some_iff.mp at_
      exact List.set_getElem_self lt

theorem recounts_same {service : Nat} {d d' : Deployment} (same : d'.caches = d.caches) :
    Recounts service (fun _ => 0) d d' :=
  ⟨d.cacheOf service, same.trans (d.setCache_cacheOf service).symm, fun _ => rfl⟩

theorem recounts_lookup (d : Deployment) (service : Nat) (name : Text) :
    Recounts service (fun hit => ((d.lookup service name).1.isSome == hit).toNat) d (d.lookup service name).2 :=
  ⟨((d.cacheOf service).lookup name).2, rfl, Cache.count_lookup _ name⟩

theorem caches_beginRead (d : Deployment) (path : Text) : (d.beginRead path).caches = d.caches := by
  rw [beginRead]
  cases d.storage <;> rfl

theorem caches_serve (d : Deployment) (path : Text) : (d.serve path).2.caches = d.caches := by
  rw [serve]
  cases d.storage with
  | memory m => rfl
  | files tree =>
    change (d.fileAnswer path (LocalStorage.read tree none path)).2.caches = _
    cases LocalStorage.read tree none path <;> rfl

/-- What a deed changes in the counts of the cache. -/
theorem recounts_effect {service : Nat} {deed : Deed Compiled} {d : Deployment} (answers : host.Answers service d deed) :
    Recounts service (fun hit => (deed.looks hit).toNat) d (host.effect service deed d) := by
  cases deed with
  | lookup name v =>
    obtain rfl : v = (d.lookup service name).1 := answers
    exact recounts_lookup d service name
  | act a =>
    cases a with
    | keep name v =>
      exact ⟨(d.cacheOf service).insert name v, caches_reports _ _, fun hit => by cases hit <;> rfl⟩
    | miss shown => exact ⟨(d.cacheOf service).miss, rfl, Cache.count_miss _⟩
    | note | count | run => exact recounts_same rfl
  | join => exact recounts_same rfl
  | begin path => exact recounts_same (caches_beginRead d path)
  | serve path answer => exact recounts_same (caches_serve d path)

variable {services : List (Pipeline × Nat)} {service k : Nat} {n : Bool → Nat} {d d' : Deployment}

theorem Recounts.length (recounts : Recounts service n d d') : d'.caches.length = d.caches.length := by
  obtain ⟨c, same, _⟩ := recounts
  rw [same, setCache]
  split
  · exact List.length_set
  · rfl

/-- The counts of a cache change if the service uses that cache. -/
theorem Recounts.cacheCount (recounts : Recounts service n d d') (there : k < d.caches.length) (hit : Bool) :
    d'.cacheCount k hit = d.cacheCount k hit + if uses d.roster (· == k) service then n hit else 0 := by
  obtain ⟨c, same, counts⟩ := recounts
  have counted := counts hit
  rw [cacheOf] at counted
  rw [Deployment.cacheCount, Deployment.cacheCount, same, uses, roster_getElem?, setCache]
  cases served : d.services[service]? with
  | none => rfl
  | some s =>
    by_cases own : s.cache = k
    · subst own
      rw [served, Option.bind_some, List.getElem?_eq_getElem there, Option.getD_some] at counted
      simp [there, counted]
    · simp [own, List.getElem?_set_ne own]

end Deployment

namespace Session

/-- A cache is asked directly, with this answer. -/
def Line.gets (k : Nat) (hit : Bool) : Line → Bool
  | got cache found => cache == k && found == hit
  | deed _ | read => false

/-- What is changed apart from the jobs, other than by direct lookups, leaves the counts as they are. -/
theorem Happening.Effect.recounts {a : Happening} {d d' : Deployment} (effect : a.Effect d d')
    (other : ∀ service name, a ≠ .get service name) : ∃ service, Recounts service (fun _ => 0) d d' := by
  cases effect with
  | get service name => exact absurd rfl (other service name)
  | read path => exact ⟨0, recounts_same ((caches_serve _ path).trans (caches_beginRead d path))⟩
  | edit f =>
    refine ⟨0, recounts_same ?_⟩
    rw [updateFiles]
    split <;> rfl
  | incident effect =>
    cases effect with
    | failing f => exact ⟨0, recounts_same (d.updateMemory_same _).2.1⟩
    | operation effect =>
      cases effect with
      | invalidate service name =>
        refine ⟨service, ((d.cacheOf service).invalidate name).2, ?_, fun hit => by cases hit <;> rfl⟩
        rw [invalidate]
        dsimp only
        split <;> rfl
      | clear service => exact ⟨service, (d.cacheOf service).clear, rfl, fun hit => by cases hit <;> rfl⟩
      | add | remove => exact ⟨0, recounts_same (d.updateMemory_same _).2.1⟩
      | hold | release => exact ⟨0, recounts_same rfl⟩

theorem Happening.Effect.length_caches {a : Happening} {d d' : Deployment} (effect : a.Effect d d') :
    d'.caches.length = d.caches.length := by
  by_cases direct : ∃ service name, a = .get service name
  · obtain ⟨service, name, rfl⟩ := direct
    cases effect
    exact (recounts_lookup d service name).length
  · obtain ⟨service, recounts⟩ := effect.recounts fun service name is => direct ⟨service, name, is⟩
    exact recounts.length

/-- Direct lookups are counted by the cache. -/
theorem Happening.Effect.cacheCount {a : Happening} {d d' : Deployment} (effect : a.Effect d d') {k : Nat}
    (there : k < d.caches.length) (hit : Bool) : k < d'.caches.length ∧
      d'.cacheCount k hit = d.cacheCount k hit + (a.uses d).countP (Line.gets k hit) := by
  refine ⟨effect.length_caches ▸ there, ?_⟩
  by_cases direct : ∃ service name, a = .get service name
  · obtain ⟨service, name, rfl⟩ := direct
    cases effect
    rw [(recounts_lookup d service name).cacheCount there, Happening.uses, Deployment.uses]
    cases d.roster[service]? with
    | none => rfl
    | some served => by_cases own : served.2 = k <;> simp [Line.gets, own, ← ite_eq_toNat]
  · obtain ⟨service, recounts⟩ := effect.recounts fun service name is => direct ⟨service, name, is⟩
    rw [recounts.cacheCount there, ite_self]
    cases a with
    | get service name => exact absurd ⟨service, name, rfl⟩ direct
    | incident | read | edit => rfl

/-- The counts of a cache show what is looked up in it. -/
theorem shows_cacheCount (services : List (Pipeline × Nat)) (k : Nat) (hit : Bool) :
    host.Shows (fun d => d.roster = services ∧ k < d.caches.length) (fun d => d.cacheCount k hit)
      fun service n deed => n + (uses services (· == k) service && deed.looks hit).toNat where
  keeps service deed d ok answers :=
    ⟨(frame_effect service deed d).roster.trans ok.1, (recounts_effect answers).length ▸ ok.2⟩
  shows service deed d ok answers := by
    rw [(recounts_effect answers).cacheCount ok.2, ok.1]
    cases uses services (· == k) service <;> rfl

variable {s t : Session} {services : List (Pipeline × Nat)}

/-- **The counts of a cache** after a run tell of the lookups of all services that use it, and of the direct ones. -/
theorem cacheCount_undergo (inService : s.InService services fun _ _ => True) {k : Nat}
    (there : k < s.state.caches.length) (as : List Happening) (hit : Bool) :
    k < (s.undergo as).state.caches.length ∧ (s.undergo as).state.cacheCount k hit = s.state.cacheCount k hit +
      told (s.chronicle as) (uses services (· == k)) (Deed.looks hit) + (s.chronicle as).countP (Line.gets k hit) := by
  have counts := chronicle_counts (u := Line.gets k hit) (shows_cacheCount services k hit) (fun _ => rfl)
    ⟨inService.roster, there⟩ as fun d a d' _ effect ok =>
      ⟨⟨effect.roster.trans ok.1, (effect.cacheCount ok.2 hit).1⟩, (effect.cacheCount ok.2 hit).2⟩
  exact ⟨counts.1.2, counts.2⟩

end Session

/-! ### What the storage counts -/

/-- How often a storage in memory was read. Files are not counted. -/
def Storage.totalReads : Storage → Nat
  | memory m => m.totalReads
  | files _ => 0

namespace Deployment

theorem storage_setCache (d : Deployment) (service : Nat) (c : Cache Compiled) :
    (d.setCache service c).storage = d.storage := by
  rw [setCache]
  split <;> rfl

theorem storage_reports (d : Deployment) (ns : List Notice) : (ns.foldl report d).storage = d.storage := by
  induction ns generalizing d with
  | nil => rfl
  | cons n ns ih => exact ih _

theorem totalReads_beginRead {d : Deployment} (memory : d.storage.isMemory = true) (path : Text) :
    (d.beginRead path).storage.totalReads = d.storage.totalReads + 1 := by
  rw [beginRead]
  cases storage : d.storage with
  | memory m => exact m.totalReads_countRead path
  | files tree =>
    rw [storage] at memory
    cases memory

theorem storage_serve {d : Deployment} (memory : d.storage.isMemory = true) (path : Text) :
    (d.serve path).2.storage = d.storage := by
  rw [serve]
  cases storage : d.storage with
  | memory m => exact storage
  | files tree =>
    rw [storage] at memory
    cases memory

/-- The storage counts what begins to be read. -/
theorem totalReads_effect {d : Deployment} (memory : d.storage.isMemory = true) (service : Nat)
    (deed : Deed Compiled) :
    (host.effect service deed d).storage.totalReads = d.storage.totalReads + deed.begun.toNat := by
  cases deed with
  | lookup name v => exact congrArg Storage.totalReads (d.storage_setCache service _)
  | act a =>
    cases a with
    | keep name v =>
      exact congrArg Storage.totalReads ((storage_reports _ _).trans (d.storage_setCache service _))
    | miss shown => exact congrArg Storage.totalReads (d.storage_setCache service _)
    | note | count | run => rfl
  | join => rfl
  | begin path => exact totalReads_beginRead memory path
  | serve path answer => exact congrArg Storage.totalReads (storage_serve memory path)

theorem shows_totalReads : host.Shows (fun d => d.storage.isMemory = true) (fun d => d.storage.totalReads)
    fun _ n deed => n + (true && deed.begun).toNat where
  keeps service deed d memory _ := (frame_effect service deed d).memory.trans memory
  shows service deed _ memory _ := totalReads_effect memory service deed

end Deployment

namespace Session

def Line.reads : Line → Bool
  | read => true
  | deed _ | got .. => false

/-- Direct reads are counted by the storage. -/
theorem Happening.Effect.totalReads {a : Happening} {d d' : Deployment} (effect : a.Effect d d')
    (memory : d.storage.isMemory = true) : d'.storage.isMemory = true ∧
      d'.storage.totalReads = d.storage.totalReads + (a.uses d).countP Line.reads := by
  have stores {f : MemoryStorage → MemoryStorage} (same : ∀ m, (f m).totalReads = m.totalReads) :
      (d.updateMemory f).storage.isMemory = true ∧
        (d.updateMemory f).storage.totalReads = d.storage.totalReads := by
    refine ⟨(d.updateMemory_same f).2.2.1.trans memory, ?_⟩
    rw [updateMemory]
    cases storage : d.storage with
    | memory m => exact same m
    | files tree => exact congrArg Storage.totalReads storage
  have kept (same : d'.storage = d.storage) : d'.storage.isMemory = true ∧
      d'.storage.totalReads = d.storage.totalReads := by
    rw [same]
    exact ⟨memory, rfl⟩
  cases effect with
  | get service name =>
    obtain ⟨memory', same⟩ := kept (d.storage_setCache service _)
    refine ⟨memory', same.trans ?_⟩
    rw [Happening.uses]
    split <;> rfl
  | read path =>
    have begun : (d.beginRead path).storage.isMemory = true := (d.frame_beginRead path).memory.trans memory
    rw [storage_serve begun]
    exact ⟨begun, totalReads_beginRead memory path⟩
  | edit f =>
    refine kept ?_
    rw [updateFiles]
    cases storage : d.storage with
    | memory m => exact storage
    | files tree =>
      rw [storage] at memory
      cases memory
  | incident effect =>
    cases effect with
    | failing f => exact stores fun _ => rfl
    | operation effect =>
      cases effect with
      | invalidate service name =>
        refine kept ?_
        rw [invalidate]
        dsimp only
        split <;> exact d.storage_setCache service _
      | clear service => exact kept (d.storage_setCache service _)
      | add | remove => exact stores fun _ => rfl
      | hold | release => exact kept rfl

variable {s t : Session} {services : List (Pipeline × Nat)}

/-- **The reads of the storage** after a run are those that the jobs began, and the direct ones. -/
theorem totalReads_undergo (memory : s.state.storage.isMemory = true) (as : List Happening) :
    (s.undergo as).state.storage.isMemory = true ∧ (s.undergo as).state.storage.totalReads =
      s.state.storage.totalReads + told (s.chronicle as) (fun _ => true) Deed.begun +
        (s.chronicle as).countP Line.reads :=
  chronicle_counts (u := Line.reads) shows_totalReads (fun _ => rfl) memory as
    fun _ _ _ _ effect memory => effect.totalReads memory

/-- No read is held, and what is counted as a read of some service is one. -/
structure ReadsAtOnce (services : List (Pipeline × Nat)) (t : Session) (ls : List Line) : Prop where
  passing : t.state.held = false
  jobs : ∀ id job, t.job? id = some job → job.work.atGate = false
  reads : told ls (uses services fun _ => true) (Deed.counts .fetch) = told ls (fun _ => true) Deed.begun

variable {asked : Nat → Request → Prop} {ls : List Line} {e : Event Deployment Compiled Bytes}

private theorem carries_passing (admits : t.Admits e) (passing : t.state.held = false) :
    t.Carries host e (fun _ _ w _ => w.atGate = false) (fun _ _ w _ => w.atGate = false) where
  rests := by
    intro id service w w' c same holds
    cases w with
    | request st => rwa [Work.bare_eq_request.mp same]
    | load name st ws =>
      cases w' with
      | request st' => cases same
      | load name' st' ws' =>
        cases same
        exact holds
  acts {_ _ _ _ _ _ _ halt _} l move _ _ := by
    have free := calm.turn passing move.goes
    obtain ⟨_, seat, _, _⟩ := move
    cases halt with
    | held path next => exact absurd rfl (free path next)
    | ended | paused | sharing => cases seat <;> rfl
  starts _ _ _ _ := rfl
  told seat _ _ _ := by cases seat <;> rfl
  passes seat holds := by cases seat <;> cases holds
  interrupted {_ _ _ _ st _ _} seat _ _ goes _ := by
    cases st <;> cases goes <;> cases seat <;> rfl
  flagged _ _ holds := holds
  answered _ is _ := by
    subst is
    cases admits
  brings _ := rfl

/-- **An event has each read begin at once** as long as no read is held. -/
theorem ReadsAtOnce.after (inService : t.InService services asked) (admits : t.Admits e) (brings : t.Brings asked e)
    (atOnce : ReadsAtOnce services t ls) :
    ReadsAtOnce services (t.after host e) (ls ++ (t.entries host e).map .deed) := by
  obtain ⟨passing, jobs, reads⟩ := atOnce
  have carries := carries_passing admits passing
  have jobs' := carries.jobs jobs
  obtain rests | @⟨_, id, service, _, wrap, st, c, halt, d, move⟩ := t.after_passing host e
  · rw [rests.entries, List.map_nil, List.append_nil]
    refine ⟨?_, jobs', reads⟩
    obtain same | ⟨f, is, _⟩ := rests.state
    · rw [same, passing]
    · exact absurd is (admits.inside f)
  · have stirs := inService.stirs admits brings (fun p _ _ => lacks_anyone p _) trivial move
    refine ⟨?_, jobs', ?_⟩
    · rw [move.state, move.entries, List.foldl_map]
      exact (frame_effects _ _ _).held.trans passing
    · rw [told_append, told_append, reads, move.entries, told_deeds, told_deeds]
      obtain ⟨g, joins, asks, _⟩ := sums_joining services t id d halt (beq_self_eq_true service)
      cases served : services[service]? with
      | none =>
        obtain ⟨idle, silent⟩ := stirs.idle served
        rw [idle, uses, served, List.nil_append, joins.begun]
        rfl
      | some found =>
        obtain ⟨l, now⟩ := move.job?
        obtain ⟨a, j, f, k, b, sums, _, _, _, reads⟩ := stirs.sums l
        have before := carries.summoned jobs move.summons move.at_
        have all := sums.append joins
        rw [uses, served, all.fetched, all.begun, reads before (jobs' id _ now)]
        rfl

/-- What is changed apart from the jobs holds reads only if that is what happens. -/
theorem Happening.Effect.passing {a : Happening} {d d' : Deployment} (effect : a.Effect d d')
    (other : a ≠ .incident (.operation .hold)) (passing : d.held = false) : d'.held = false := by
  cases effect with
  | get service name => exact (d.frame_lookup service name).held.trans passing
  | read path => exact ((d.frame_beginRead path).trans (frame_serve _ path)).held.trans passing
  | edit f =>
    rw [updateFiles]
    split <;> exact passing
  | incident effect =>
    cases effect with
    | failing f => exact (d.updateMemory_same _).2.2.2.trans passing
    | operation effect =>
      cases effect with
      | invalidate service name => exact (d.frame_invalidate service name).held.trans passing
      | clear service => exact (d.frame_clear service).held.trans passing
      | add | remove => exact (d.updateMemory_same _).2.2.2.trans passing
      | hold => exact absurd rfl other
      | release => rfl

/-- As long as no read is held, reads are what is counted as such. -/
theorem readsAtOnce_undergo (inService : s.InService services fun _ _ => True) (begun : s.jobs = [])
    (passing : s.state.held = false) (as : List Happening) (free : .incident (.operation .hold) ∉ as) :
    ReadsAtOnce services (s.undergo as) (s.chronicle as) := by
  refine (inService.undergo (Q := fun t ls => ReadsAtOnce services t ls) (fun _ _ _ => trivial) ?_ as ?_ ?_).2
  · refine ⟨passing, fun id job at_ => ?_, rfl⟩
    rw [Scheduler.job?, begun] at at_
    cases at_
  · exact fun t ls e inService admits brings atOnce => atOnce.after inService admits brings
  · intro t ls a d mem effect atOnce
    obtain ⟨passing, jobs, reads⟩ := atOnce
    refine ⟨effect.passing (fun is => free (is ▸ mem)) passing, jobs, ?_⟩
    simp only [told_append, told_uses, Nat.add_zero]
    exact reads

/-! ### How they agree -/

/-- No cache comes or goes. -/
theorem length_caches_undergo (s : Session) (as : List Happening) :
    (s.undergo as).state.caches.length = s.state.caches.length := by
  have shows : host.Shows (fun d => d.caches.length = s.state.caches.length) (fun _ => ()) fun _ _ _ => () := {
    keeps := fun service deed d same answers => (recounts_effect answers).length.trans same
    shows := fun _ _ _ _ _ => rfl }
  exact (chronicle_shows (g := fun _ _ => ()) shows rfl as fun d a d' _ effect same =>
    ⟨effect.length_caches.trans same, rfl⟩).1

/-- A new deployment has counted nothing. -/
theorem counted_create (pipelines : List (Pipeline × Nat)) (shared : Option Nat) (storage : Storage)
    (chosen : Nat → Bool) (t : Tally) : (Deployment.create pipelines shared storage).counted chosen t = 0 := by
  rw [counted]
  refine List.sum_eq_zero fun n mem => ?_
  obtain ⟨x, chosen_, rfl⟩ := List.mem_map.mp mem
  obtain ⟨service, at_⟩ := List.mem_iff_getElem?.mp (List.mem_of_mem_filter chosen_)
  rw [← metricsOf_of_at at_, metricsOf_create]
  cases t <;> rfl

theorem cacheCount_create (pipelines : List (Pipeline × Nat)) (shared : Option Nat) (storage : Storage) (k : Nat)
    (hit : Bool) : (Deployment.create pipelines shared storage).cacheCount k hit = 0 := by
  rw [cacheCount]
  cases at_ : (Deployment.create pipelines shared storage).caches[k]? with
  | none => rfl
  | some c =>
    have new : ∃ size, c = .empty size := by
      cases shared with
      | some size => exact ⟨size, List.mem_singleton.mp (List.mem_of_getElem? at_)⟩
      | none =>
        obtain ⟨⟨_, size⟩, _, rfl⟩ := List.mem_map.mp (List.mem_of_getElem? at_)
        exact ⟨size, rfl⟩
    obtain ⟨size, rfl⟩ := new
    cases hit <;> rfl

/-- What is of one kind or the other is told as often as both together. -/
theorem told_add {q q₁ q₂ : Deed Compiled → Bool} (splits : ∀ d, (q d).toNat = (q₁ d).toNat + (q₂ d).toNat)
    (ls : List Line) (chosen : Nat → Bool) : told ls chosen q = told ls chosen q₁ + told ls chosen q₂ := by
  have line (l : Line) : (l.by chosen q).toNat = (l.by chosen q₁).toNat + (l.by chosen q₂).toNat := by
    cases l with
    | got | read => rfl
    | deed e =>
      simp only [Line.by]
      cases chosen e.service with
      | true => exact splits e.deed
      | false => rfl
  induction ls with
  | nil => rfl
  | cons l ls ih =>
    rw [told, told, told] at *
    rw [List.countP_cons, List.countP_cons, List.countP_cons, ite_eq_toNat, ite_eq_toNat, ite_eq_toNat, ih,
      line]
    omega

/-- **The counters agree with each other and with what happened.** Let any number of services with any caches read
from one storage in memory, and let whatever happens happen, in any order. At each moment a cache has as many hits, and
as many misses, as the services that use it have counted together, and as the direct lookups had. The hits and misses
of a service are as many as the names it was to resolve, and its compilations as many as the templates it put into its
cache. It has compiled no more often than it has read, and read no more often than it has missed. It has read for each
miss, unless what was asked for is no name or its loads are shared: then the other misses are the joined loads, and the
loads that were created and have not started. As long as no read is held the storage was read as often as the services
have counted together, and as it was read directly. -/
theorem counters_agree (pipelines : List (Pipeline × Nat)) (shared : Option Nat) (m : MemoryStorage)
    (as : List Happening) :
    let s : Session := start (.create pipelines shared (.memory m))
    let t : Session := s.undergo as
    let ls : List Line := s.chronicle as
    (∀ k c, t.state.caches[k]? = some c →
      c.hits = t.state.counted (· == k) .hit + ls.countP (Line.gets k true) ∧
      c.misses = t.state.counted (· == k) .miss + ls.countP (Line.gets k false)) ∧
    (∀ x service, t.state.services[x]? = some service →
      let counts := service.metrics
      let did := told ls (· == x)
      counts.hits + counts.misses = did Deed.resolves ∧
      counts.compiles = did Deed.kept ∧ counts.compiles ≤ counts.fetches ∧ counts.fetches ≤ counts.misses ∧
      counts.misses = counts.fetches + did Deed.refused + if service.pipeline.singleFlight then
        did Deed.joined + t.jobs.countP (fun job => job.service == x && job.work.unstarted) else 0) ∧
    (.incident (.operation .hold) ∉ as → ∃ m', t.state.storage = .memory m' ∧
      m'.totalReads = m.totalReads + t.state.counted (fun _ => true) .fetch + ls.countP Line.reads) := by
  intro s t ls
  let services := s.state.roster
  have inService : s.InService services fun _ _ => True := inService_start _
  have sums (chosen : Nat → Bool) (tally : Tally) : t.state.counted chosen tally =
      told ls (uses services chosen) (Deed.counts tally) := by
    have counted := counted_sum_undergo (s := s) rfl as chosen tally
    rwa [show s.state.counted chosen tally = 0 from counted_create .., Nat.zero_add] at counted
  have balanced (chosen : Nat → Bool) : Balanced services chosen t ls := balanced_undergo inService rfl as chosen
  refine ⟨fun k c at_ => ?_, fun x service at_ => ?_, fun free => ?_⟩
  · have there : k < s.state.caches.length := by
      rw [← length_caches_undergo s as]
      exact (List.getElem?_eq_some_iff.mp at_).1
    have counts (hit : Bool) : c.count hit = told ls (uses services (· == k)) (Deed.looks hit) + ls.countP (Line.gets k hit) := by
      have counted := (cacheCount_undergo inService there as hit).2
      rw [show s.state.cacheCount k hit = 0 from cacheCount_create .., Nat.zero_add] at counted
      rw [← counted, cacheCount, show (s.undergo as).state.caches[k]? = some c from at_]
      rfl
    have hits : c.hits = _ := counts true
    have misses : c.misses = _ := counts false
    have balance := balanced (uses services (· == k))
    rw [hits, misses, sums, sums, balance.hits, balance.misses, ← told_add Deed.looks_false, funext Deed.looks_true]
    exact ⟨rfl, rfl⟩
  · obtain ⟨hits, misses, compiles, flows, bounds⟩ := balanced (· == x)
    have same : services = t.state.roster := (inService.lasts as).roster.symm
    have served : services[x]? = some (service.pipeline, service.cache) := by
      rw [same, roster_getElem?, at_]
      rfl
    have counts (tally : Tally) : service.metrics.counted tally = told ls (· == x) (Deed.counts tally) := by
      have there : x < s.state.services.length := by
        rw [← List.length_map (f := fun s : Service => (s.pipeline, s.cache))]
        exact (List.getElem?_eq_some_iff.mp served).1
      have counted := counted_undergo there as tally
      rw [show s.state.metricsOf x = {} from metricsOf_create .., metricsOf_of_at at_] at counted
      refine counted.trans ?_
      rw [show ({} : Metrics).counted tally = 0 by cases tally <;> rfl, Nat.zero_add]
      rfl
    have counted_hits : service.metrics.hits = _ := counts .hit
    have counted_misses : service.metrics.misses = _ := counts .miss
    have counted_compiles : service.metrics.compiles = _ := counts .compile
    have counted_fetches : service.metrics.fetches = _ := counts .fetch
    have looked : told ls (· == x) Deed.resolves = _ := told_add Deed.resolves_looks ls _
    rw [told_add Deed.looks_false, funext Deed.looks_true] at looked
    have pending : t.total (unstarted (· == x)) = t.jobs.countP fun job => job.service == x && job.work.unstarted :=
      Scheduler.total_toNat (fun service w => service == x && w.unstarted) t
    refine ⟨by omega, by omega, by omega, by omega, ?_⟩
    cases single : service.pipeline.singleFlight with
    | true =>
      rw [if_pos rfl]
      omega
    | false =>
      rw [if_neg Bool.false_ne_true]
      have joins : told ls (· == x) Deed.joined = 0 := joined_alone inService served single as
      have creates : t.total (unstarted (· == x)) = 0 := unstarted_alone (inService.lasts as) served single
      omega
  · have begun : s.state.storage = .memory m ∧ s.state.held = false := by cases shared <;> exact ⟨rfl, rfl⟩
    obtain ⟨memory, counted⟩ := totalReads_undergo (s := s) (by rw [begun.1]; rfl) as
    have reads := (readsAtOnce_undergo inService rfl begun.2 as free).reads
    rw [begun.1, ← reads] at counted
    rw [sums]
    change t.state.storage.isMemory = true at memory
    change t.state.storage.totalReads = m.totalReads + _ + _ at counted
    cases storage : t.state.storage with
    | memory m' =>
      rw [storage] at counted
      exact ⟨m', rfl, counted⟩
    | files tree =>
      rw [storage] at memory
      cases memory

/-- Two requests miss, one creates a load and the other joins it. A direct lookup misses too, and so does a direct
read. -/
theorem counters_agree_joined :
    let p : Pipeline := { templateDir := "t", singleFlight := true }
    let ask : Happening := .incident (.operation (.submit 0 (.file "x" none)))
    let step : Happening := .incident (.operation .step)
    let as : List Happening := [ask, ask, step, step, .get 0 "x", .read "t/x"]
    let t : Session := (start (.create [(p, 4)] none (.memory {}))).undergo as
    (∃ c, t.state.caches[0]? = some c ∧ c.misses = 3) ∧
    (∃ x, t.state.services[0]? = some x ∧ x.metrics.misses = x.metrics.fetches + 2) ∧
    ∃ m, t.state.storage = .memory m ∧ m.totalReads = 1 := by
  intro p ask step as
  obtain ⟨caches, services, reads⟩ := counters_agree [(p, 4)] none {} as
  refine ⟨?_, ?_, ?_⟩
  · obtain ⟨c, at_⟩ : ∃ c, ((start (.create [(p, 4)] none (.memory {}))).undergo as).state.caches[0]? = some c :=
      Option.isSome_iff_exists.mp (by decide +kernel)
    exact ⟨c, at_, (caches 0 c at_).2.trans (by decide +kernel)⟩
  · obtain ⟨x, at_⟩ : ∃ x, ((start (.create [(p, 4)] none (.memory {}))).undergo as).state.services[0]? = some x :=
      Option.isSome_iff_exists.mp (by decide +kernel)
    have single : (some x).any (·.pipeline.singleFlight) = true := by
      rw [← at_]
      decide +kernel
    obtain ⟨_, _, _, _, misses⟩ := services 0 x at_
    rw [if_pos (show x.pipeline.singleFlight = true from single), Nat.add_assoc] at misses
    exact ⟨x, at_, misses.trans (congrArg (x.metrics.fetches + ·) (by decide +kernel))⟩
  · obtain ⟨m, storage, counted⟩ := reads (by simp [as, ask, step])
    exact ⟨m, storage, counted.trans (by decide +kernel)⟩

end Session

end Stencil
