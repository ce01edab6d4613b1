import Stencil.Proofs.Cache.Room
import Stencil.Proofs.Session.Agreement

/-!
# A cache of one's own

Where each service has its own cache, only the deeds of the service change it, and what is done to that cache directly.

## Main definitions

- `Deployment.Owns` — a service has a cache of its own
- `Deed.onCache` — what a deed does to the cache of the service

## Main results

- `Deployment.shows_cacheOf` — a cache shows the deeds of its service
- `Session.Happening.Effect.cacheOf` — what is done to it directly
-/

namespace Stencil

open Deployment

/-- What a deed does to the cache of the service. -/
def Deed.onCache {V : Type} : Deed V → Cache V → Cache V
  | lookup name _, c => (c.lookup name).2
  | act (.keep name v), c => c.insert name v
  | act (.miss _), c => c.miss
  | act _, c | join _, c | begin _, c | serve .., c => c

namespace Deployment

/-- A service has a cache, which no other service uses. -/
structure Owns (services : List (Pipeline × Nat)) (x k : Nat) : Prop where
  uses : ∃ p, services[x]? = some (p, k)
  alone : ∀ y q, services[y]? = some (q, k) → y = x

/-- In a new deployment without a shared cache each service has its own. -/
theorem owns_create {pipelines : List (Pipeline × Nat)} (storage : Storage) {x size : Nat} {p : Pipeline}
    (at_ : pipelines[x]? = some (p, size)) : Owns (create pipelines none storage).roster x x ∧
      x < (create pipelines none storage).caches.length ∧
      (create pipelines none storage).roster[x]? = some (p, x) ∧
      (create pipelines none storage).cacheOf x = .empty size := by
  have served (y : Nat) : (create pipelines none storage).services[y]? =
      (pipelines[y]?).map fun found => { pipeline := found.1, cache := y } := by
    rw [create, List.getElem?_mapIdx]
  have roster : (create pipelines none storage).roster[x]? = some (p, x) := by
    rw [roster_getElem?, served, at_]
    rfl
  refine ⟨⟨⟨p, roster⟩, fun y q is => ?_⟩, ?_, roster, ?_⟩
  · rw [roster_getElem?, served] at is
    cases found : pipelines[y]? with
    | none =>
      rw [found] at is
      cases is
    | some entry =>
      rw [found] at is
      exact (Prod.mk.inj (Option.some.inj is)).2
  · rw [create, List.length_map]
    exact (List.getElem?_eq_some_iff.mp at_).1
  · rw [cacheOf, served, at_]
    simp [create, at_]

variable {services : List (Pipeline × Nat)} {x k : Nat} {d : Deployment}

/-- What is written into the cache of a service is the cache of just that service. -/
theorem cacheOf_setCache (owns : Owns services x k) (roster : d.roster = services) (there : k < d.caches.length)
    (y : Nat) (c : Cache Compiled) : (d.setCache y c).cacheOf x = if y = x then c else d.cacheOf x := by
  obtain ⟨p, is⟩ := owns.uses
  rw [← roster, roster_getElem?, Option.map_eq_some_iff] at is
  obtain ⟨found, at_x, same⟩ := is
  obtain rfl : found.cache = k := (Prod.mk.inj same).2
  have others := owns.alone y
  rw [← roster, roster_getElem?] at others
  rw [setCache]
  cases at_y : d.services[y]? with
  | none =>
    rw [if_neg]
    rintro rfl
    cases at_x.symm.trans at_y
  | some other =>
    by_cases own : y = x
    · subst own
      obtain rfl := Option.some.inj (at_x.symm.trans at_y)
      rw [if_pos rfl, cacheOf]
      simp [at_x, there]
    · have apart : other.cache ≠ found.cache := by
        intro shared
        refine own (others other.pipeline ?_)
        rw [at_y, ← shared]
        rfl
      rw [if_neg own, cacheOf, cacheOf]
      simp [at_x, List.getElem?_set_ne apart]

/-- **A cache of its own shows what its service does.** -/
theorem shows_cacheOf (owns : Owns services x k) :
    host.Shows (fun d => d.roster = services ∧ k < d.caches.length) (fun d => d.cacheOf x)
      fun y c deed => if y = x then deed.onCache c else c where
  keeps y deed d ok answers :=
    ⟨(frame_effect y deed d).roster.trans ok.1, (recounts_effect answers).length ▸ ok.2⟩
  shows y deed d ok _ := by
    have writes (c : Cache Compiled) : (d.setCache y c).cacheOf x = if y = x then c else d.cacheOf x :=
      cacheOf_setCache owns ok.1 ok.2 y c
    have own (f : Cache Compiled → Cache Compiled) : (d.setCache y (f (d.cacheOf y))).cacheOf x =
        if y = x then f (d.cacheOf x) else d.cacheOf x := by
      rw [writes]
      by_cases same : y = x
      · rw [same]
      · rw [if_neg same, if_neg same]
    cases deed with
    | lookup name v => exact own fun c => (c.lookup name).2
    | act a =>
      cases a with
      | keep name v =>
        refine (cacheOf_of_same (frame_reports _ _).roster (caches_reports _ _) x).trans ?_
        exact own fun c => c.insert name v
      | miss shown => exact own Cache.miss
      | note | run => exact (ite_self _).symm
      | count t => exact (cacheOf_of_same (d.frame_updateMetrics y t.apply).roster rfl x).trans (ite_self _).symm
    | join => exact (ite_self _).symm
    | begin path =>
      exact (cacheOf_of_same (d.frame_beginRead path).roster (caches_beginRead d path) x).trans (ite_self _).symm
    | serve path answer =>
      exact (cacheOf_of_same (d.frame_serve path).roster (caches_serve d path) x).trans (ite_self _).symm

end Deployment

namespace Session

/-- Nothing is dropped from the cache of a service. -/
def Happening.Spares (x : Nat) (a : Happening) : Prop :=
  (∀ name, a ≠ .incident (.operation (.invalidate x name))) ∧ a ≠ .incident (.operation (.clear x))

/-- **What is done to the cache of a service directly**: it is looked up in, as long as nothing is dropped. -/
theorem Happening.Effect.cacheOf {services : List (Pipeline × Nat)} {x k : Nat} {a : Happening} {d d' : Deployment}
    (effect : a.Effect d d') (owns : Owns services x k) (roster : d.roster = services) (there : k < d.caches.length)
    (spares : a.Spares x) :
    d'.cacheOf x = d.cacheOf x ∨ ∃ name, d'.cacheOf x = ((d.cacheOf x).lookup name).2 := by
  have writes (y : Nat) (c : Cache Compiled) : (d.setCache y c).cacheOf x = if y = x then c else d.cacheOf x :=
    cacheOf_setCache owns roster there y c
  have same (caches : d'.caches = d.caches) : d'.cacheOf x = d.cacheOf x :=
    cacheOf_of_same effect.roster caches x
  cases effect with
  | get y name =>
    by_cases own : y = x
    · subst own
      exact .inr ⟨name, (writes y _).trans (if_pos rfl)⟩
    · exact .inl ((writes y _).trans (if_neg own))
  | read path => exact .inl (same ((caches_serve _ path).trans (caches_beginRead d path)))
  | edit f =>
    refine .inl (same ?_)
    rw [updateFiles]
    split <;> rfl
  | incident effect =>
    cases effect with
    | failing f => exact .inl (same (d.updateMemory_same _).2.1)
    | operation effect =>
      cases effect with
      | invalidate y name =>
        have own : y ≠ x := by
          rintro rfl
          exact spares.1 name rfl
        refine .inl (Eq.trans ?_ ((writes y ((d.cacheOf y).invalidate name).2).trans (if_neg own)))
        rw [invalidate]
        dsimp only
        split <;> rfl
      | clear y =>
        have own : y ≠ x := by
          rintro rfl
          exact spares.2 rfl
        exact .inl ((writes y _).trans (if_neg own))
      | add | remove => exact .inl (same (d.updateMemory_same _).2.1)
      | hold | release => exact .inl rfl

end Session

end Stencil
