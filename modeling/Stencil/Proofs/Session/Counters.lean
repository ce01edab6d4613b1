import Stencil.Proofs.Schedule.Total
import Stencil.Proofs.Session.Chronicle

/-!
# Counters and the chronicle

Each counter of a service shows how often something was counted in its name, whatever happens to the caches and to
the storage.

## Main definitions

- `Metrics.counted`, `Deployment.counted` — how often something was counted, by one service or by some of them
- `Metrics.Adds` — a number that something counted adds to
- `Session.told` — how often the chronicle tells something of some of the services

## Main results

- `Session.chronicle_counts` — what is counted is what the chronicle tells
- `Session.adds_undergo`, `Session.counted_undergo`, `Session.counted_sum_undergo` — the counters of services after
  a run
-/

namespace Stencil

open Deployment

deriving instance DecidableEq for Tally

theorem ite_eq_toNat (b : Bool) : (if b = true then 1 else 0) = b.toNat := by
  cases b <;> rfl

/-! ### What is counted -/

namespace Metrics

/-- How often something was counted. -/
def counted (m : Metrics) : Tally → Nat
  | .hit => m.hits
  | .miss => m.misses
  | .fetch => m.fetches
  | .compile => m.compiles
  | .render => m.renders
  | .failure kind => m.failureCount kind

theorem lookup_bump (kind other : Kind) (counts : List (Kind × Nat)) :
    ((bump kind counts).lookup other).getD 0 = (counts.lookup other).getD 0 + if kind = other then 1 else 0 := by
  have apart {k : Kind} (e : k ≠ other) : (other == k) = false := beq_eq_false_iff_ne.mpr e.symm
  induction counts with
  | nil =>
    by_cases e : kind = other
    · simp [bump, e]
    · simp [bump, e, apart e, List.lookup_cons]
  | cons head rest ih =>
    obtain ⟨k, n⟩ := head
    rw [bump]
    by_cases here : k = kind
    · subst here
      by_cases e : k = other
      · simp [e]
      · simp [e, apart e, List.lookup_cons]
    · rw [if_neg here, List.lookup_cons, List.lookup_cons]
      by_cases e : k = other
      · have differ : kind ≠ other := fun same => here (e.trans same.symm)
        simp [e, differ]
      · rw [apart e]
        exact ih

theorem counted_apply (m : Metrics) (t u : Tally) :
    (u.apply m).counted t = m.counted t + if u = t then 1 else 0 := by
  cases t with
  | failure kind =>
    cases u with
    | failure kind' =>
      refine (lookup_bump kind' kind m.failures).trans ?_
      by_cases e : kind' = kind
      · rw [if_pos e, e, if_pos rfl]
        rfl
      · rw [if_neg e, if_neg fun same => e (Tally.failure.inj same)]
        rfl
    | _ => rfl
  | _ => cases u <;> rfl

/-- A number that grows by one with what is counted of some kinds, and with nothing else. -/
def Adds (X : Metrics → Nat) (w : Tally → Bool) : Prop :=
  ∀ (m : Metrics) (t : Tally), X (t.apply m) = X m + (w t).toNat

theorem adds_counted (t : Tally) : Adds (counted · t) (· == t) := by
  intro m u
  refine (counted_apply m t u).trans ?_
  by_cases e : u = t <;> simp [e]

end Metrics

/-- What a deed counts. -/
def Deed.counted? {V : Type} : Deed V → Option Tally
  | act (.count t) => some t
  | act _ | lookup .. | join _ | begin _ | serve .. => none

/-- Something of these kinds is counted. -/
def Deed.tells {V : Type} (w : Tally → Bool) (d : Deed V) : Bool :=
  d.counted?.any w

theorem Deed.tells_beq {V : Type} (t : Tally) (d : Deed V) : d.tells (· == t) = (d.counted? == some t) := by
  rw [tells]
  cases d.counted? <;> rfl

namespace Deployment

theorem services_reports (d : Deployment) (ns : List Notice) : (ns.foldl report d).services = d.services := by
  induction ns generalizing d with
  | nil => rfl
  | cons n ns ih => exact ih _

@[simp] theorem services_setCache (d : Deployment) (service : Nat) (c : Cache Compiled) :
    (d.setCache service c).services = d.services := by
  rw [setCache]
  split <;> rfl

/-- What counts nothing leaves the counters as they are. -/
theorem services_effect (service : Nat) (deed : Deed Compiled) (other : deed.counted? = none) (d : Deployment) :
    (host.effect service deed d).services = d.services := by
  cases deed with
  | lookup name found => exact services_setCache d service _
  | join name => rfl
  | begin path =>
    change (d.beginRead path).services = _
    rw [beginRead]
    cases d.storage <;> rfl
  | serve path answer =>
    change (d.serve path).2.services = _
    rw [serve]
    cases d.storage with
    | memory m => rfl
    | files tree =>
      change (d.fileAnswer path (LocalStorage.read tree none path)).2.services = _
      cases LocalStorage.read tree none path <;> rfl
  | act a =>
    cases a with
    | count t => cases other
    | keep name v => exact (services_reports _ _).trans (services_setCache d service _)
    | miss shown => exact services_setCache d service _
    | note | run => rfl

theorem metricsOf_updateMetrics {d : Deployment} {service : Nat} (there : service < d.services.length) (other : Nat)
    (f : Metrics → Metrics) : (d.updateMetrics other f).metricsOf service =
      if other = service then f (d.metricsOf service) else d.metricsOf service := by
  rw [metricsOf, metricsOf, updateMetrics, List.getElem?_modify, List.getElem?_eq_getElem there]
  split <;> rfl

/-- A deed that counts something is that act. -/
theorem eq_count_of_counted {deed : Deed Compiled} {t : Tally} (counted : deed.counted? = some t) :
    deed = .act (.count t) := by
  cases deed with
  | act a =>
    cases a <;> cases counted
    rfl
  | lookup | join | begin | serve => cases counted

/-- Each number of a service that counting adds to shows what is counted in its name. -/
theorem shows_adds {X : Metrics → Nat} {w : Tally → Bool} (adds : Metrics.Adds X w) (service : Nat) :
    host.Shows (fun d => service < d.services.length) (fun d => X (d.metricsOf service))
      fun other n deed => n + (other == service && deed.tells w).toNat where
  keeps other deed d there _ := by
    have same := congrArg List.length (frame_effect other deed d).roster
    rw [roster, roster, List.length_map, List.length_map] at same
    rw [same]
    exact there
  shows other deed d there _ := by
    cases counted : deed.counted? with
    | none =>
      rw [metricsOf, services_effect other deed counted]
      simp [metricsOf, Deed.tells, counted]
    | some u =>
      obtain rfl := eq_count_of_counted counted
      change X ((d.updateMetrics other u.apply).metricsOf service) = _
      rw [metricsOf_updateMetrics there]
      by_cases own : other = service
      · rw [if_pos own, adds]
        simp [own, Deed.tells, counted]
      · rw [if_neg own]
        simp [own]

/-- What the services that use some of the caches have counted. -/
def counted (d : Deployment) (chosen : Nat → Bool) (t : Tally) : Nat :=
  ((d.services.filter fun x => chosen x.cache).map fun x => x.metrics.counted t).sum

/-- Whether a service uses one of the chosen caches. -/
def uses (services : List (Pipeline × Nat)) (chosen : Nat → Bool) (service : Nat) : Bool :=
  (services[service]?).any fun x => chosen x.2

/-- The sum over some of the members of a list, as a sum over all. -/
theorem sum_map_filter {J : Type} (p : J → Bool) (f : J → Nat) (js : List J) :
    ((js.filter p).map f).sum = (js.map fun j => if p j then f j else 0).sum := by
  induction js with
  | nil => rfl
  | cons j js ih =>
    cases is : p j with
    | true => rw [List.filter_cons_of_pos is, List.map_cons, List.sum_cons, ih, List.map_cons, List.sum_cons, if_pos is]
    | false =>
      rw [List.filter_cons_of_neg (Bool.eq_false_iff.mp is), ih, List.map_cons, List.sum_cons, is,
        if_neg Bool.false_ne_true, Nat.zero_add]

/-- The counters of the services that use some of the caches show what is counted in their names. -/
theorem shows_counted_sum {services : List (Pipeline × Nat)} (chosen : Nat → Bool) (t : Tally) :
    host.Shows (fun d => d.roster = services) (fun d => d.counted chosen t)
      fun service n deed => n + (uses services chosen service && deed.counted? == some t).toNat where
  keeps other deed d same _ := (frame_effect other deed d).roster.trans same
  shows other deed d same _ := by
    cases counted : deed.counted? with
    | none =>
      rw [Deployment.counted, services_effect other deed counted]
      simp [Deployment.counted]
    | some u =>
      obtain rfl := eq_count_of_counted counted
      change (d.updateMetrics other u.apply).counted chosen t = _
      rw [Deployment.counted, Deployment.counted, sum_map_filter, sum_map_filter, updateMetrics, uses, ← same,
        roster_getElem?]
      cases at_ : d.services[other]? with
      | none =>
        rw [List.modify_eq_self (List.getElem?_eq_none_iff.mp at_)]
        rfl
      | some x =>
        have changed := sum_map_modify (f := fun x : Service => if chosen x.cache then x.metrics.counted t else 0)
          (g := fun x => { x with metrics := u.apply x.metrics }) at_
        rw [Metrics.counted_apply] at changed
        cases is : chosen x.cache with
        | false => simpa [is] using changed
        | true =>
          by_cases e : u = t
          · simp [is, e] at changed ⊢
            omega
          · simp [is, e, beq_false_of_ne e] at changed ⊢
            omega

end Deployment

namespace Session

/-- A line that tells of a deed in the name of one of the chosen services. -/
def Line.by (chosen : Nat → Bool) (q : Deed Compiled → Bool) : Line → Bool
  | deed e => chosen e.service && q e.deed
  | got .. | read => false

/-- How often a chronicle tells of such a deed in the name of these services. -/
def told (ls : List Line) (chosen : Nat → Bool) (q : Deed Compiled → Bool) : Nat :=
  ls.countP (Line.by chosen q)

/-- What is changed apart from the jobs leaves the counters as they are. -/
theorem Happening.Effect.services {a : Happening} {d d' : Deployment} (effect : a.Effect d d') :
    d'.services = d.services := by
  have stores (f : MemoryStorage → MemoryStorage) : (d.updateMemory f).services = d.services := by
    rw [updateMemory]
    split <;> rfl
  cases effect with
  | get service name => exact services_setCache d service _
  | read path =>
    exact (services_effect 0 (.serve path (.ok [])) rfl _).trans
      (services_effect 0 (.begin path) rfl d)
  | edit f =>
    rw [updateFiles]
    split <;> rfl
  | incident effect =>
    cases effect with
    | failing f => exact stores _
    | operation effect =>
      cases effect with
      | invalidate service name =>
        rw [invalidate]
        dsimp only
        split <;> exact services_setCache d service _
      | clear service => exact services_setCache d service _
      | add | remove => exact stores _
      | hold | release => rfl

variable {s : Session} {I : Deployment → Prop} {X : Deployment → Nat} {chosen : Nat → Bool}
  {q : Deed Compiled → Bool} {u : Line → Bool}

/-- **What a deployment counts** is what the chronicle tells, of deeds and of direct uses. -/
theorem chronicle_counts (shows : host.Shows I X fun service n deed => n + (chosen service && q deed).toNat)
    (direct : ∀ e, u (.deed e) = false) (ok : I s.state) (as : List Happening)
    (outside : ∀ d a d', a ∈ as → a.Effect d d' → I d → I d' ∧ X d' = X d + (a.uses d).countP u) :
    I (s.undergo as).state ∧ X (s.undergo as).state =
      X s.state + told (s.chronicle as) chosen q + (s.chronicle as).countP u := by
  have folds (ls : List Line) (n : Nat) : ls.foldl (Line.tell (fun service n deed =>
      n + (chosen service && q deed).toNat) fun n l => n + (u l).toNat) n = n + told ls chosen q + ls.countP u := by
    induction ls generalizing n with
    | nil => rfl
    | cons l ls ih =>
      rw [List.foldl_cons, ih, told, told, List.countP_cons, List.countP_cons, ite_eq_toNat, ite_eq_toNat]
      cases l with
      | deed e =>
        simp only [Line.tell, Line.by, direct, Bool.toNat_false]
        omega
      | got | read =>
        simp only [Line.tell, Line.by, Bool.toNat_false]
        omega
  rw [← folds]
  refine chronicle_shows shows ok as fun d a d' mem effect ok => ?_
  obtain ⟨ok', same⟩ := outside d a d' mem effect ok
  refine ⟨ok', ?_⟩
  have none : told (a.uses d) chosen q = 0 := by
    cases a with
    | get service name =>
      rw [Happening.uses]
      split <;> rfl
    | incident | read | edit => rfl
  rw [folds, none, same, Nat.add_zero]

/-- **What services count** is what the chronicle tells of them, whatever is done directly. -/
theorem chronicle_counts_services
    (shows : host.Shows I X fun service n deed => n + (chosen service && q deed).toNat)
    (only : ∀ d d' : Deployment, d'.services = d.services → I d → I d' ∧ X d' = X d) (ok : I s.state)
    (as : List Happening) : X (s.undergo as).state = X s.state + told (s.chronicle as) chosen q := by
  have none (ls : List Line) : ls.countP (fun _ => false) = 0 := List.countP_eq_zero.mpr fun _ _ => Bool.false_ne_true
  have counts := (chronicle_counts (u := fun _ => false) shows (fun _ => rfl) ok as
    fun d a d' _ effect ok => by rw [none]; exact only d d' effect.services ok).2
  rwa [none] at counts

/-- A number of a service that counting adds to, after a run. -/
theorem adds_undergo {X : Metrics → Nat} {w : Tally → Bool} (adds : Metrics.Adds X w) {service : Nat}
    (there : service < s.state.services.length) (as : List Happening) :
    X ((s.undergo as).state.metricsOf service) = X (s.state.metricsOf service) +
      told (s.chronicle as) (· == service) (Deed.tells w) := by
  refine chronicle_counts_services (shows_adds adds service) (fun d d' same there => ?_) there as
  rw [metricsOf, metricsOf, same]
  exact ⟨there, rfl⟩

/-- The counters of a service after a run. -/
theorem counted_undergo {service : Nat} (there : service < s.state.services.length) (as : List Happening)
    (t : Tally) : ((s.undergo as).state.metricsOf service).counted t = (s.state.metricsOf service).counted t +
      told (s.chronicle as) (· == service) fun d => d.counted? == some t := by
  have same : (fun d : Deed Compiled => d.counted? == some t) = Deed.tells (· == t) :=
    funext fun d => (d.tells_beq t).symm
  rw [same]
  exact adds_undergo (Metrics.adds_counted t) there as

/-- The counters of the services that use some of the caches after a run. -/
theorem counted_sum_undergo {services : List (Pipeline × Nat)} (same : s.state.roster = services)
    (as : List Happening) (chosen : Nat → Bool) (t : Tally) : (s.undergo as).state.counted chosen t =
      s.state.counted chosen t + told (s.chronicle as) (uses services chosen) fun d => d.counted? == some t := by
  refine chronicle_counts_services (shows_counted_sum chosen t) (fun d d' same is => ?_) same as
  rw [roster, Deployment.counted, Deployment.counted, same]
  exact ⟨is, rfl⟩

end Session

end Stencil
