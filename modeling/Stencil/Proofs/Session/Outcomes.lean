import Stencil.Proofs.Session.Tallies

/-!
# Each request is counted by its outcome

A service counts a render when a template has run to its end, and it encodes the output after that. So a request is
counted by its outcome, as a render or as a failure, unless its output cannot be encoded: then it is counted as both.

## Main definitions

- `Metrics.failureTotal` — how many failures were counted
- `Pipeline.Unsent` — an output cannot be encoded
- `Request.renders`, `Request.failures` — what is due to an outcome
- `Session.returned`, `Session.unsent` — requests that came to bytes, and those that have failed although they
  were counted as renders

## Main results

- `Session.counted_by_outcome`
-/

namespace Stencil

open Deployment

/-! ### Failures of all kinds -/

/-- A failure is counted. -/
def Tally.isFailure : Tally → Bool
  | failure _ => true
  | hit | miss | fetch | compile | render => false

namespace Metrics

/-- How many failures were counted, of all kinds. -/
def failureTotal (m : Metrics) : Nat :=
  (m.failures.map (·.2)).sum

theorem sum_bump (kind : Kind) (counts : List (Kind × Nat)) :
    ((bump kind counts).map (·.2)).sum = (counts.map (·.2)).sum + 1 := by
  induction counts with
  | nil => rfl
  | cons head rest ih =>
    obtain ⟨k, n⟩ := head
    rw [bump]
    split
    · simp only [List.map_cons, List.sum_cons]
      omega
    · simp only [List.map_cons, List.sum_cons, ih]
      omega

theorem adds_failureTotal : Adds failureTotal Tally.isFailure := by
  intro m t
  cases t with
  | failure kind => exact sum_bump kind m.failures
  | hit | miss | fetch | compile | render => rfl

end Metrics

theorem late_render : Late (· == .render) := ⟨rfl, rfl, rfl, rfl⟩

theorem late_failure : Late Tally.isFailure := ⟨rfl, rfl, rfl, rfl⟩

/-! ### What is due to an outcome -/

/-- The output of some template cannot be encoded, and this is the failure. -/
def Pipeline.Unsent (p : Pipeline) (f : Failure) : Prop :=
  ∃ rule template output, p.encoded rule template output = .error f

namespace Request

/-- How many renders are due to an outcome: one to bytes, and at most one to a failure, namely if its output could
not be encoded. -/
def renders (services : List (Pipeline × Nat)) (service : Nat) : Except Failure Bytes → Nat → Prop
  | .ok _, n => n = 1
  | .error f, n => n = 0 ∨ n = 1 ∧ ∃ p k, services[service]? = some (p, k) ∧ p.Unsent f

/-- How many failures are due to an outcome: one to a failure of the template family. -/
def failures (o : Except Failure Bytes) (n : Nat) : Prop :=
  n = (faultOf o).isSome.toNat

variable {w : Tally → Bool} {p : Pipeline} {rule : Replacement} {v : Compiled} {model : Option Model}

open Routine

theorem tallies_render {due : Except Failure Bytes → Nat → Prop} (late : Late w) (fails : ∀ f, due (.error f) 0)
    (ends : ∀ output, due (p.encoded rule v.name output) (w .render).toNat) :
    (p.render rule v model).Tallies w due 0 := by
  have woven := p.woven_silent late
  rw [Pipeline.render_eq]
  refine Silent.bind (woven.onMachine _ _) fails fun x => Silent.bind (woven.execute _ v _ _) fails fun y => ?_
  change due _ (0 + (w .render).toNat)
  rw [Nat.zero_add]
  exact ends y.1

/-- All but the report of a failure, whatever is due to the outcome of a rendering. -/
theorem tallies_routine (due : Except Failure Bytes → Nat → Prop) {due' : Except Failure Bytes → Nat → Prop}
    (late : Late w) (fails : ∀ f, due (.error f) 0)
    (renders : ∀ rule v model, (p.render rule v model).Tallies w due 0)
    (reports : ∀ {r : Pipeline.Request Bytes} {storage other : Failure → Notice}, r.Tallies w due 0 →
      (Pipeline.reported r storage other).Tallies w due' 0) (r : Request) : (r.routine p).Tallies w due' 0 := by
  cases r with
  | file name model =>
    refine reports ?_
    refine Silent.bind (p.silent_resolveAt late name _) fails fun v => ?_
    exact Silent.act rfl (renders .refuse v model)
  | page model =>
    refine reports ?_
    refine Silent.bind (show Silent w (.ofExcept _) from rfl) fails fun v => ?_
    exact Silent.act rfl (Silent.act rfl (renders _ v model))

theorem tallies_renders {services : List (Pipeline × Nat)} {service k : Nat}
    (served : services[service]? = some (p, k)) (r : Request) :
    (r.routine p).Tallies (· == .render) (renders services service) 0 := by
  have fails (f : Failure) : renders services service (.error f) 0 := .inl rfl
  refine tallies_routine (renders services service) late_render fails (fun rule v model => ?_) (fun tallies => ?_) r
  · refine tallies_render late_render fails fun output => ?_
    cases sent : p.encoded rule v.name output with
    | ok b => rfl
    | error f => exact .inr ⟨rfl, p, k, served, rule, v.name, output, sent⟩
  · -- a report counts no render
    refine Tallies.onEnd tallies fun o n due => ?_
    cases o with
    | ok b => exact due
    | error f =>
      dsimp only
      split
      · exact due
      · split <;> exact due

theorem tallies_failures (r : Request) : (r.routine p).Tallies Tally.isFailure failures 0 := by
  refine tallies_routine (fun _ n => n = 0) late_failure (fun _ => rfl) (fun rule v model => ?_)
    (fun tallies => ?_) r
  · exact tallies_render late_failure (fun _ => rfl) fun _ => rfl
  · refine Tallies.onEnd tallies fun o n none => ?_
    subst none
    cases o with
    | ok b => rfl
    | error f =>
      have fault (family : f.kind.isTemplate = true) : (1 : Nat) = (faultOf (.error f)).isSome.toNat := by
        rw [faultOf, if_pos family]
        rfl
      dsimp only
      split
      · next storage => exact fault (Kind.isTemplate_of_isStorage storage)
      · split
        · next family => exact fault family
        · next other =>
          change 0 = (faultOf (.error f)).isSome.toNat
          rw [faultOf, if_neg other]
          rfl

end Request

/-! ### All requests of a session -/

section

variable {w : Tally → Bool} {due : Except Failure Bytes → Nat → Prop} {n : Nat} {wk : Work Compiled Bytes}

theorem Work.Bills.outcome {o : Except Failure Bytes} (bills : wk.Bills w due n) (is : wk.outcome? = some o) :
    due o n := by
  cases wk with
  | load => cases is
  | request st =>
    cases st with
    | ended o' =>
      obtain rfl := Option.some.inj is
      obtain due | ⟨rfl, due⟩ := bills <;> exact due
    | _ => cases is

theorem Work.Bills.none (bills : wk.Bills w due n) (is : wk.outcome? = none) : n = 0 := by
  cases wk with
  | load name st ws => obtain none | ⟨none, _⟩ := bills <;> exact none
  | request st =>
    obtain _ | ⟨none, _⟩ := bills
    · cases is
    · exact none

end

namespace Session

/-- A request of a service that came to bytes. -/
def returned (service : Nat) (job : Job Compiled Bytes) : Bool :=
  job.service == service && job.work.outcome?.any Except.isOk

/-- The job of a number is a request of a service that was counted as a render and has failed all the same. -/
def unsent (t : Session) (ls : List Line) (service id : Nat) : Bool :=
  (t.job? id).any fun job =>
    job.service == service && job.work.outcome?.any (!Except.isOk ·) && count (· == .render) ls id == 1

theorem countP_range (p : Nat → Bool) (n : Nat) : (List.range n).countP p = ∑ i ∈ Finset.range n, (p i).toNat := by
  rw [countP_eq_sum_getElem?, List.length_range]
  refine Finset.sum_congr rfl fun i mem => ?_
  rw [List.getElem?_range (Finset.mem_range.mp mem), Option.any_some]

variable {services : List (Pipeline × Nat)} {s t : Session} {ls : List Line} {as : List Happening}

/-- A request to no service fails at once, and counts nothing. -/
theorem tallies_asked {w : Tally → Bool} {due : Nat → Except Failure Bytes → Nat → Prop}
    (roster : t.state.roster = services)
    (served : ∀ service p k (r : Request), services[service]? = some (p, k) → (r.routine p).Tallies w (due service) 0)
    (unserved : ∀ service f, f.kind.isTemplate = false → due service (.error f) 0) (service : Nat) (r : Request) :
    (t.routine service r).Tallies w (due service) 0 := by
  cases at_ : services[service]? with
  | some found =>
    obtain ⟨p, k⟩ := found
    rw [routine_of_served roster at_]
    exact served service p k r at_
  | none =>
    rw [← roster, roster_getElem?, Option.map_eq_none_iff] at at_
    rw [Session.routine, at_]
    exact unserved service _ rfl

theorem tallied_renders (inService : s.InService services fun _ _ => True) (begun : s.jobs = [])
    (as : List Happening) : Tallied (· == .render) (Request.renders services) (s.undergo as) (s.chronicle as) := by
  refine tallied_undergo late_render (fun _ => .inl rfl) (fun t service r roster => ?_) inService begun as
  exact tallies_asked roster (fun _ _ _ r served => r.tallies_renders served) (fun _ _ _ => .inl rfl) service r

theorem tallied_failures (inService : s.InService services fun _ _ => True) (begun : s.jobs = [])
    (as : List Happening) : Tallied Tally.isFailure (fun _ => Request.failures) (s.undergo as) (s.chronicle as) := by
  refine tallied_undergo late_failure (fun _ => rfl) (fun t service r roster => ?_) inService begun as
  refine tallies_asked roster (fun _ _ _ r _ => r.tallies_failures) (fun _ f other => ?_) service r
  rw [Request.failures, faultOf, other]
  rfl

/-- A job counts one render if it came to bytes, or if it has failed to be encoded. -/
theorem Tallied.returned_or_unsent (tallied : Tallied (· == .render) (Request.renders services) t ls)
    (service id : Nat) : (if (t.job? id).any (fun job => job.service == service) then count (· == .render) ls id else 0) =
      ((t.job? id).any (returned service)).toNat + (unsent t ls service id).toNat := by
  rw [unsent]
  cases at_ : t.job? id with
  | none => rfl
  | some job =>
    have bills := tallied.jobs id job at_
    by_cases its : job.service = service
    · cases ends : job.work.outcome? with
      | none => simp [returned, its, ends, bills.none ends]
      | some o =>
        have due := bills.outcome ends
        cases o with
        | ok b =>
          have one : count (· == .render) ls id = 1 := due
          simp [returned, its, ends, one, Except.isOk, Except.toBool]
        | error f =>
          obtain none | ⟨one, _⟩ := due
          · simp [returned, its, ends, none, Except.isOk, Except.toBool]
          · simp [returned, its, ends, one, Except.isOk, Except.toBool]
    · simp [returned, beq_false_of_ne its]

/-- A job counts one failure if it has ended with one of the template family. -/
theorem Tallied.failed (tallied : Tallied Tally.isFailure (fun _ => Request.failures) t ls) (service id : Nat) :
    (if (t.job? id).any (fun job => job.service == service) then count Tally.isFailure ls id else 0) =
      ((t.job? id).any (Session.failed fun other _ => other == service)).toNat := by
  cases at_ : t.job? id with
  | none => rfl
  | some job =>
    have bills := tallied.jobs id job at_
    by_cases its : job.service = service
    · cases ends : job.work.outcome? with
      | none => simp [Session.failed, Work.fault?, ends, bills.none ends]
      | some o =>
        have due : count Tally.isFailure ls id = (faultOf o).isSome.toNat := bills.outcome ends
        cases fault : faultOf o <;> simp [Session.failed, Work.fault?, its, ends, fault, due]
    · cases fault : job.work.outcome?.bind faultOf <;>
        simp [Session.failed, Work.fault?, fault, beq_false_of_ne its]

/-- **Each request is counted by its outcome.** Let any number of services with any caches read from any storage, and
let whatever happens happen. The renders that a service has counted are its requests that came to bytes, and besides
those that failed because the output could not be encoded, which are counted as renders before. Its failures of all
kinds are its requests that have ended with a failure of the template family. A request that came to bytes has counted
one render and no failure. One that has failed has counted one failure if that is of the template family, and no other,
and it has counted no render unless its output could not be encoded. -/
theorem counted_by_outcome (pipelines : List (Pipeline × Nat)) (shared : Option Nat) (storage : Storage)
    (as : List Happening) :
    let s : Session := start (.create pipelines shared storage)
    let t : Session := s.undergo as
    let ls : List Line := s.chronicle as
    (∀ service x, t.state.services[service]? = some x →
      x.metrics.renders = t.jobs.countP (returned service) +
        (List.range t.jobs.length).countP (unsent t ls service) ∧
      x.metrics.failureTotal = t.jobs.countP (failed fun other _ => other == service)) ∧
    (∀ id b, t.outcome? id = some (.ok b) → count (· == .render) ls id = 1 ∧ count Tally.isFailure ls id = 0) ∧
    ∀ id f, t.outcome? id = some (.error f) → count Tally.isFailure ls id = f.kind.isTemplate.toNat ∧
      (count (· == .render) ls id = 0 ∨ count (· == .render) ls id = 1 ∧
        ∃ job p k, t.job? id = some job ∧ t.state.roster[job.service]? = some (p, k) ∧ p.Unsent f) := by
  intro s t ls
  have inService : s.InService (Deployment.create pipelines shared storage).roster fun _ _ => True := inService_start _
  have renders := tallied_renders inService rfl as
  have failures := tallied_failures inService rfl as
  have roster : t.state.roster = _ := (inService.lasts as).roster
  -- what has ended is a job
  have ended {id : Nat} {o : Except Failure Bytes} (is : t.outcome? id = some o) :
      ∃ job, t.job? id = some job ∧ job.work.outcome? = some o := Option.bind_eq_some_iff.mp is
  refine ⟨fun service x at_ => ?_, fun id b is => ?_, fun id f is => ?_⟩
  · have there : service < s.state.services.length := by
      have now : service < t.state.roster.length := by
        rw [Deployment.roster, List.length_map]
        exact (List.getElem?_eq_some_iff.mp at_).1
      rw [roster, Deployment.roster, List.length_map] at now
      exact now
    have begun : s.state.metricsOf service = {} := metricsOf_create pipelines shared storage service
    constructor
    · have counted := adds_undergo (Metrics.adds_counted .render) there as
      rw [metricsOf_of_at at_, begun, renders.told_eq_sum] at counted
      simp only [renders.returned_or_unsent, Finset.sum_add_distrib] at counted
      rw [countP_eq_sum_getElem?, countP_range]
      exact counted.trans (Nat.zero_add _)
    · have counted := adds_undergo Metrics.adds_failureTotal there as
      rw [metricsOf_of_at at_, begun, failures.told_eq_sum] at counted
      simp only [failures.failed] at counted
      rw [countP_eq_sum_getElem?]
      exact counted.trans (Nat.zero_add _)
  · obtain ⟨job, at_, ends⟩ := ended is
    exact ⟨(renders.jobs id job at_).outcome ends, (failures.jobs id job at_).outcome ends⟩
  · obtain ⟨job, at_, ends⟩ := ended is
    have counted : count Tally.isFailure ls id = (faultOf (.error f)).isSome.toNat :=
      (failures.jobs id job at_).outcome ends
    refine ⟨?_, ?_⟩
    · rw [counted, faultOf]
      cases f.kind.isTemplate <;> rfl
    · obtain none | ⟨one, p, k, served, unsent⟩ := (renders.jobs id job at_).outcome ends
      · exact .inl none
      · exact .inr ⟨one, job, p, k, at_, roster ▸ served, unsent⟩

/-- Where the output cannot be encoded there is one render more than there are requests with bytes. -/
theorem counted_by_outcome_ascii :
    let p : Pipeline := { templateDir := "t", encoding := "ascii", compiler := { encoding := "ascii" } }
    let source : Text := "\x7b\x7b '\\u00e9' \x7d\x7d"
    let as : List Happening := [.incident (.operation (.start 0 (.file "x" none))), .incident (.operation .step)]
    let storage : Storage := .memory { files := [("t/x", source.map UInt8.ofNat)] }
    let s : Session := start (.create [(p, 4)] none storage)
    ∃ x, (s.undergo as).state.services[0]? = some x ∧ x.metrics.renders = 0 + 1 ∧ x.metrics.failureTotal = 1 := by
  intro p source as storage
  obtain ⟨counts, _, _⟩ := counted_by_outcome [(p, 4)] none storage as
  obtain ⟨x, at_⟩ : ∃ x, ((start (.create [(p, 4)] none storage)).undergo as).state.services[0]? = some x :=
    Option.isSome_iff_exists.mp (by decide +kernel)
  obtain ⟨renders, failures⟩ := counts 0 x at_
  refine ⟨x, at_, renders.trans (congrArg₂ (· + ·) ?_ ?_), failures.trans ?_⟩
  · decide +kernel
  · decide +kernel
  · decide +kernel

/-- **A request is counted twice** if its output cannot be encoded: there is one request, which has failed, and one
render was counted and one failure. -/
theorem unencodable_counted_twice :
    let p : Pipeline := { templateDir := "t", encoding := "ascii", compiler := { encoding := "ascii" } }
    let source : Text := "\x7b\x7b '\\u00e9' \x7d\x7d"
    let as : List Happening := [.incident (.operation (.start 0 (.file "x" none))), .incident (.operation .step)]
    let s : Session := start (.create [(p, 4)] none (.memory { files := [("t/x", source.map UInt8.ofNat)] }))
    let t : Session := s.undergo as
    t.jobs.length = 1 ∧ t.jobs.countP (returned 0) = 0 ∧ t.jobs.countP (failed fun _ _ => true) = 1 ∧
      (t.state.metricsOf 0).renders = 1 ∧ (t.state.metricsOf 0).failureTotal = 1 := by
  decide +kernel

end Session

end Stencil
