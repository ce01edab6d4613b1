import Stencil.Proofs.Pipeline.Origins
import Stencil.Proofs.Session.Failures

/-!
# What the failure of a request is about

Whatever happens to a deployment, a request is only told what storage holds at some moment and what can be
compiled from that. So its failure is that of the requested name to resolve, or of its output to be encoded,
or it arises in the innermost execution, which it names.

## Main definitions

- `Session.moments` — what is stored at the moments of a run
- `Deployment.Keeping` — a deployment whose caches hold templates under their names
- `Session.originContract` — the contract under which a request is told what it should be

## Main results

- `Session.failure_names_innermost`
-/

namespace Stencil

namespace Deployment

/-- A deployment of these services over a storage in memory that holds what it may, and whose caches hold
templates under their names. -/
structure Keeping (services : List (Pipeline × Nat)) (seen : Contents → Prop) (d : Deployment) : Prop where
  roster : d.roster = services
  memory : d.storage.isMemory = true
  contents : seen d.storage.contents
  caches : d.CachesHold fun _ name v => v.name = name

theorem Keeping.of_frame {services : List (Pipeline × Nat)} {seen : Contents → Prop} {d d' : Deployment}
    (keeping : d.Keeping services seen) (frame : d.Frame d')
    (caches : d'.CachesHold fun _ name v => v.name = name) : d'.Keeping services seen where
  roster := frame.roster.trans keeping.roster
  memory := frame.memory.trans keeping.memory
  contents := frame.contents ▸ keeping.contents
  caches := caches

/-- The storage may be changed to what may be stored. -/
theorem Keeping.updateMemory {services : List (Pipeline × Nat)} {seen : Contents → Prop} {d : Deployment}
    (keeping : d.Keeping services seen) (f : MemoryStorage → MemoryStorage)
    (now : seen (d.updateMemory f).storage.contents) : (d.updateMemory f).Keeping services seen := by
  obtain ⟨roster, caches, memory, _⟩ := d.updateMemory_same f
  exact ⟨roster.trans keeping.roster, memory.trans keeping.memory, now,
    fun k c at_k => keeping.caches k c (caches ▸ at_k)⟩

end Deployment

namespace Session

/-- What holds of the pipeline of a service, if there is one. -/
def OfService (services : List (Pipeline × Nat)) (service : Nat) (P : Pipeline → Prop) : Prop :=
  ∀ p k, services[service]? = some (p, k) → P p

/-- The terms of a request that is told what it should be. -/
def originTerms (services : List (Pipeline × Nat)) (seen : Contents → Prop) (service : Nat) :
    Terms Compiled where
  contents := seen
  found name v := v.name = name
  shared name o := OfService services service fun p => p.Told seen (.share name [] o)
  allowed _ a := ∀ name v, a = .keep name v → v.name = name
  sharable name path := OfService services service fun p => path ∈ p.pathsOf name
  cancellable := True
  gated := True

/-- The terms of a load. -/
def originLoadTerms (services : List (Pipeline × Nat)) (seen : Contents → Prop) (service : Nat) :
    Terms Compiled :=
  { originTerms services seen service with
    sharable := fun _ _ => False
    cancellable := False }

variable {services : List (Pipeline × Nat)} {seen : Contents → Prop}

theorem honors_origin (service : Nat) : Deployment.host.Honors (Deployment.Keeping services seen) service
    (originTerms services seen service) where
  contents d keeping := Deployment.host_contents d ▸ keeping.contents
  lookup d name keeping := by
    have frame := d.frame_lookup service name
    refine ⟨keeping.of_frame frame (keeping.caches.lookup service name), frame.host_contents, ?_⟩
    intro v found
    obtain ⟨_, _, _, named⟩ := keeping.caches.found found
    exact named
  act d a keeping allowed := by
    have frame := d.frame_act service a
    exact ⟨keeping.of_frame frame (keeping.caches.act fun name v _ _ is _ => allowed name v is),
      frame.host_contents⟩
  joined _ _ _ _ is := by cases is
  beginRead d path keeping :=
    have frame := d.frame_beginRead path
    ⟨keeping.of_frame frame (keeping.caches.beginRead path), frame.host_contents⟩
  serve d path keeping :=
    have frame := d.frame_serve path
    ⟨keeping.of_frame frame (keeping.caches.serve path), frame.host_contents⟩
  holding _ _ _ := trivial

/-- What a request does as usual it may do. -/
theorem permits_of_usual {service k : Nat} {p : Pipeline} (served : services[service]? = some (p, k))
    {x : Exchange Compiled} (usual : p.Usual x) : (originTerms services seen service).Permits x := by
  cases x with
  | lookup | read => trivial
  | share name path =>
    intro p' k' is
    obtain ⟨rfl, -⟩ := Prod.mk.inj (Option.some.inj (served.symm.trans is))
    exact usual
  | act a =>
    rintro c name v rfl
    obtain ⟨b, compiles⟩ := usual
    exact Compiler.compile_name compiles

theorem permits_of_loading {service : Nat} {p : Pipeline} {x : Exchange Compiled} (loading : p.Loading x) :
    (originLoadTerms services seen service).Permits x := by
  cases x with
  | lookup | read => trivial
  | share => exact loading
  | act a =>
    rintro c name v rfl
    obtain ⟨b, compiles⟩ := loading
    exact Compiler.compile_name compiles

/-- What the terms promise is what a request should be told. -/
theorem told_of_answers {service k : Nat} {p : Pipeline} (served : services[service]? = some (p, k))
    {x : Exchange Compiled} (answers : (originTerms services seen service).Answers x) : p.Told seen x := by
  cases x with
  | act | read => exact answers
  | lookup name found => cases found <;> exact answers
  | share name path answer =>
    obtain rfl | shared := answers
    · exact .inl rfl
    · have told := shared p k served
      cases answer <;> exact told

/-- A load that is started ends with what a request should be told. -/
theorem starts_origin {service : Nat} {d : Deployment} (keeping : d.Keeping services seen)
    {name path : Text} (sharable : (originTerms services seen service).sharable name path) (c : Contents) :
    (Deployment.host.load service name path d).Ensures (originLoadTerms services seen service)
      (fun _ o => OfService services service fun p => p.Told seen (.share name [] o)) c := by
  change (d.load service name path).Ensures _ _ c
  rw [Deployment.load]
  cases at_ : d.services[service]? with
  | none =>
    intro p k is
    rw [← keeping.roster, Deployment.roster_getElem?, at_] at is
    cases is
  | some found =>
    have served : services[service]? = some (found.pipeline, found.cache) := by
      rw [← keeping.roster, Deployment.roster_getElem?, at_]
      rfl
    have does : (found.pipeline.load name path).Does (originLoadTerms services seen service).Permits :=
      (found.pipeline.does_load name path).mono fun _ => permits_of_loading
    refine (does.ensures c).mono fun _ o went p k is => ?_
    obtain ⟨xs, course, answered⟩ := went
    obtain ⟨rfl, -⟩ := Prod.mk.inj (Option.some.inj (served.symm.trans is))
    have told := Pipeline.told_of_load course (sharable _ _ served) fun x mem =>
      told_of_answers served (answered x mem)
    cases o <;> exact told

/-- A request is told of a load what it came to, unless that was cancelled in one way or another. -/
theorem told_toldOf {p : Pipeline} {name path : Text} {o : Except Failure Compiled}
    (told : p.Told seen (.share name path o)) : p.Told seen (.share name path (toldOf o)) := by
  cases o with
  | ok v => exact told
  | error f =>
    change p.Told seen (.share name path (.error (if f.kind = .cancelled then .cancelled else f)))
    split
    · exact .inl rfl
    · exact told

/-- The contract of the request of number `own`, which is for the template of a name. -/
def originContract (services : List (Pipeline × Nat)) (seen : Contents → Prop) (own : Nat) (p : Pipeline)
    (name : Text) (model : Option Model) : Contract Deployment.host Bytes where
  inv := Deployment.Keeping services seen
  first := 0
  terms _ service := originTerms services seen service
  post id _ _ o := id = own → o = .error .cancelled ∨
    ∃ xs, (p.renderFile name model).Course xs o ∧ ∀ x ∈ xs, p.Told seen x
  loadTerms := originLoadTerms services seen
  loadPost _ service name _ o := OfService services service fun p => p.Told seen (.share name [] o)
  honors _ service := honors_origin service
  loadHonors service := { honors_origin service with }
  solo _ _ _ := id
  steady _ := id
  starts _ _ _ _ _ keeping sharable _ c _ := starts_origin keeping sharable c
  tells _ _ _ _ _ _ _ _ told p k is := told_toldOf (told p k is)

section

variable {own : Nat} {p : Pipeline} {name : Text} {model : Option Model} {s : Session}

/-- Whatever a request is for, it does what it may. -/
theorem does_routine (roster : s.state.roster = services) (service : Nat) (r : Request) :
    (s.routine service r).Does (originTerms services seen service).Permits := by
  rw [Session.routine]
  cases at_ : s.state.services[service]? with
  | none => exact Routine.does_finish _
  | some found =>
    have served : services[service]? = some (found.pipeline, found.cache) := by
      rw [← roster, Deployment.roster_getElem?, at_]
      rfl
    exact Routine.Does.mono (r.closed found.pipeline.closed_usual) fun _ => permits_of_usual served

/-- **One incident** keeps the contract, whether the request comes with it or not. -/
theorem sound_origin (sound : (originContract services seen own p name model).Sound s) {i : Incident}
    (asked : ∀ op service r, i = .operation op → op.Asks service r → s.jobs.length = own →
      s.routine service r = p.renderFile name model ∧ ∃ k, services[service]? = some (p, k))
    (now : seen (s.meet i).state.storage.contents) :
    (originContract services seen own p name model).Sound (s.meet i) := by
  have keeping : s.state.Keeping services seen := sound.holds.inv
  refine sound_incident sound (fun op service r is asks => ⟨⟨fun c _ => ?_, fun _ _ _ _ => .inl rfl⟩, ?_⟩)
    (fun _ _ => trivial) fun d effect => ?_
  · refine ((does_routine keeping.roster service r).ensures c).mono ?_
    rintro _ o ⟨xs, course, answered⟩ is'
    obtain ⟨same, k, served⟩ := asked op service r is asks is'
    rw [same] at course
    exact .inr ⟨xs, course, fun x mem => told_of_answers served (answered x mem)⟩
  · exact fun service name l _ c o => (originContract services seen own p _ model).tells _ l service name c o
      (Nat.zero_le l)
  · cases effect with
    | operation effect =>
      cases effect with
      | invalidate service name =>
        exact keeping.of_frame (s.state.frame_invalidate service name)
          (keeping.caches.invalidate fun _ _ _ _ named => named)
      | clear service =>
        exact keeping.of_frame (s.state.frame_clear service) (keeping.caches.clear service)
      | add path content => exact keeping.updateMemory _ now
      | remove path => exact keeping.updateMemory _ now
      | hold | release => exact ⟨keeping.roster, keeping.memory, keeping.contents, keeping.caches⟩
    | failing f => exact keeping.updateMemory _ now

end

/-- What is stored at the moments of a run. -/
def moments (s : Session) (is : List Incident) (c : Contents) : Prop :=
  ∃ pre post, is = pre ++ post ∧ c = (s.through pre).state.storage.contents

/-- A job of a given number comes with one incident of a run. -/
theorem asked_once {s : Session} {before after pre post : List Incident} {own op : Operation}
    {service service' : Nat} {r r' : Request} (asks : own.Asks service r) (asks' : op.Asks service' r')
    (split : before ++ .operation own :: after = pre ++ .operation op :: post)
    (same : (s.through pre).jobs.length = (s.through before).jobs.length) : op = own ∧ pre = before := by
  -- whatever asks for something leaves more jobs behind than there were
  have later {is is' rest : List Incident} {op : Operation} {service : Nat} {r : Request}
      (asks : op.Asks service r) (split : is' = is ++ .operation op :: rest) :
      (s.through is).jobs.length < (s.through is').jobs.length := by
    rw [split, through_append]
    exact Nat.lt_of_lt_of_le (asks.length (s.through is)) (length_le_through ((s.through is).operate op) rest)
  obtain ⟨between, rfl, is⟩ | ⟨between, rfl, is⟩ := List.append_eq_append_iff.mp split
  · cases between with
    | nil =>
      obtain ⟨e, -⟩ := List.cons.inj is
      exact ⟨(Incident.operation.inj e).symm, List.append_nil before⟩
    | cons i between =>
      obtain ⟨rfl, -⟩ := List.cons.inj is
      exact absurd same (Nat.ne_of_gt (later asks rfl))
  · cases between with
    | nil =>
      obtain ⟨e, -⟩ := List.cons.inj is
      exact ⟨Incident.operation.inj e, (List.append_nil pre).symm⟩
    | cons i between =>
      obtain ⟨rfl, -⟩ := List.cons.inj is
      exact absurd same (Nat.ne_of_lt (later asks' rfl))

/-- A storage in memory fails as a storage does at all moments, if it does so at first and all changes are
fair. -/
theorem storage_of_moments {d : Deployment} (serves : d.Serves d.roster) {is : List Incident}
    (fair : ∀ i ∈ is, i.Fair) {c : Contents} (met : (start d).moments is c) (path : Text) (f : Failure)
    (fails : c path = .error f) : f.kind.isStorage = true := by
  obtain ⟨pre, post, rfl, rfl⟩ := met
  -- a contract about a request that never comes
  have sound : (ownContract d.roster ((start d).through pre).jobs.length).Sound ((start d).through pre) :=
    sound_through (sound_start serves rfl) (fun i mem => fair i (List.mem_append_left _ mem))
      (.inl (Nat.le_refl _))
  exact sound.holds.inv.reads path f fails

/-- **The contract of a request** is kept through all incidents before and after it. -/
theorem sound_origin_through {pipelines : List (Pipeline × Nat)} {shared : Option Nat} {m : MemoryStorage}
    {service k : Nat} {p : Pipeline}
    (served : (Deployment.create pipelines shared (.memory m)).roster[service]? = some (p, k))
    (before after : List Incident) {own : Operation} {name : Text} {model : Option Model}
    (asks : own.Asks service (.file name model)) :
    let s : Session := start (.create pipelines shared (.memory m))
    let is := before ++ .operation own :: after
    (originContract s.state.roster (s.moments is) (s.through before).jobs.length p name model).Sound
      (s.through is) := by
  intro s is
  have keeping : s.state.Keeping s.state.roster (s.moments is) :=
    ⟨rfl, by cases shared <;> rfl, ⟨[], is, rfl, rfl⟩, Deployment.cachesHold_create _ pipelines shared _⟩
  refine keeps_through (sound_start keeping rfl) fun pre i post split sound => ?_
  refine sound_origin sound (fun op service' r e asks' same => ?_) ⟨pre ++ [i], post, by simp [split], ?_⟩
  · subst e
    obtain ⟨rfl, rfl⟩ := asked_once asks asks' split same
    obtain ⟨rfl, rfl⟩ := asks.unique asks'
    exact ⟨routine_of_served sound.holds.inv.roster served _, k, served⟩
  · rw [through_append]
    rfl

end Session

end Stencil
