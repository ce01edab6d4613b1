import Stencil.Proofs.Schedule.Acts
import Stencil.Proofs.Session.Regime

/-!
# Invalidation is not undone

Once a name was dropped from the cache of a service, a request that is submitted to the service later
runs no content under that name that had been replaced before. Neither loads that were under way nor
loads that had ended but were not forgotten bring it back.

## Main definitions

- `Session.stored?` — what is stored under a path
- `Session.honest` — the regime in which caches get what was just read
- `Session.renewed` — the regime since a name was dropped

## Main results

- `Session.invalidated_not_run`
-/

namespace Stencil

namespace Session

/-- What a storage in memory has under a path. -/
def stored? (s : Session) (path : Text) : Option Bytes :=
  match s.state.storage with
  | .memory m => m.files.lookup (Path.normalize path)
  | .files _ => none

theorem stored?_of_contents {s : Session} {path : Text} {b : Bytes}
    (inMemory : s.state.storage.isMemory = true) (read : s.state.storage.contents path = .ok b) :
    s.stored? path = some b := by
  rw [stored?]
  cases at_ : s.state.storage with
  | memory m =>
    rw [at_, Storage.contents] at read
    exact MemoryStorage.lookup_of_serve read
  | files tree =>
    rw [at_] at inMemory
    cases inMemory

/-- The pipelines of services, all with a directory in which nothing is escaped. -/
def PlainServices (services : List (Pipeline × Nat)) : Prop :=
  ∀ (service : Nat) (p : Pipeline) (k : Nat), services[service]? = some (p, k) →
    Markup.escape p.templateDir = p.templateDir

/-- Caches get what was just read, and nothing else is asked. -/
def honest (services : List (Pipeline × Nat)) (plain : PlainServices services) : Regime where
  services
  contents _ := True
  fresh _ name v := v.name = name
  shared _ _ _ _ := True
  runs _ _ := True
  post _ _ := True
  cancellable _ := True
  gated := True
  first := 0
  stale _ := False
  recent := Regime.recent_of_none
  plain
  keeps _ _ _ _ _ _ _ _ resolves := Pipeline.name_of_resolution resolves
  tells _ _ _ _ _ _ _ _ := trivial

/-- A template was compiled by a service from what was stored under a name at one of some moments. -/
def Current (services : List (Pipeline × Nat)) (moments : Contents → Prop) (name : Text)
    (v : Compiled) : Prop :=
  ∃ (c : Contents) (service : Nat) (p : Pipeline) (k : Nat), moments c ∧
    services[service]? = some (p, k) ∧ p.resolution c name = .ok v

/-- The regime since a name was dropped from the cache of a service, at the moments that followed. What
the loads end with does not count that had ended by then. The request `id` is told of no other. -/
def renewed (services : List (Pipeline × Nat)) (plain : PlainServices services)
    (moments : Contents → Prop) (service : Nat) (name : Text) (id : Nat) (dropped : Session) :
    Regime where
  services
  contents := moments
  fresh k n v := v.name = n ∧
    ((∃ p, services[service]? = some (p, k)) → n = name → Current services moments name v)
  shared id' _ n o := id' = id → ∀ v, o = .ok v →
    v.name = n ∧ (n = name → Current services moments name v)
  runs id' v := id' = id → v.name = name → Current services moments name v
  post _ _ := True
  cancellable _ := True
  gated := True
  first := dropped.jobs.length
  stale := dropped.Ended
  recent _ ended := ended.lt
  plain
  keeps _ p k c _ _ is met resolves :=
    ⟨Pipeline.name_of_resolution resolves, fun _ e => ⟨c, _, p, k, met, is, e ▸ resolves⟩⟩
  tells _ _ p k c _ is met _ _ told :=
    have resolves := ok_of_told told
    ⟨Pipeline.name_of_resolution resolves, fun e => ⟨c, _, p, k, met, is, e ▸ resolves⟩⟩

section

variable {services : List (Pipeline × Nat)} {plain : PlainServices services}
  {moments : Contents → Prop} {service : Nat} {name : Text} {id : Nat} {dropped : Session}

theorem honest_free {k : Nat} : (honest services plain).Free k :=
  ⟨fun _ => trivial, fun _ _ _ => trivial, fun _ => trivial⟩

theorem renewed_free {k : Nat} (other : k ≠ id) :
    (renewed services plain moments service name id dropped).Free k where
  runs _ e := absurd e other
  shared _ _ _ e := absurd e other
  post _ := trivial

/-- Since the name was dropped, the request runs under it what is stored. -/
theorem renewed_fits {s : Session} (roster : s.state.roster = services) (asked : Text)
    (model : Option Model) :
    (Standing.fresh (s.routine service (.file asked model))).Keeps
      ((renewed services plain moments service name id dropped).terms id service) (fun _ _ => True)
      fun _ _ => False := by
  refine ⟨fun c met => ?_, fun _ _ _ => trivial⟩
  rw [routine]
  cases at_ : s.state.services[service]? with
  | none => exact trivial
  | some found =>
    have is : services[service]? = some (found.pipeline, found.cache) := by
      rw [← roster, Deployment.roster_getElem?, at_]
      rfl
    have resolves : found.pipeline.Resolves
        ((renewed services plain moments service name id dropped).terms id service) False
        fun n o => ∀ v, o = .ok v → v.name = n ∧ (n = name → Current services moments name v) := by
      refine Regime.resolves is (fun sure => sure.elim) (fun n v fresh v' e => ?_)
        (fun n o told => told rfl) (fun c n met v resolves => ?_) (fun _ n v fails => ?_)
        fun n v ends _ named => ?_
      · obtain rfl := Except.ok.inj e
        exact ⟨fresh.1, fresh.2 ⟨_, is⟩⟩
      · exact ⟨Pipeline.name_of_resolution resolves,
          fun e => ⟨c, service, _, _, met, is, e ▸ resolves⟩⟩
      · cases fails
      · obtain ⟨own, current⟩ := ends v rfl
        exact current (own.symm.trans named)
    obtain ⟨P, _, _, ensures⟩ := resolves.renderFile asked model
    exact (ensures found.pipeline.singleFlight c met).mono fun _ _ _ => trivial

/-- A load in flight tells the request what is stored, or it has ended. -/
theorem renewed_tells {s : Session} {es : List (Event Deployment Compiled Bytes)}
    (run : s = dropped.play Deployment.host es) {service' l : Nat} {n : Text} :
    (renewed services plain moments service name id dropped).contract.Tells id l service' n ∨
      ∃ job, s.job? l = some job ∧ job.work.phase = .ended := by
  by_cases stale : ∃ job, dropped.job? l = some job ∧ job.work.phase = .ended
  · obtain ⟨job, at_, ended⟩ := stale
    obtain ⟨job', now, same⟩ := Scheduler.play_ended (h := Deployment.host) es at_ ended
    exact .inr ⟨job', run ▸ now, (Job.phase_of_bare same).trans ended⟩
  · refine .inl fun c o met ends => ?_
    obtain ⟨p, k, is, rfl⟩ := ends stale
    exact Regime.tells _ id service' p k c n is met

/-- When a name is dropped from the cache of a service, what is stored then is all that the cache can
have under it. -/
theorem renewed_sound {s : Session} (sound : (honest services plain).contract.Sound s)
    (now : moments (s.operate (.invalidate service name)).state.storage.contents)
    (later : s.jobs.length ≤ id) :
    (renewed services plain moments service name id
      (s.operate (.invalidate service name))).contract.Sound (s.operate (.invalidate service name)) := by
  let t := s.operate (.invalidate service name)
  have still : (honest services plain).contract.Sound t := Regime.sound_operate sound trivial
  have inv : (honest services plain).Inv t.state := still.holds.inv
  have caches : t.state.CachesHold (renewed services plain moments service name id t).fresh := by
    refine (show s.state.CachesHold _ from sound.holds.inv.caches).invalidate fun k n v other named => ?_
    refine ⟨named, fun own e => own.elim fun p is => absurd e (other p ?_)⟩
    rw [show s.state.roster = services from sound.holds.inv.roster]
    exact is
  refine Regime.gives_way still (fun _ => ⟨honest_free, trivial⟩)
    ⟨inv.roster, now, inv.memory, caches, fun _ => trivial⟩ rfl (fun _ _ => trivial)
    (fun _ _ _ fresh => fresh.1) (fun k lt => ⟨renewed_free ?_, trivial⟩) trivial (Nat.le_refl _)
    fun l stale => stale.elim (fun ended => ended) False.elim
  exact Nat.ne_of_lt (Nat.lt_of_lt_of_le lt later)

theorem honest_allows (s : Session) (op : Operation) : (honest services plain).Allows s op := by
  cases op <;> first | exact honest_free | exact fun _ => trivial | trivial

end

/-- Caches get what was just read in every run. -/
theorem honest_sound {pipelines : List (Pipeline × Nat)} {shared : Option Nat} {m : MemoryStorage}
    (plain : PlainServices (Deployment.create pipelines shared (.memory m)).roster)
    (ops : List Operation) : (honest _ plain).contract.Sound
      ((start (.create pipelines shared (.memory m))).run ops) := by
  refine Regime.sound_run (Regime.sound_start ⟨rfl, trivial, ?_, ?_, fun _ => trivial⟩ rfl)
    fun pre op _ _ => honest_allows _ op
  · cases shared <;> rfl
  · exact Deployment.cachesHold_create _ pipelines shared _

theorem plainServices_create {pipelines : List (Pipeline × Nat)} {shared : Option Nat}
    {storage : Storage} {dir : Text} (plain : Markup.Plain dir)
    (same : ∀ q ∈ pipelines, q.1.templateDir = dir) :
    PlainServices (Deployment.create pipelines shared storage).roster := by
  intro service p k is
  obtain ⟨size, mem⟩ := Deployment.mem_of_create is
  have dirs : p.templateDir = dir := same _ mem
  rw [dirs]
  exact Markup.escape_of_plain plain

/-- What a name resolves to was compiled from what is stored under it. -/
theorem stored_of_resolution {s : Session} {q : Pipeline} {dir name : Text} {v : Compiled}
    (inMemory : s.state.storage.isMemory = true) (same : q.templateDir = dir)
    (resolves : q.resolution s.state.storage.contents name = .ok v) :
    ∃ b, s.stored? (Path.join dir name) = some b ∧ q.compiler.compile name b = .ok v := by
  obtain ⟨b, read, compiles⟩ := Pipeline.exists_of_resolution resolves
  rw [Pipeline.templatePath, same] at read
  exact ⟨b, stored?_of_contents inMemory read, compiles⟩

/-- **Invalidation is not undone**: what a request runs under a name that was submitted to a service
after the name was dropped there had been stored at that time or later. -/
theorem invalidated_not_run (pipelines : List (Pipeline × Nat)) (shared : Option Nat)
    (m : MemoryStorage) (dir : Text) (service : Nat) (name asked : Text) (model : Option Model)
    (before between after : List Operation) (plain : Markup.Plain dir)
    (same : ∀ q ∈ pipelines, q.1.templateDir = dir) :
    let s := ((start (.create pipelines shared (.memory m))).run before).operate
      (.invalidate service name)
    let ops := between ++ .submit service (.file asked model) :: after
    ∀ rest v, (s.run ops).queue = .turn (s.run between).jobs.length :: rest →
      .run v ∈ (s.run ops).acts Deployment.host → v.name = name →
      ∃ pre post q b, ops = pre ++ post ∧ q ∈ pipelines ∧
        (s.run pre).stored? (Path.join dir name) = some b ∧ q.1.compiler.compile name b = .ok v := by
  intro s ops rest v front runs named
  let d := Deployment.create pipelines shared (.memory m)
  have plainServices : PlainServices d.roster := plainServices_create plain same
  let moments (c : Contents) := ∃ pre post, ops = pre ++ post ∧ c = (s.run pre).state.storage.contents
  let id := (s.run between).jobs.length
  let G := renewed d.roster plainServices moments service name id s
  have others : ∀ k, k ≠ id → G.Free k ∧ G.cancellable k := fun k other => ⟨renewed_free other, trivial⟩
  have met : ∀ pre op post, ops = pre ++ op :: post →
      moments ((s.run pre).operate op).state.storage.contents := by
    intro pre op post e
    exact ⟨pre ++ [op], post, by rw [e, List.append_assoc]; rfl, by rw [run_append]; rfl⟩
  have dropped : G.contract.Sound s := by
    refine renewed_sound (honest_sound plainServices before) ⟨[], ops, rfl, rfl⟩ ?_
    exact length_le_run s between
  have reached : G.contract.Sound (s.run between) := by
    refine Regime.sound_run dropped fun pre op post e => ?_
    refine Regime.allows_of_apart others (.inl (length_operate_le s e)) (fun _ _ => trivial) (fun _ => ?_)
      fun _ => trivial
    exact met pre op (post ++ .submit service (.file asked model) :: after) (by simp [ops, e])
  obtain ⟨es, run⟩ := s.run_play between
  have fits : (Standing.fresh ((s.run between).routine service (.file asked model))).Keeps
      (G.terms id service) (fun _ _ => True) fun _ _ => False :=
    renewed_fits reached.holds.inv.roster asked model
  have submitted : G.contract.Sound ((s.run between).operate (.submit service (.file asked model))) :=
    reached.after (e := .submit service _) ⟨fits, fun _ _ _ _ => renewed_tells run⟩
  have asks : (Operation.submit service (.file asked model)).Asks service (.file asked model) := .inl rfl
  obtain ⟨_, _, at_⟩ := asks.job? (s.run between)
  have split : s.run ops = ((s.run between).operate (.submit service (.file asked model))).run after :=
    run_append s between _
  have sound : G.contract.Sound (s.run ops) := by
    rw [split]
    refine Regime.sound_run submitted fun pre op post e => ?_
    have there := Nat.lt_of_lt_of_le (Scheduler.lt_of_job? at_) (length_le_run _ pre)
    refine Regime.allows_of_apart others (.inr there) (fun _ _ => trivial) (fun _ => ?_) fun _ => trivial
    have now := met (between ++ .submit service (.file asked model) :: pre) op post (by simp [ops, e])
    rwa [run_append] at now
  obtain ⟨st, cancelling, own⟩ := run_request at_ after
  rw [← split] at own
  obtain ⟨_, _, allowed⟩ := sound.acts_allowed own front _ runs
  obtain ⟨_, service', q, k, ⟨pre, post, e, rfl⟩, is, resolves⟩ := allowed rfl named
  obtain ⟨size, mem⟩ := Deployment.mem_of_create is
  have inMemory : (s.run pre).state.storage.isMemory = true := by
    have honestly := honest_sound plainServices (before ++ .invalidate service name :: pre)
    rw [run_append] at honestly
    exact honestly.holds.inv.memory
  obtain ⟨b, stored, compiles⟩ := stored_of_resolution inMemory (same _ mem) resolves
  exact ⟨pre, post, (q, size), b, e, mem, stored, compiles⟩

/-- Two services with one cache. The load that the request joins was under way when the name was dropped,
and the template was replaced after that. -/
theorem invalidated_not_run_shared :
    let p : Pipeline := { templateDir := "t", singleFlight := true }
    let m : MemoryStorage := { files := [("t/x", [111])] }
    let s := ((start (.create [(p, 1), (p, 1)] (some 1) (.memory m))).run
      [.submit 0 (.file "x" none), .step]).operate (.invalidate 0 "x")
    let ops : List Operation := .add "t/x" [110] :: .submit 0 (.file "x" none) :: List.replicate 7 .step
    Markup.Plain "t" ∧ ∃ rest v, (s.run ops).queue = .turn 2 :: rest ∧
      .run v ∈ (s.run ops).acts Deployment.host ∧ v.name = ("x" : Text) ∧
      ∃ pre post q b, ops = pre ++ post ∧ q ∈ [(p, 1), (p, 1)] ∧
        (s.run pre).stored? (Path.join "t" "x") = some b ∧ q.1.compiler.compile "x" b = .ok v := by
  intro p m s ops
  have plain : Markup.Plain "t" := by unfold Markup.Plain; decide
  have front : (s.run ops).queue.head? = some (.turn 2) := by decide +kernel
  have runs : ((s.run ops).acts Deployment.host).any fun
      | .run v => v.name == ("x" : Text)
      | _ => false := by decide +kernel
  obtain ⟨rest, front⟩ := List.head?_eq_some_iff.mp front
  obtain ⟨a, mem, named⟩ := List.any_eq_true.mp runs
  cases a with
  | run v =>
    have named : v.name = ("x" : Text) := eq_of_beq named
    refine ⟨plain, rest, v, front, mem, named, ?_⟩
    exact invalidated_not_run [(p, 1), (p, 1)] (some 1) m "t" 0 "x" "x" none
      [.submit 0 (.file "x" none), .step] [.add "t/x" [110]] (List.replicate 7 .step) plain
      (by simp [p]) rest v front mem named
  | _ => cases named

end Session

end Stencil
