import Stencil.Proofs.CommandLine.Outcomes
import Stencil.Proofs.Session.Delivery
import Stencil.Proofs.Session.Transparent

/-!
# The service of a call

What a call makes of a request is what a service makes of it that is made of the same settings and reads
the same files. In a session that is asked for one thing only, there is at every moment exactly one job
that can go on: the request, or the load that it waits for.

## Main definitions

- `Deployment.onFiles` — a deployment over other files
- `Session.Goes` — a job is the only one that can go on, and a routine is what remains of it

## Main results

- `Session.Goes.read`, `Session.Goes.share`, `Session.Goes.landed` — one step of the only job that can go on
- `Session.Goes.settles` — a request that is alone in a session comes to what its routine comes to alone
- `Session.settles_new` — so does the first request to a new service
-/

namespace Stencil

namespace Deployment

/-- A deployment over other files. -/
def onFiles (d : Deployment) (tree : FileTree) : Deployment :=
  { d with storage := .files tree }

variable (d : Deployment) (tree : FileTree) (service : Nat)

theorem setCache_onFiles (c : Cache Compiled) :
    (d.onFiles tree).setCache service c = (d.setCache service c).onFiles tree := by
  have same : (d.onFiles tree).services[service]? = d.services[service]? := rfl
  rw [setCache, setCache, same]
  cases d.services[service]? <;> rfl

theorem lookup_onFiles (name : Text) : (d.onFiles tree).lookup service name =
    ((d.lookup service name).1, (d.lookup service name).2.onFiles tree) := by
  have same : (d.onFiles tree).cacheOf service = d.cacheOf service := rfl
  simp only [lookup, same, setCache_onFiles]
  rfl

theorem reports_onFiles (ns : List Notice) :
    ns.foldl report (d.onFiles tree) = (ns.foldl report d).onFiles tree := by
  induction ns generalizing d with
  | nil => rfl
  | cons n ns ih => exact ih (d.report n)

/-- What a request does to a deployment does not depend on the files. -/
theorem act_onFiles (a : Act Compiled) : (d.onFiles tree).act service a = (d.act service a).onFiles tree := by
  have same : (d.onFiles tree).cacheOf service = d.cacheOf service := rfl
  cases a with
  | keep name v =>
    simp only [act, keep, same, setCache_onFiles]
    exact reports_onFiles _ tree _
  | miss shown =>
    simp only [act, miss, same, setCache_onFiles]
    rfl
  | note | count | run => rfl

theorem serve_onFiles (path : Text) : (d.onFiles tree).serve path =
    ((d.fileAnswer path (LocalStorage.read tree none path)).1,
      (d.fileAnswer path (LocalStorage.read tree none path)).2.onFiles tree) := by
  change (d.onFiles tree).fileAnswer path (LocalStorage.read tree none path) = _
  cases LocalStorage.read tree none path <;> rfl

theorem held_fileAnswer (path : Text) (answer : Except Failure Bytes) :
    (d.fileAnswer path answer).2.held = d.held := by
  cases answer <;> rfl

end Deployment

namespace Session

open CommandLine (alone loadAlone noLoads)
open Deployment (host)

/-- A job is the only one that can go on, and a routine is what remains of it. -/
structure Goes {β : Type} (tree : FileTree) (s : Session) (id : Nat)
    (wrap : Standing Compiled β → Work Compiled Bytes) (r : Routine Compiled β) (d : Deployment) : Prop where
  seat : Seat Compiled Bytes β wrap
  stands : ∃ st, s.job? id = some ⟨0, wrap st, false⟩ ∧ ∀ landed,
    host.turn 0 landed false st s.state = some (host.advance 0 landed r (d.onFiles tree))
  held : d.held = false
  queue : s.queue = [.turn id]

namespace Goes

variable {β : Type} {tree : FileTree} {s : Session} {id : Nat} {d : Deployment}
  {wrap : Standing Compiled β → Work Compiled Bytes}

theorem lookup {name : Text} {next : Option Compiled → Routine Compiled β}
    (goes : Goes tree s id wrap (.lookup name next) d) :
    Goes tree s id wrap (next (d.lookup 0 name).1) (d.lookup 0 name).2 := by
  obtain ⟨st, at_, turn⟩ := goes.stands
  refine ⟨goes.seat, ⟨st, at_, fun landed => ?_⟩, ?_, goes.queue⟩
  · rw [turn landed, Host.advance]
    change some (host.advance 0 landed (next ((d.onFiles tree).lookup 0 name).1)
      ((d.onFiles tree).lookup 0 name).2) = _
    rw [Deployment.lookup_onFiles]
  · exact (d.frame_lookup 0 name).held.trans goes.held

theorem act {a : Act Compiled} {next : Routine Compiled β} (goes : Goes tree s id wrap (.act a next) d) :
    Goes tree s id wrap next (d.act 0 a) := by
  obtain ⟨st, at_, turn⟩ := goes.stands
  refine ⟨goes.seat, ⟨st, at_, fun landed => ?_⟩, ?_, goes.queue⟩
  · rw [turn landed, Host.advance]
    exact congrArg (fun x => some (host.advance 0 landed next x)) (d.act_onFiles tree 0 a)
  · exact (d.frame_act 0 a).held.trans goes.held

/-- **A read** pauses, and goes on with what the file holds. -/
theorem read {path : Text} {next : Except Failure Bytes → Routine Compiled β}
    (goes : Goes tree s id wrap (.read path next) d) :
    Goes tree (s.step host) id wrap (next (d.fileAnswer path (LocalStorage.read tree none path)).1)
        (d.fileAnswer path (LocalStorage.read tree none path)).2 ∧
      (s.step host).flights = s.flights ∧ ∀ k, k ≠ id → (s.step host).job? k = s.job? k := by
  obtain ⟨st, at_, turn⟩ := goes.stands
  have pauses (landed : Text → Option (Except Failure Compiled)) :
      host.turn 0 landed false st s.state = some (.paused path next, d.onFiles tree) := by
    have open_ : host.holding (d.onFiles tree) = false := goes.held
    rw [turn landed, Host.advance, open_]
    rfl
  have stepped : s.step host = Scheduler.settle host
      (Scheduler.reseat { s with queue := [] } id 0 (wrap st) (d.onFiles tree)) id 0 wrap
      (.paused path next) := by
    rw [Scheduler.step_of_queue goes.queue]
    exact Scheduler.takeTurn_of_some (s := { s with queue := [] }) goes.seat at_ (pauses _)
  have there : s.job? id = some ⟨0, wrap st, false⟩ := at_
  have jobs (k : Nat) : (s.step host).job? k =
      if k = id then some ⟨0, wrap (.paused path next), false⟩ else s.job? k := by
    rw [stepped, Scheduler.settle]
    change (Scheduler.setWork _ id _).job? k = _
    rw [Scheduler.job?_setWork, Scheduler.job?_reseat]
    split
    · next same =>
      subst same
      change ((s.job? k).map _).map _ = _
      rw [there]
      rfl
    · rfl
  refine ⟨⟨goes.seat, ⟨.paused path next, ?_, fun landed => ?_⟩, ?_, ?_⟩, ?_, fun k other => ?_⟩
  · rw [jobs, if_pos rfl]
  · rw [stepped]
    change some (host.advance 0 landed (next ((d.onFiles tree).serve path).1) ((d.onFiles tree).serve path).2) = _
    rw [Deployment.serve_onFiles]
  · exact (d.held_fileAnswer path _).trans goes.held
  · rw [stepped]
    rfl
  · rw [stepped]
    rfl
  · rw [jobs, if_neg other]

/-- **A job ends** at its turn, and what its end brings about is all that is left to do. -/
theorem finish {o : Except Failure β} (goes : Goes tree s id wrap (.finish o) d) :
    (s.step host).job? id = some ⟨0, wrap (.ended o), false⟩ ∧ (s.step host).state = d.onFiles tree ∧
      (s.step host).queue = (wrap (.ended o)).endHandles id ∧ (s.step host).flights = s.flights ∧
      ∀ k, k ≠ id → (s.step host).job? k = s.job? k := by
  obtain ⟨st, at_, turn⟩ := goes.stands
  have stepped : s.step host = { Scheduler.reseat { s with queue := [] } id 0 (wrap (.ended o)) (d.onFiles tree) with
      queue := [] ++ (wrap (.ended o)).endHandles id } := by
    rw [Scheduler.step_of_queue goes.queue]
    exact Scheduler.takeTurn_of_ended (s := { s with queue := [] }) goes.seat at_ (turn _)
  have jobs (k : Nat) : (s.step host).job? k =
      if k = id then some ⟨0, wrap (.ended o), false⟩ else s.job? k := by
    rw [stepped]
    refine (Scheduler.job?_reseat { s with queue := [] } id 0 k (wrap (.ended o)) (d.onFiles tree)).trans ?_
    split
    · next same =>
      subst same
      change (s.job? k).map _ = _
      rw [at_]
      rfl
    · rfl
  rw [jobs, if_pos rfl, stepped]
  refine ⟨rfl, rfl, rfl, rfl, fun k other => ?_⟩
  rw [← stepped, jobs, if_neg other]

/-! ### Loads -/

/-- **A load goes on by itself** until it has come to what it comes to alone. -/
theorem ends {r : Routine Compiled β} (solo : r.Alone) (goes : Goes tree s id wrap r d) :
    ∃ n, let t := s.steps host n
      t.job? id = some ⟨0, wrap (.ended (alone tree noLoads r d).1), false⟩ ∧
      t.state = (alone tree noLoads r d).2.onFiles tree ∧ (alone tree noLoads r d).2.held = false ∧
      t.queue = (wrap (.ended (alone tree noLoads r d).1)).endHandles id ∧ t.flights = s.flights ∧
      ∀ k, k ≠ id → t.job? k = s.job? k := by
  induction r generalizing s d with
  | finish o =>
    obtain ⟨job, state, queue, flights, others⟩ := goes.finish
    exact ⟨1, job, state, goes.held, queue, flights, others⟩
  | lookup name next ih => exact ih _ (solo _) goes.lookup
  | act a next ih => exact ih solo goes.act
  | read path next ih =>
    obtain ⟨goes', flights', others'⟩ := goes.read
    obtain ⟨n, job, state, held, queue, flights, others⟩ := ih _ (solo _) goes'
    exact ⟨n + 1, job, state, held, queue, flights.trans flights',
      fun k other => (others k other).trans (others' k other)⟩
  | share => exact solo.elim

/-- A request that asks for a load that is not under way waits for it, and it is the load that goes on. -/
theorem share {name path : Text} {next : Except Failure Compiled → Routine Compiled Bytes}
    (goes : Goes tree s id .request (.share name path next) d) (grounded : s.flights = []) :
    let t := s.step host
    id ≠ s.jobs.length ∧ t.job? id = some ⟨0, .request (.waiting s.jobs.length next), false⟩ ∧
      t.flights = [((0, name), s.jobs.length)] ∧
      Goes tree t s.jobs.length (fun st => .load name st [id]) (d.load 0 name path) d := by
  intro t
  obtain ⟨st, at_, turn⟩ := goes.stands
  have lt : id < s.jobs.length := Scheduler.lt_of_job? at_
  have none_ : s.landed? 0 name = none := by
    rw [Scheduler.landed?, grounded]
    rfl
  have asks : host.turn 0 (s.landed? 0) false st s.state = some (.sharing name path next, d.onFiles tree) := by
    rw [turn, Host.advance, none_]
  have stepped : t = Scheduler.settle host
      (Scheduler.reseat { s with queue := [] } id 0 (.request st) (d.onFiles tree)) id 0 .request
      (.sharing name path next) := by
    change s.step host = _
    rw [Scheduler.step_of_queue goes.queue]
    exact Scheduler.takeTurn_of_some (s := { s with queue := [] }) .request at_ asks
  have started : t = Scheduler.setWork
      { s with
        state := d.onFiles tree
        jobs := s.jobs.set id ⟨0, .request st, false⟩ ++
          [⟨0, .load name (.fresh (d.load 0 name path)) [id], false⟩]
        queue := [.turn s.jobs.length]
        flights := [((0, name), s.jobs.length)] } id (.request (.waiting s.jobs.length next)) := by
    rw [stepped, Scheduler.settle, Scheduler.join]
    simp only [Scheduler.reseat, grounded, List.lookup_nil, Scheduler.spawn, Scheduler.push,
      List.length_set, List.nil_append]
    rfl
  have jobs (k : Nat) : t.job? k = if k = id then some ⟨0, .request (.waiting s.jobs.length next), false⟩
      else if k = s.jobs.length then some ⟨0, .load name (.fresh (d.load 0 name path)) [id], false⟩
      else s.job? k := by
    rw [started, Scheduler.job?_setWork, Scheduler.job?_start lt]
    split
    · rfl
    · rfl
  have other : s.jobs.length ≠ id := Nat.ne_of_gt lt
  refine ⟨Ne.symm other, by rw [jobs, if_pos rfl], by rw [started]; rfl,
    .load name [id], ⟨.fresh (d.load 0 name path), ?_, fun landed => ?_⟩, goes.held, by rw [started]; rfl⟩
  · rw [jobs, if_neg other, if_pos rfl]
  · rw [started]
    rfl

/-- **A load that has ended** is forgotten, and the request that waits for it goes on with what it came to. -/
theorem landed {l : Nat} {name : Text} {o : Except Failure Compiled} {c : Bool}
    {next : Except Failure Compiled → Routine Compiled Bytes}
    (waits : s.job? id = some ⟨0, .request (.waiting l next), false⟩)
    (ended : s.job? l = some ⟨0, .load name (.ended o) [id], c⟩)
    (told : toldOf o = o) (state : s.state = d.onFiles tree) (held : d.held = false)
    (queue : s.queue = [.forget l, .relay l id]) (flights : s.flights = [((0, name), l)]) :
    Goes tree (s.steps host 2) id .request (next o) d ∧ (s.steps host 2).flights = [] := by
  let forgotten : Session := { s with queue := [.relay l id], flights := [] }
  let idle : Session := { s with queue := [], flights := [] }
  have first : s.step host = forgotten := by
    rw [Scheduler.step_of_queue queue]
    change ({ s with queue := [.relay l id], flights := s.flights.filter (·.2 != l) } : Session) = _
    rw [flights]
    simp [forgotten]
  have tells : (idle.job? l).bind (fun job => job.work.landed?) = some o := by
    change (s.job? l).bind _ = _
    rw [ended]
    exact (Work.landed?_ended name o [id]).trans (congrArg some told)
  have wakes : (idle.job? id).bind (fun job => job.work.restand? fun standing =>
      standing.land? l o) = some (.request (.landed o next)) := by
    change (s.job? id).bind _ = _
    rw [waits]
    simp [Work.restand?, Standing.land?]
  have second : forgotten.step host =
      (Scheduler.setWork idle id (.request (.landed o next))).push (.turn id) := by
    have relays : forgotten.step host = Scheduler.perform host idle (.relay l id) :=
      Scheduler.step_of_queue rfl
    rw [relays, Scheduler.perform, tells]
    dsimp only
    rw [Scheduler.wake, wakes]
  have two : s.steps host 2 = forgotten.step host := by
    rw [Scheduler.steps_succ, first]
    rfl
  rw [two, second]
  refine ⟨⟨.request, ⟨.landed o next, ?_, fun landed => ?_⟩, held, rfl⟩, rfl⟩
  · change (Scheduler.setWork idle id _).job? id = _
    rw [Scheduler.job?_setWork, if_pos rfl]
    change (s.job? id).map _ = _
    rw [waits]
    rfl
  · change some (host.advance 0 landed (next o) s.state) = _
    rw [state]

/-- What a load comes to is told as it is. -/
theorem told_loadAlone (tree : FileTree) (name path : Text) (d : Deployment) :
    toldOf (loadAlone tree name path d).1 = (loadAlone tree name path d).1 := by
  rw [loadAlone, Deployment.load]
  cases d.services[0]? with
  | none => rfl
  | some service =>
    have is : (alone tree noLoads (service.pipeline.load name path) d).1 =
        (LocalStorage.read tree none path).bind (service.pipeline.compiler.compile name) :=
      CommandLine.alone_load service.pipeline name path d
    cases comes : (alone tree noLoads (service.pipeline.load name path) d).1 with
    | ok v => rfl
    | error f =>
      have kind : f.kind ≠ .cancelled := by
        obtain unread | ⟨b, _, fails⟩ := error_of_bind (is.symm.trans comes)
        · exact LocalStorage.kind_of_read unread
        · exact Compiler.compile_kind fails
      rw [toldOf, if_neg kind]

/-- **A request that is alone in a session** comes to what its routine comes to alone. -/
theorem settles {r : Routine Compiled Bytes} (goes : Goes tree s id .request r d) (grounded : s.flights = []) :
    s.Settles host id (alone tree (loadAlone tree) r d).1 := by
  induction r generalizing s d with
  | finish o =>
    have ended := goes.finish.1
    exact (Scheduler.Settles.of_outcome? (Scheduler.outcome?_of_at ended)).of_steps 1
  | lookup name next ih => exact ih _ goes.lookup grounded
  | act a next ih => exact ih goes.act grounded
  | read path next ih =>
    obtain ⟨goes', flights, -⟩ := goes.read
    exact (ih _ goes' (flights.trans grounded)).of_steps 1
  | share name path next ih =>
    -- the load is started, it ends, and the request is told
    obtain ⟨other, waits, flights, load⟩ := goes.share grounded
    have solo : (d.load 0 name path).Alone := Deployment.alone_load 0 name path d
    obtain ⟨n, ended, state, held, queue, flights', others⟩ := load.ends solo
    have waits' := (others id other).trans waits
    have told := told_loadAlone tree name path d
    obtain ⟨goes', grounded'⟩ := landed waits' ended told state held queue (flights'.trans flights)
    exact (((ih _ goes' grounded').of_steps 2).of_steps n).of_steps 1

end Goes

/-- **The first request to a new service** comes to what its routine comes to alone. -/
theorem settles_new (p : Pipeline) (size : Nat) (tree : FileTree) (r : Request) :
    ((start (.create [(p, size)] none (.files tree))).run [.start 0 r]).Settles host 0
      (alone tree (loadAlone tree) (r.routine p) (CommandLine.newDeployment p size)).1 := by
  let d := CommandLine.newDeployment p size
  let begun : Session := {
    state := d.onFiles tree
    jobs := [⟨0, .request (.fresh (r.routine p)), false⟩]
    queue := [.turn 0] }
  have goes : Goes tree begun 0 .request (r.routine p) d :=
    ⟨.request, ⟨_, rfl, fun landed => rfl⟩, rfl, rfl⟩
  obtain ⟨n, settled⟩ := goes.settles rfl
  -- to begin a request is to perform its first turn
  have first : (start (.create [(p, size)] none (.files tree))).run [.start 0 r] = begun.step host := rfl
  rw [first]
  refine ⟨n, fun k => ?_⟩
  have later := settled (k + 1)
  rw [← Nat.add_assoc, Nat.add_comm _ 1, Scheduler.steps_add] at later
  exact later

end Session

end Stencil
