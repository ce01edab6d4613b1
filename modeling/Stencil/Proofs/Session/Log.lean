import Stencil.Proofs.Session.Delivery
import Stencil.Proofs.Session.Lookups

/-!
# The log of a request

While one request is under way over a storage in memory and no other, the log of its service gets what this request
reports, and nothing else.

## Main definitions

- `Deployment.Kempt` — a deployment whose caches are neat
- `Deployment.Told` — what deeds of a service have done to its cache and to the log
- `Session.Happening.Still` — something that happens besides while a request runs alone

## Main results

- `Deployment.kempt_undergo` — caches are neat after every run
- `Deployment.traces_told` — deeds are told in the log
- `Session.ran_alone` — a request that runs alone takes one of its courses, which is told in the log
- `Session.log_of_request` — what the log gets from a request for a template
-/

namespace Stencil

open Deployment
open Routine (Expands)

namespace Deployment

variable {services : List (Pipeline × Nat)} {d d' : Deployment} {size x k : Nat} {p : Pipeline}

/-! ### What deeds do to caches and to the log -/

/-- What a deed does to the caches it does to that of its service. -/
theorem caches_effect (service : Nat) (deed : Deed Compiled) (d : Deployment) :
    (host.effect service deed d).caches = (d.setCache service (deed.onCache (d.cacheOf service))).caches := by
  cases deed with
  | lookup name found => rfl
  | join name => exact (d.setCache_cacheOf service).symm
  | begin path => exact (caches_beginRead d path).trans (d.setCache_cacheOf service).symm
  | serve path answer => exact (caches_serve d path).trans (d.setCache_cacheOf service).symm
  | act a =>
    cases a with
    | keep name v => exact caches_reports _ _
    | miss shown => rfl
    | note | run | count => exact (d.setCache_cacheOf service).symm

/-- What a deed does to the log. -/
theorem notices_effect (memory : d.storage.isMemory = true) (service : Nat) (deed : Deed Compiled) :
    (host.effect service deed d).notices = d.notices ++ deed.notices (d.cacheOf service) := by
  cases deed with
  | lookup name found => exact congrArg (· ++ _) (notices_setCache d service _)
  | join name => rfl
  | begin path => exact (notices_beginRead d path).trans (List.append_nil _).symm
  | serve path answer =>
    change (d.serve path).2.notices = d.notices ++ []
    rw [serve, List.append_nil]
    cases storage : d.storage with
    | memory m => rfl
    | files tree =>
      rw [storage] at memory
      cases memory
  | act a =>
    cases a with
    | keep name v => exact (notices_reports _ _).trans (congrArg (· ++ _) (notices_setCache d service _))
    | miss shown => exact congrArg (· ++ _) (notices_setCache d service _)
    | note n => rfl
    | run | count => exact (List.append_nil _).symm

theorem length_setCache (d : Deployment) (service : Nat) (c : Cache Compiled) :
    (d.setCache service c).caches.length = d.caches.length := by
  rw [setCache]
  split
  · exact List.length_set
  · rfl

/-- What is written into the cache of a service is found there, if it has one. -/
theorem cacheOf_written (served : d.roster[x]? = some (p, k)) (there : k < d.caches.length) {c : Cache Compiled}
    (roster : d'.roster = d.roster) (caches : d'.caches = (d.setCache x c).caches) : d'.cacheOf x = c := by
  have roster' : d'.roster = (d.setCache x c).roster := roster.trans (d.frame_setCache x c).roster.symm
  rw [cacheOf_of_same roster' caches]
  rw [roster_getElem?, Option.map_eq_some_iff] at served
  obtain ⟨found, at_, same⟩ := served
  obtain ⟨rfl, rfl⟩ := Prod.mk.inj same
  rw [cacheOf, setCache, at_]
  simp [at_, there]

/-! ### Neat caches -/

/-- A deployment of these services over a storage in memory, with so many caches, which are all neat. -/
structure Kempt (services : List (Pipeline × Nat)) (size : Nat) (d : Deployment) : Prop where
  roster : d.roster = services
  memory : d.storage.isMemory = true
  length : d.caches.length = size
  neat : ∀ c ∈ d.caches, c.Neat Compiled.Under

namespace Kempt

variable (kempt : d.Kempt services size)

include kempt

theorem cacheOf (service : Nat) : (d.cacheOf service).Neat Compiled.Under := by
  rw [Deployment.cacheOf]
  cases at_ : d.services[service]? with
  | none => exact Cache.neat_empty _ 0
  | some s =>
    rw [Option.bind_some]
    cases at_k : d.caches[s.cache]? with
    | none => exact Cache.neat_empty _ 0
    | some c => exact kempt.neat c (List.mem_of_getElem? at_k)

theorem same (roster : d'.roster = d.roster) (memory : d'.storage.isMemory = d.storage.isMemory)
    (caches : d'.caches = d.caches) : d'.Kempt services size :=
  ⟨roster.trans kempt.roster, memory.trans kempt.memory, caches ▸ kempt.length, caches ▸ kempt.neat⟩

/-- A neat cache may be written. -/
theorem write {service : Nat} {c : Cache Compiled} (frame : d.Frame d')
    (caches : d'.caches = (d.setCache service c).caches) (neat : c.Neat Compiled.Under) : d'.Kempt services size where
  roster := frame.roster.trans kempt.roster
  memory := frame.memory.trans kempt.memory
  length := by rw [caches, length_setCache, kempt.length]
  neat c' mem := by
    rw [caches, setCache] at mem
    split at mem
    · exact (List.mem_or_eq_of_mem_set mem).elim (kempt.neat c') fun is => is ▸ neat
    · exact kempt.neat c' mem

/-- A deed keeps the caches neat, if templates are kept under their names. -/
theorem effect (service : Nat) {deed : Deed Compiled} (named : ∀ name v, deed = .act (.keep name v) → v.Under name) :
    (host.effect service deed d).Kempt services size := by
  refine kempt.write (frame_effect service deed d) (caches_effect service deed d) ?_
  have neat := kempt.cacheOf service
  cases deed with
  | lookup name found => exact neat.lookup name
  | join | begin | serve => exact neat
  | act a =>
    cases a with
    | keep name v => exact neat.insert (named name v rfl)
    | miss shown => exact neat.miss
    | note | run | count => exact neat

end Kempt

end Deployment

/-- Whatever a job keeps at its turn it keeps under its name. -/
theorem Standing.Stirs.named {asked : Nat → Request → Prop} {missing : Text → Prop} {id service : Nat} {β : Type}
    {services : List (Pipeline × Nat)} {wrap : Standing Compiled β → Work Compiled Bytes} {st : Standing Compiled β}
    {c : Bool} {ds : List (Deed Compiled)} {halt : Halt Compiled β}
    (stirs : st.Stirs services asked missing id service wrap c ds halt) {name : Text} {v : Compiled}
    (keeps : .act (.keep name v) ∈ ds) : v.Under name := by
  have lands {p : Pipeline} {path other : Text} {b : Bytes} {w : Compiled}
      (compiles : p.compiler.compile other b = .ok w) (keeps : Deed.act (.keep name v) ∈ [.serve path (.ok b),
        .act (.note (.compiled other w.static)), .act (.count .compile), .act (.keep other w)]) : v.Under name := by
    obtain ⟨rfl, rfl⟩ : name = other ∧ v = w := by simpa using keeps
    exact Compiler.compile_name compiles
  have none {ds : List (Deed Compiled)} {a j f b : Nat} (sums : Deed.Sums ds a j f 0 b) :
      Deed.act (.keep name v) ∉ ds := fun mem => List.countP_eq_zero.mp sums.kept _ mem rfl
  cases stirs with
  | lost => cases keeps
  | load served shared from_ loading =>
    cases loading with
    | lands compiles => exact lands compiles keeps
    | holds | pauses | begins | fails => simp at keeps
  | request served asks turns =>
    cases turns with
    | dropped | begins => simp at keeps
    | strides leads strides =>
      obtain ⟨walk, stop, rfl, walks, stops⟩ := strides
      obtain ⟨_, walked, _⟩ := walks.sums
      obtain ⟨_, _, stopped, _⟩ := stops.sums 0
      obtain mem | mem := List.mem_append.mp keeps
      · cases leads with
        | lands path next alone compiles => exact lands compiles mem
        | fails => simp at mem
        | fresh | passed | interrupted | landed | resumed => cases mem
      · exact absurd (List.mem_append.mp mem) (not_or.mpr ⟨none walked, none stopped⟩)

namespace Deployment

variable {services : List (Pipeline × Nat)} {d d' : Deployment} {size : Nat}

/-- What is changed apart from the jobs keeps the caches neat. -/
theorem Kempt.change (kempt : d.Kempt services size) {a : Session.Happening} (effect : a.Effect d d') :
    d'.Kempt services size := by
  have stores (f : MemoryStorage → MemoryStorage) : (d.updateMemory f).Kempt services size := by
    obtain ⟨roster, caches, memory, _⟩ := d.updateMemory_same f
    exact kempt.same roster memory caches
  cases effect with
  | get service name =>
    exact kempt.write (d.frame_lookup service name) rfl ((kempt.cacheOf service).lookup name)
  | read path =>
    have frame := (d.frame_beginRead path).trans (frame_serve _ path)
    exact kempt.same frame.roster frame.memory ((caches_serve _ path).trans (caches_beginRead d path))
  | edit f =>
    rw [updateFiles]
    split
    · exact kempt
    · exact kempt.same rfl (by simp_all [Storage.isMemory]) rfl
  | incident effect =>
    cases effect with
    | failing f => exact stores _
    | operation effect =>
      cases effect with
      | invalidate service name =>
        have caches : (d.invalidate service name).2.caches =
            (d.setCache service ((d.cacheOf service).invalidate name).2).caches := by
          rw [invalidate]
          dsimp only
          split <;> rfl
        exact kempt.write (d.frame_invalidate service name) caches ((kempt.cacheOf service).invalidate name)
      | clear service => exact kempt.write (d.frame_clear service) rfl (kempt.cacheOf service).clear
      | add | remove => exact stores _
      | hold | release => exact kempt.same rfl rfl rfl

theorem kempt_create (pipelines : List (Pipeline × Nat)) (shared : Option Nat) (m : MemoryStorage) :
    let d := create pipelines shared (.memory m)
    d.Kempt d.roster d.caches.length := by
  intro d
  refine ⟨rfl, by cases shared <;> rfl, rfl, fun c mem => ?_⟩
  cases shared with
  | some size =>
    obtain rfl := List.mem_singleton.mp mem
    exact Cache.neat_empty _ size
  | none =>
    obtain ⟨⟨p, size⟩, _, rfl⟩ := List.mem_map.mp mem
    exact Cache.neat_empty _ size

/-- **Caches are neat after every run.** -/
theorem kempt_undergo {s : Session} (inService : s.InService services fun _ _ => True)
    (kempt : s.state.Kempt services size) (as : List Session.Happening) : (s.undergo as).state.Kempt services size := by
  refine (inService.undergo (Q := fun t _ => t.state.Kempt services size) (fun _ _ _ => trivial) kempt as
    (fun t _ e inService admits brings kempt => ?_) fun t _ a d _ effect kempt => kempt.change effect).2
  obtain rests | @⟨_, _, service, _, _, _, _, halt, _, move⟩ := t.after_passing host e
  · obtain same | ⟨f, is, _⟩ := rests.state
    · rw [same]
      exact kempt
    · exact absurd is (admits.inside f)
  · have stirs := inService.stirs admits brings (fun p _ _ => lacks_anyone p _) trivial move
    have named : ∀ x ∈ t.entries host e, ∀ name v, x.deed = .act (.keep name v) → v.Under name := by
      intro x mem name v is
      rw [move.entries] at mem
      obtain ⟨deed, does, rfl⟩ := List.mem_map.mp mem
      obtain rfl : deed = _ := is
      obtain turns | joins := List.mem_append.mp does
      · exact stirs.named turns
      · cases halt with
        | sharing other path next =>
          rw [Scheduler.joining] at joins
          split at joins <;> simp at joins
        | ended | held | paused => cases joins
    rw [move.state]
    generalize t.entries host e = es at named
    have keeps (d : Deployment) (kempt : d.Kempt services size) :
        (es.foldl (fun x e => host.effect e.service e.deed x) d).Kempt services size := by
      induction es generalizing d with
      | nil => exact kempt
      | cons x es ih =>
        exact ih (fun y mem => named y (List.mem_cons_of_mem _ mem)) _
          (kempt.effect x.service (named x List.mem_cons_self))
    exact keeps t.state kempt

/-! ### What is told in the log -/

/-- What deeds of a service have done to its cache, and told in the log, since some moment. -/
structure Told (services : List (Pipeline × Nat)) (size x : Nat) (c : Cache Compiled) (before : List Notice)
    (ds : List (Deed Compiled)) (d : Deployment) : Prop where
  roster : d.roster = services
  memory : d.storage.isMemory = true
  length : d.caches.length = size
  log : ∃ ns, Reports c ds ns (d.cacheOf x) ∧ d.notices = before ++ ns

variable {x k : Nat} {p : Pipeline} {c : Cache Compiled} {before : List Notice}

/-- **Deeds are told in the log.** -/
theorem traces_told (served : services[x]? = some (p, k)) (there : k < size) (c : Cache Compiled)
    (before : List Notice) : host.Traces x (Told services size x c before) where
  deed ds deed d told answers := by
    obtain ⟨roster, memory, length, ns, reports, log⟩ := told
    have frame := frame_effect x deed d
    have caches := caches_effect x deed d
    have heeds : deed.Heeds (d.cacheOf x) := by
      cases deed with
      | lookup name found => exact answers
      | act | join | begin | serve => trivial
    refine ⟨frame.roster.trans roster, frame.memory.trans memory, ?_, ns ++ deed.notices (d.cacheOf x), ?_, ?_⟩
    · rw [caches, length_setCache, length]
    · rw [cacheOf_written (roster ▸ served) (length ▸ there) frame.roster caches]
      exact reports.concat heeds
    · rw [notices_effect memory, log, List.append_assoc]

/-- What leaves the services, their caches and the log as they are. -/
theorem Told.aside {ds : List (Deed Compiled)} (told : d.Told services size x c before ds)
    (roster : d'.roster = d.roster) (memory : d'.storage.isMemory = d.storage.isMemory) (caches : d'.caches = d.caches)
    (notices : d'.notices = d.notices) : d'.Told services size x c before ds where
  roster := roster.trans told.roster
  memory := memory.trans told.memory
  length := caches ▸ told.length
  log := by
    rw [cacheOf_of_same roster caches, notices]
    exact told.log

end Deployment

namespace Session

/-- What happens besides while a request runs alone: jobs take their turns, the gate is closed and opened, the storage
is read and changes, or is made to fail. -/
inductive Happening.Still : Happening → Prop where
  | step : Still (.incident (.operation .step))
  | add (path : Text) (content : Bytes) : Still (.incident (.operation (.add path content)))
  | remove (path : Text) : Still (.incident (.operation (.remove path)))
  | hold : Still (.incident (.operation .hold))
  | release : Still (.incident (.operation .release))
  | failing (f : Option Failure) : Still (.incident (.failing f))
  | read (path : Text) : Still (.read path)
  | edit (f : FileTree → FileTree) : Still (.edit f)

variable {services : List (Pipeline × Nat)} {size x k : Nat} {p : Pipeline} {c : Cache Compiled} {before : List Notice}

theorem Happening.Still.events {a : Happening} (still : a.Still) (s : Session) :
    ∀ e ∈ a.events s, e.Still (Told services size x c before) := by
  have one {f : Deployment → Deployment} (keeps : ∀ ds d, Told services size x c before ds d →
      Told services size x c before ds (f d)) (e : Event Deployment Compiled Bytes) (mem : e ∈ [Event.update f]) :
      e.Still (Told services size x c before) := by
    obtain rfl := List.mem_singleton.mp mem
    exact .update keeps
  have stores (f : MemoryStorage → MemoryStorage) (ds : List (Deed Compiled)) (d : Deployment)
      (told : Told services size x c before ds d) : Told services size x c before ds (d.updateMemory f) := by
    obtain ⟨roster, caches, memory, _⟩ := d.updateMemory_same f
    exact told.aside roster memory caches (d.notices_updateMemory f)
  have gate (b : Bool) (ds : List (Deed Compiled)) (d : Deployment) (told : Told services size x c before ds d) :
      Told services size x c before ds { d with held := b } := told.aside rfl rfl rfl rfl
  cases still with
  | step =>
    intro e mem
    obtain rfl := List.mem_singleton.mp mem
    exact .step
  | add | remove | failing => exact one (stores _)
  | hold => exact one (gate true)
  | release =>
    intro e mem
    obtain rfl | mem := List.mem_cons.mp mem
    · exact .update (gate false)
    · obtain rfl := List.mem_singleton.mp mem
      exact .openGate
  | read path =>
    refine one fun ds d told => ?_
    have frame := (d.frame_beginRead path).trans (frame_serve _ path)
    refine told.aside frame.roster frame.memory ((caches_serve _ path).trans (caches_beginRead d path)) ?_
    have memory := (d.frame_beginRead path).memory.trans told.memory
    have log := notices_effect memory x (.serve path (.ok []))
    exact (log.trans (List.append_nil _)).trans (notices_beginRead d path)
  | edit f =>
    refine one fun ds d told => ?_
    have memory := told.memory
    rw [updateFiles]
    split
    · exact told
    · next storage =>
      rw [storage] at memory
      cases memory

/-- The deeds in a chronicle. -/
def deedsOf (ls : List Line) : List (Deed Compiled) :=
  ls.filterMap fun
    | .deed e => some e.deed
    | .got .. | .read => none

theorem deedsOf_append (ls ls' : List Line) : deedsOf (ls ++ ls') = deedsOf ls ++ deedsOf ls' :=
  List.filterMap_append

theorem deedsOf_lines (s : Session) (a : Happening) :
    deedsOf (s.lines a) = (s.record host (a.events s)).map Entry.deed := by
  have uses : deedsOf (a.uses s.state) = [] := by
    cases a with
    | get service name =>
      rw [Happening.uses]
      split <;> rfl
    | incident | read | edit => rfl
  rw [lines, deedsOf_append, uses, List.append_nil, deedsOf, List.filterMap_map]
  exact congrFun List.filterMap_eq_map _

/-- What happens comes to events, and what is done at these is put on record. -/
theorem undergo_play (s : Session) (as : List Happening) : ∃ es, s.undergo as = s.play host es ∧
    deedsOf (s.chronicle as) = (s.record host es).map Entry.deed ∧
    ((∀ a ∈ as, a.Still) → ∀ e ∈ es, e.Still (Told services size x c before)) := by
  induction as generalizing s with
  | nil => exact ⟨[], rfl, rfl, fun _ => nofun⟩
  | cons a as ih =>
    obtain ⟨es, plays, deeds, still⟩ := ih (s.happen a)
    refine ⟨a.events s ++ es, ?_, ?_, fun all e mem => ?_⟩
    · rw [Scheduler.play_append]
      exact plays
    · rw [chronicle, deedsOf_append, deedsOf_lines, deeds, Scheduler.record_append, List.map_append]
      rfl
    · obtain mem | mem := List.mem_append.mp mem
      · exact (all a List.mem_cons_self).events s e mem
      · exact still (fun b mem => all b (List.mem_cons_of_mem _ mem)) e mem

/-- The cache of a service of a new deployment is there. -/
theorem lt_of_create {pipelines : List (Pipeline × Nat)} {shared : Option Nat} {storage : Storage}
    (served : (create pipelines shared storage).roster[x]? = some (p, k)) :
    k < (create pipelines shared storage).caches.length := by
  rw [roster_getElem?] at served
  cases shared with
  | some size =>
    simp only [create, List.getElem?_map, Option.map_eq_some_iff] at served
    obtain ⟨_, ⟨_, _, rfl⟩, same⟩ := served
    obtain ⟨-, rfl⟩ := Prod.mk.inj same
    exact Nat.one_pos
  | none =>
    simp only [create, List.getElem?_mapIdx, Option.map_eq_some_iff] at served
    obtain ⟨_, ⟨_, at_, rfl⟩, same⟩ := served
    obtain ⟨-, rfl⟩ := Prod.mk.inj same
    rw [create, List.length_map]
    exact (List.getElem?_eq_some_iff.mp at_).1

/-- Every session is regular. -/
theorem regular_undergo (d : Deployment) (as : List Happening) : ((start d).undergo as).Regular := by
  obtain ⟨es, plays, _⟩ :=
    @undergo_play [] 0 0 (.empty 0) [] (start d) as
  rw [plays]
  exact (Scheduler.regular_start d).play alone_load es

/-- A request that is asked for while nothing is under way, and that ends before anything else is asked for, takes one
of its courses, and the log and the cache of its service are told by what is done in the meantime. Then nothing is under
way again. -/
theorem ran_alone {s : Session} (kempt : s.state.Kempt services size) (regular : s.Regular) (vacant : s.Vacant)
    (served : services[x]? = some (p, k)) (there : k < size) {op : Operation} {name : Text} {model : Option Model}
    (asks : op.Asks x (.file name model)) {as : List Happening} (still : ∀ a ∈ as, a.Still) {o : Except Failure Bytes}
    (outcome : (s.undergo (.incident (.operation op) :: as)).outcome? s.jobs.length = some o) :
    let ds := deedsOf (s.chronicle (.incident (.operation op) :: as))
    (∃ xs, (p.renderFile name model).Course xs o ∧ Expands p.load xs ds) ∧
      Told services size x (s.state.cacheOf x) s.state.notices ds
        (s.undergo (.incident (.operation op) :: as)).state ∧
      (s.undergo (.incident (.operation op) :: as)).Vacant := by
  intro ds
  have traces := traces_told served there (s.state.cacheOf x) s.state.notices
  have now : Told services size x (s.state.cacheOf x) s.state.notices [] s.state :=
    ⟨kempt.roster, kempt.memory, kempt.length, [], .nil _, (List.append_nil _).symm⟩
  have loads (ds : List (Deed Compiled)) (d : Deployment)
      (told : Told services size x (s.state.cacheOf x) s.state.notices ds d) (name path : Text) :
      host.load x name path d = p.load name path := load_of_served (by rw [told.roster, served]) name path
  obtain ⟨e, brings, events⟩ : ∃ e, Event.Brings x (p.renderFile name model) e ∧
      (Happening.incident (.operation op)).events s = [e] := by
    rw [show p.renderFile name model = s.routine x (.file name model) from
      (routine_of_served kempt.roster served (.file name model)).symm]
    obtain rfl | rfl := asks
    · exact ⟨_, .submit, rfl⟩
    · exact ⟨_, .start, rfl⟩
  obtain ⟨lone, told⟩ := Scheduler.lone_of_brings brings vacant traces loads now
  obtain ⟨es, plays, deeds, quiet⟩ :=
    @undergo_play services size x (s.state.cacheOf x) s.state.notices (s.after host e) as
  obtain ⟨alone, telling⟩ :=
    Scheduler.Lone.play alone_load lone (regular.after alone_load e) traces loads told (quiet still)
  have happens : s.happen (.incident (.operation op)) = s.after host e := by
    rw [happen, events]
    rfl
  have all : ds = (s.entries host e).map Entry.deed ++ ((s.after host e).record host es).map Entry.deed := by
    change deedsOf (s.chronicle (.incident (.operation op) :: as)) = _
    rw [chronicle, deedsOf_append, deedsOf_lines, events, happens, deeds, Scheduler.record, Scheduler.record,
      List.append_nil]
  have comes : s.undergo (.incident (.operation op) :: as) = (s.after host e).play host es := by
    rw [undergo, List.foldl_cons, happens]
    exact plays
  rw [comes] at outcome ⊢
  rw [all]
  exact ⟨alone.course outcome, telling, alone.vacant outcome⟩

/-- **The log of a request** tells its whole way, in order. Let any number of services with any caches read from a
storage in memory, let whatever happens happen until nothing is under way, and let one request for a template be made
then. While it is under way, no other is made; jobs take their turns, the gate is closed and opened, and the storage
changes, is read, or is made to fail. Once the request has ended, the log has got just what `Pipeline.Logged` says: the
lookup of the name; if that leads to a template, that this is rendered, and the lookups for the calls of helpers, in the
order of the calls of the executions that the outcome comes from; and a last word. To an outcome of bytes there is none.
For a failure of the template family it is one record of the logger of the services, a warning if a file could not be
read, and else an error. And nothing is under way again, so all this may be said of each request of a run in which one
is made after the other. -/
theorem log_of_request {pipelines : List (Pipeline × Nat)} {shared : Option Nat} {m : MemoryStorage}
    (served : (create pipelines shared (.memory m)).roster[x]? = some (p, k)) (before : List Happening)
    {op : Operation} {name : Text} {model : Option Model} (asks : op.Asks x (.file name model))
    {as : List Happening} (still : ∀ a ∈ as, a.Still) {o : Except Failure Bytes} :
    let s : Session := (start (create pipelines shared (.memory m))).undergo before
    let all : List Happening := .incident (.operation op) :: as
    s.Vacant → (s.undergo all).outcome? s.jobs.length = some o →
    (∃ visits log o' ns, p.Renders name model visits log o' ∧ o = o'.mapError (Pipeline.Origin.failure p) ∧
      Expands p.load (Pipeline.exchanges log) (deedsOf (s.chronicle all)) ∧
      (s.undergo all).state.notices = s.state.notices ++ ns ∧
      p.Logged name (s.state.cacheOf x) o (Pipeline.callsIn log) ns ((s.undergo all).state.cacheOf x)) ∧
    (∀ b, o = .ok b → Pipeline.lastWord name o = []) ∧
    (∀ f, o = .error f → f.kind.isTemplate = true → ∃ n, Pipeline.lastWord name o = [n] ∧
      n.logger = "templar.service" ∧
      n.level = if f.kind.isStorage then Logging.warningLevel else Logging.errorLevel) ∧
    (s.undergo all).Vacant := by
  intro s all vacant outcome
  have kempt := kempt_undergo (s := start (create pipelines shared (.memory m))) (inService_start _)
    (kempt_create pipelines shared m) before
  obtain ⟨⟨xs, course, expands⟩, told, vacant'⟩ := ran_alone kempt (regular_undergo _ before) vacant served
    (lt_of_create served) asks still outcome
  refine ⟨?_, ?_, ?_, vacant'⟩
  · obtain ⟨visits, log, o', renders, rfl, rfl⟩ := Pipeline.renders_of_course course
    obtain ⟨ns, reports, notices⟩ := told.log
    exact ⟨visits, log, o', ns, renders, rfl, expands, notices, renders.logged expands reports (kempt.cacheOf x)⟩
  · rintro b rfl
    rfl
  · rintro f rfl family
    refine ⟨(Request.file name none).report f, ?_, Request.report_level _ f⟩
    rw [Pipeline.lastWord, faultOf, if_pos family]
    rfl

/-- A template is put out of the cache while it is rendered, by the one that it nests. -/
theorem log_of_request_evicted :
    let p : Pipeline := { templateDir := "t" }
    let source : Bytes := "\x7b\x7b render('b') \x7d\x7d".toList.map fun c => c.toNat.toUInt8
    let m : MemoryStorage := { files := [("t/a", source)] }
    let before : List Happening := [.incident (.operation (.add "t/b" [120]))]
    let as : List Happening := List.replicate 2 (.incident (.operation .step))
    let s : Session := (start (create [(p, 1)] none (.memory m))).undergo before
    let t : Session := s.undergo (.incident (.operation (.start 0 (.file "a" none))) :: as)
    t.outcome? 0 = some (.ok [120]) ∧
    t.state.notices.map (Notice.message "1 ms") = ["Cache miss: a", "Fetching a from t/a",
      "Compiled a (dynamic) in 1 ms", "Rendering a", "Cache miss: b", "Fetching b from t/b",
      "Compiled b (dynamic) in 1 ms", "Evicted: a"] ∧
    ∃ calls ns, t.state.notices = s.state.notices ++ ns ∧
      p.Logged "a" (s.state.cacheOf 0) (.ok [120]) calls ns (t.state.cacheOf 0) := by
  intro p source m before as
  have outcome : (((start (create [(p, 1)] none (.memory m))).undergo before).undergo
      (.incident (.operation (.start 0 (.file "a" none))) :: as)).outcome? 0 = some (.ok [120]) := by decide +kernel
  have vacant : Scheduler.Vacant ((start (create [(p, 1)] none (.memory m))).undergo before) :=
    ⟨fun _ _ => nofun, rfl⟩
  have still : ∀ a ∈ as, a.Still := fun a mem => by
    rw [List.eq_of_mem_replicate mem]
    exact .step
  obtain ⟨⟨_, log, _, ns, _, _, _, notices, logged⟩, _⟩ :=
    log_of_request (x := 0) (p := p) (k := 0) (m := m) rfl before (.inr rfl) still vacant outcome
  exact ⟨outcome, by decide +kernel, Pipeline.callsIn log, ns, notices, logged⟩

end Session

end Stencil
