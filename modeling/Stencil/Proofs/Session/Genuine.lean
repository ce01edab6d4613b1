import Mathlib.Data.List.Induction
import Stencil.Proofs.Session.Invalidate
import Stencil.Proofs.Session.Loads

/-!
# What the caches hold is genuine

Each template in a cache was put there by a load that had succeeded. It was made of the bytes that were stored
at that moment, and nothing was put under its name since. A load that does not succeed leaves the caches as
they are.

## Main definitions

- `Session.puts` — what is put into the caches at an incident

## Main results

- `Session.meet_puts` — what one incident does to the caches
- `Session.cached_genuine` — what the caches hold after any run
-/

namespace Stencil

open Deployment

/-- A name is loaded from one path only, if nothing in the directory is escaped. -/
theorem Pipeline.templatePath_of_known {p : Pipeline} (plain : Markup.Plain p.templateDir) {name path : Text}
    (known : path ∈ p.pathsOf name) : path = p.templatePath name := by
  obtain rfl | known := List.mem_cons.mp known
  · rfl
  · obtain rfl := List.mem_singleton.mp known
    rw [Markup.escape_of_plain plain, templatePath, Path.join]
    split <;> rfl

namespace Session

variable {services : List (Pipeline × Nat)} {s : Session}

/-- What is put into the caches at an incident. -/
def puts (s : Session) (i : Incident) : List (Text × Compiled) :=
  (s.unrecorded.play host.recording ((i.events s).map .listed)).state.2.filterMap Act.kept?

/-- What is put into the caches in the course of a run. -/
def putsThrough (s : Session) : List Incident → List (Text × Compiled)
  | [] => []
  | i :: is => s.puts i ++ (s.meet i).putsThrough is

/-- Nothing is put into the caches at an incident, and all that they hold they held before. -/
structure Withholds (s : Session) (i : Incident) : Prop where
  none : s.puts i = []
  caches : ∀ P, s.state.CachesHold P → (s.meet i).state.CachesHold P

/-- A template is put into the cache of a service at an incident, which was made of what is stored. All else
that the caches hold they held before. -/
structure Delivers (s : Session) (i : Incident) (p : Pipeline) (k : Nat) (name path : Text) (v : Compiled) :
    Prop where
  known : path ∈ p.pathsOf name
  compiles : (s.state.storage.contents path).bind (p.compiler.compile name) = .ok v
  one : s.puts i = [(name, v)]
  caches : ∀ P, s.state.CachesHold (fun k' n w => (k' = k → n ≠ name) → P k' n w) → P k name v →
    (s.meet i).state.CachesHold P

/-- At an event a job takes its turn, unless nothing is done. -/
private theorem after_puts (heedful : s.Heedful services) {e : Event Deployment Compiled Bytes}
    (befits : s.Befits (InMemory services)
      (fun service w _ => w.Heeds fun p => ∃ k, services[service]? = some (p, k)) e)
    (inside : ∀ f, e ≠ .update f) :
    let x := (s.state, ([] : List (Act Compiled)))
    let y := ((s.after host e).state, s.actsAt host e)
    Sheds x y ∧ (∀ job, s.Plays e job → job.Loads → Spares x y) ∨
      ∃ job p k name path v, s.Plays e job ∧ services[job.service]? = some (p, k) ∧ path ∈ p.pathsOf name ∧
        job.Reads name path ∧ Lands p name path job.service v x y := by
  intro x y
  obtain ⟨nothing, same | ⟨f, is, _⟩⟩ | ⟨job, plays, leaves⟩ := s.actsAt_cases host e
  · have rests : y = x := Prod.ext same nothing
    rw [rests]
    exact .inl ⟨.refl x, fun _ _ _ => .refl x⟩
  · exact absurd is (inside f)
  · obtain ⟨sheds, spares⟩ | ⟨p, name, path, v, ⟨k, served⟩, known, reads, lands⟩ :=
      Job.leaves_of_heeds (heedful.plays befits plays) leaves
    · refine .inl ⟨sheds, fun job' plays' => ?_⟩
      obtain rfl := plays.unique plays'
      exact spares
    · exact .inr ⟨job, p, k, name, path, v, plays, served, known, reads, lands⟩

/-- **What one incident does to the caches**: nothing is put there, or the template of one load. -/
theorem meet_puts (heedful : s.Heedful services) (i : Incident) :
    s.Withholds i ∨ ∃ p k name path v, (p, k) ∈ services ∧ s.Delivers i p k name path v := by
  have updated {f : Deployment → Deployment} (events : i.events s = [.update f])
      (effect : i.Effect s.state (f s.state)) : s.Withholds i := by
    refine ⟨?_, ?_⟩
    · rw [puts, events]
      rfl
    · rw [meet, events]
      exact effect.keeps.2.2
  have turn {e : Event Deployment Compiled Bytes} (events : i.events s = [e])
      (befits : s.Befits (InMemory services)
        (fun service w _ => w.Heeds fun p => ∃ k, services[service]? = some (p, k)) e)
      (inside : ∀ f, e ≠ .update f) :
      s.Withholds i ∨ ∃ p k name path v, (p, k) ∈ services ∧ s.Delivers i p k name path v := by
    have puts_eq : s.puts i = (s.actsAt host e).filterMap Act.kept? := by
      rw [puts, events]
      rfl
    have meet_eq : s.meet i = s.after host e := by
      rw [meet, events]
      rfl
    obtain ⟨sheds, _⟩ | ⟨job, p, k, name, path, v, _, served, known, _, lands⟩ :=
      after_puts heedful befits inside
    · exact .inl ⟨puts_eq.trans sheds.kept, fun P holds => meet_eq ▸ sheds.caches P holds⟩
    · refine .inr ⟨p, k, name, path, v, List.mem_of_getElem? served, known, lands.compiles,
        puts_eq.trans lands.kept, fun P others new => ?_⟩
      rw [meet_eq]
      refine lands.caches P (fun k' c at_k => (others k' c at_k).mono fun n w held other => held fun is => ?_) ?_
      · subst is
        exact other p (heedful.state.roster ▸ served)
      · intro q k' is
        obtain ⟨-, rfl⟩ := Prod.mk.inj (Option.some.inj ((heedful.state.roster ▸ is).symm.trans served))
        exact new
  cases i with
  | failing f => exact .inl (updated rfl (.failing f))
  | operation op =>
    cases op with
    | step => exact turn (e := .step) rfl trivial fun _ is => by cases is
    | submit service r => exact turn (e := .submit service _) rfl (heedful.routine service r) fun _ is => by cases is
    | start service r => exact turn (e := .start service _) rfl (heedful.routine service r) fun _ is => by cases is
    | cancel id =>
      cases at_ : (Incident.operation (.cancel id)).events s with
      | nil =>
        refine .inl ⟨by rw [puts, at_]; rfl, fun P holds => ?_⟩
        rw [meet, at_]
        exact holds
      | cons e es =>
        have events := at_
        rw [Incident.events, Operation.events] at events
        split at events
        · obtain ⟨rfl, rfl⟩ := List.cons.inj events
          exact turn (e := .cancel id) at_ trivial fun _ is => by cases is
        · cases events
    | invalidate service name => exact .inl (updated rfl (.operation (.invalidate service name)))
    | clear service => exact .inl (updated rfl (.operation (.clear service)))
    | add path content => exact .inl (updated rfl (.operation (.add path content)))
    | remove path => exact .inl (updated rfl (.operation (.remove path)))
    | hold => exact .inl (updated rfl (.operation .hold))
    | release =>
      -- the gate opens after the change, and nothing is done by that
      refine .inl ⟨?_, fun P holds => ?_⟩
      · exact congrArg (fun x : Deployment × List (Act Compiled) => x.2.filterMap Act.kept?) (Scheduler.state_openGate _)
      · have opened : (s.meet (.operation .release)).state = { s.state with held := false } :=
          Scheduler.state_openGate _
        rw [opened]
        exact holds

theorem putsThrough_append (s : Session) (is is' : List Incident) :
    s.putsThrough (is ++ is') = s.putsThrough is ++ (s.through is).putsThrough is' := by
  induction is generalizing s with
  | nil => rfl
  | cons i is ih =>
    rw [List.cons_append, putsThrough, putsThrough, ih, List.append_assoc]
    rfl

/-- In the course of a run a load of one service has put a template under a name, and nothing was put there
since. -/
def Kept (p : Pipeline) (k : Nat) (s : Session) (is : List Incident) (name : Text) (v : Compiled) : Prop :=
  ∃ pre i post path, is = pre ++ i :: post ∧ (s.through pre).Delivers i p k name path v ∧
    ∀ w, (name, w) ∉ (s.through (pre ++ [i])).putsThrough post

/-- What was kept is kept after one more incident, if nothing is put under its name. -/
theorem Kept.snoc {p : Pipeline} {k : Nat} {is : List Incident} {name : Text} {v : Compiled}
    (kept : Kept p k s is name v) {i : Incident} (other : ∀ w, (name, w) ∉ (s.through is).puts i) :
    Kept p k s (is ++ [i]) name v := by
  obtain ⟨pre, j, post, path, rfl, delivers, since⟩ := kept
  refine ⟨pre, j, post ++ [i], path, by simp, delivers, fun w mem => ?_⟩
  rw [putsThrough_append, ← through_append, List.append_assoc, List.singleton_append] at mem
  obtain old | new := List.mem_append.mp mem
  · exact since w old
  · exact other w (List.append_nil (Session.puts _ i) ▸ new)

theorem Heedful.through (heedful : s.Heedful services) (is : List Incident) : (s.through is).Heedful services :=
  keeps_through heedful fun _ i _ _ heedful => heedful.meet i

/-- **What the caches hold** after any run was kept in its course. -/
theorem cachesHold_kept {p : Pipeline} {k : Nat} (heedful : s.Heedful [(p, k)])
    (begun : ∀ P, s.state.CachesHold P) (is : List Incident) :
    (s.through is).state.CachesHold fun k' name v => k' = k → Kept p k s is name v := by
  induction is using List.reverseRecOn with
  | nil => exact begun _
  | append_singleton is i holds =>
    rw [through_append]
    obtain withholds | ⟨q, k', name, path, v, mem, delivers⟩ := meet_puts (heedful.through is) i
    · refine withholds.caches _ fun k' c at_k => (holds k' c at_k).mono fun name v kept own => ?_
      exact (kept own).snoc (by simp [withholds.none])
    · obtain ⟨rfl, rfl⟩ := Prod.mk.inj (List.mem_singleton.mp mem)
      refine delivers.caches _ (fun k'' c at_k => ?_) fun _ => ⟨is, i, [], path, rfl, delivers, nofun⟩
      refine (holds k'' c at_k).mono fun n w kept other own => (kept own).snoc fun w mem => ?_
      rw [delivers.one] at mem
      exact other own (Prod.mk.inj (List.mem_singleton.mp mem)).1

/-- What a job does in the course of a load leaves the cache as it is, unless the load succeeds. -/
theorem step_of_loads {p : Pipeline} {k : Nat} (heedful : s.Heedful [(p, k)]) {id : Nat} {rest : List Handle}
    {job : Job Compiled Bytes} (front : s.queue = .turn id :: rest) (at_ : s.job? id = some job)
    (loads : job.Loads) :
    s.puts (.operation .step) = [] ∧
        (∀ service, ((s.meet (.operation .step)).state.cacheOf service).entries = (s.state.cacheOf service).entries) ∨
      ∃ name path v, path ∈ p.pathsOf name ∧ job.Reads name path ∧
        (s.state.storage.contents path).bind (p.compiler.compile name) = .ok v ∧
        s.puts (.operation .step) = [(name, v)] := by
  have plays : s.Plays .step job := .step front at_
  obtain ⟨sheds, spares⟩ | ⟨job', q, k', name, path, v, plays', served, known, reads, lands⟩ :=
    after_puts heedful (e := .step) trivial nofun
  · exact .inl ⟨sheds.kept, (spares job plays loads).entries⟩
  · obtain rfl := plays.unique plays'
    obtain ⟨rfl, rfl⟩ := Prod.mk.inj (List.mem_singleton.mp (List.mem_of_getElem? served))
    exact .inr ⟨name, path, v, known, reads, lands.compiles, lands.kept⟩

/-- A load that begins in the course of a request leaves the cache as it is. -/
theorem entries_advance_load {β : Type} (p : Pipeline) (name path : Text)
    (k : Except Failure Compiled → Pipeline.Request β) (service : Nat)
    (landed : Text → Option (Except Failure Compiled)) (d : Deployment) :
    let (halt, d') := host.advance service landed ((p.load name path).onEnd k) d
    halt.OfLoad p name path k ∧ ∀ service', (d'.cacheOf service').entries = (d.cacheOf service').entries := by
  have listed := Host.advance_recording (h := host) service landed ((p.load name path).onEnd k) (d, [])
  cases runs : host.recording.advance service landed ((p.load name path).onEnd k) (d, []) with
  | mk halt y =>
    rw [runs] at listed
    obtain ⟨stops, spares⟩ := advance_load runs
    rw [← listed]
    exact ⟨stops, spares.entries⟩

/-- **The cache only holds genuine templates, and a load that does not succeed leaves it as it is.** Let a
service have a cache of its own, and read from a storage in memory a directory in which nothing is escaped. It
may be asked for anything, its jobs may take their turns in between, and requests may be cancelled, templates
dropped, replaced, removed, and reads held or made to fail. Then each entry was put into the cache at one
incident, and nothing was put under its key since: a template of that name, in the mode of the service, whose
source is what the bytes that were stored then stand for. A job that takes its turn in the course of a load
puts nothing into the cache and leaves the entries as they are, unless it reads what a template can be made of
and puts this there. Neither does a load that begins change the entries, nor a cancellation. -/
theorem cached_genuine (p : Pipeline) (size : Nat) (m : MemoryStorage) (plain : Markup.Plain p.templateDir)
    (is : List Incident) :
    let s : Session := start (.create [(p, size)] none (.memory m))
    let t : Session := s.through is
    (∀ e ∈ (t.state.cacheOf 0).entries, ∃ pre i post b, is = pre ++ i :: post ∧
      (s.through pre).puts i = [(e.key, e.value)] ∧
      (∀ v, (e.key, v) ∉ (s.through (pre ++ [i])).putsThrough post) ∧
      (s.through pre).stored? (p.templatePath e.key) = some b ∧
      Encoding.decode p.compiler.encoding .refuse b = .ok (.ok e.value.source) ∧
      e.value.name = e.key ∧ e.value.static = p.compiler.static ∧
      e.value.isExecutable = p.compiler.static) ∧
    (∀ id rest job, t.queue = .turn id :: rest → t.job? id = some job → job.Loads →
      t.puts (.operation .step) = [] ∧
          ((t.meet (.operation .step)).state.cacheOf 0).entries = (t.state.cacheOf 0).entries ∨
        ∃ name v, job.Reads name (p.templatePath name) ∧
          (t.state.storage.contents (p.templatePath name)).bind (p.compiler.compile name) = .ok v ∧
          t.puts (.operation .step) = [(name, v)]) ∧
    (∀ id, (t.meet (.operation (.cancel id))).state = t.state) ∧
    ∀ (name : Text) (k : Except Failure Compiled → Pipeline.Request Bytes)
      (landed : Text → Option (Except Failure Compiled)),
      let (halt, d) := host.advance 0 landed ((p.load name (p.templatePath name)).onEnd k) t.state
      halt.OfLoad p name (p.templatePath name) k ∧ (d.cacheOf 0).entries = (t.state.cacheOf 0).entries := by
  intro s t
  have heedful : s.Heedful [(p, 0)] := heedful_start ⟨rfl, rfl⟩
  have now : t.Heedful [(p, 0)] := heedful.through is
  have holds := cachesHold_kept heedful (fun P => cachesHold_create P _ _ _) is
  refine ⟨fun e mem => ?_, fun id rest job front at_ loads => ?_, fun id => ?_, fun name k landed => ?_⟩
  · have served : t.state.roster[0]? = some (p, 0) := by
      rw [now.state.roster]
      rfl
    obtain ⟨pre, i, post, path, split, delivers, since⟩ := holds.cacheOf served e mem rfl
    obtain rfl := Pipeline.templatePath_of_known plain delivers.known
    cases read : (s.through pre).state.storage.contents (p.templatePath e.key) with
    | error f =>
      have compiles := delivers.compiles
      rw [read] at compiles
      cases compiles
    | ok b =>
      have compiles := delivers.compiles
      rw [read] at compiles
      have compiles : p.compiler.compile e.key b = .ok e.value := compiles
      obtain ⟨source, decodes, makes⟩ := Compiler.exists_of_compile compiles
      obtain ⟨static, executable⟩ := Compiler.mode_of_compile compiles
      exact ⟨pre, i, post, b, split, delivers.one, since,
        stored?_of_contents (heedful.through pre).state.memory read,
        makes.sourced ▸ decodes, makes.named, static, executable⟩
  · obtain ⟨none, same⟩ | ⟨name, path, v, known, reads, compiles, one⟩ := step_of_loads now front at_ loads
    · exact .inl ⟨none, same 0⟩
    · obtain rfl := Pipeline.templatePath_of_known plain known
      exact .inr ⟨name, v, reads, compiles, one⟩
  · rw [meet, Incident.events, Operation.events]
    split
    · exact Scheduler.state_cancel t id
    · rfl
  · obtain ⟨stops, same⟩ := entries_advance_load p name (p.templatePath name) k 0 landed t.state
    exact ⟨stops, same 0⟩

/-- A template is replaced while it is read, and the load of another one fails after that. -/
theorem cached_genuine_replaced :
    let p : Pipeline := { templateDir := "t", compiler := { static := true }, singleFlight := true }
    let m : MemoryStorage := { files := [
      ("t/x", ("old" : Text).map UInt8.ofNat), ("t/y", ("\x7b\x7b" : Text).map UInt8.ofNat)] }
    let s : Session := start (.create [(p, 10)] none (.memory m))
    let is : List Incident := [.operation (.submit 0 (.file "x" none)), .operation .step, .operation .step,
      .operation (.add "t/x" (("new" : Text).map UInt8.ofNat)), .operation .step,
      .operation (.submit 0 (.file "y" none))] ++ List.replicate 6 (.operation .step)
    let t : Session := s.through is
    let u : Session := t.meet (.operation .step)
    Markup.Plain p.templateDir ∧
      (t.state.cacheOf 0).entries.map (fun e => (e.key, e.value.source)) = [(("x" : Text), ("new" : Text))] ∧
      (∀ e ∈ (t.state.cacheOf 0).entries, ∃ pre b, (s.through pre).stored? (p.templatePath e.key) = some b ∧
        Encoding.decode p.compiler.encoding .refuse b = .ok (.ok e.value.source)) ∧
      t.queue = [.turn 3] ∧ (∃ job, t.job? 3 = some job ∧ job.Loads) ∧
      (u.state.cacheOf 0).entries = (t.state.cacheOf 0).entries := by
  intro p m s is t u
  have plain : Markup.Plain p.templateDir := by unfold Markup.Plain; decide
  obtain ⟨genuine, spares, _⟩ := cached_genuine p 10 m plain is
  have front : t.queue = [.turn 3] := by decide +kernel
  have nothing : (t.puts (.operation .step)).isEmpty = true := by decide +kernel
  have flies : (t.job? 3).map (fun job => job.work.name?) = some (some ("y" : Text)) := by decide +kernel
  obtain ⟨job, at_, named⟩ := Option.map_eq_some_iff.mp flies
  have loads : job.Loads := by
    obtain ⟨service, work, c⟩ := job
    cases work with
    | load name st waiters => exact .load service name st waiters c
    | request st => cases named
  refine ⟨plain, by decide +kernel, fun e mem => ?_, front, ⟨job, at_, loads⟩, ?_⟩
  · obtain ⟨pre, _, _, b, _, _, _, stored, decodes, _⟩ := genuine e mem
    exact ⟨pre, b, stored, decodes⟩
  · obtain ⟨_, same⟩ | ⟨_, _, _, _, one⟩ := spares 3 [] job front at_ loads
    · exact same
    · rw [one] at nothing
      cases nothing

end Session

end Stencil
