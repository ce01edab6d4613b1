import Stencil.Proofs.Session.Genuine
import Stencil.Proofs.Session.Once

/-!
# Served content never goes back in time

What a request runs was put into the cache at some moment, and was made of what was stored then. This moment is not
before the last one at which anything was put under that name when the request was asked for. What carries this are
two facts. A load that has ended and is still in flight has made what was put last under its name, because there is
no other load of that name. And a request runs only what it finds in the cache, what it loads itself, or what a load
tells that had not ended when the request came to wait for it.

## Main definitions

- `Session.PutAt`, `Session.RunsAt`, `Session.AskedAt` — what happens at an incident of a run
- `Session.Recent` — a template was the last one under its name at some moment, or was put there since
- `Session.Abreast` — where a request stands that only knows what is recent

## Main results

- `Session.landed_kept` — what a load in flight tells was put last under its name
- `Session.abreast_through` — a request only knows what is recent
- `Session.served_forward` — later requests run later sources
-/

namespace Stencil

open Deployment

/-- What a deed puts into the cache. -/
def Deed.kept? {V : Type} : Deed V → Option (Text × V)
  | act a => a.kept?
  | lookup .. | join _ | begin _ | serve .. => none

theorem Deed.kept?_act? {V : Type} (d : Deed V) : d.act?.bind Act.kept? = d.kept? := by
  cases d <;> rfl

theorem Deed.kept?_eq_some {V : Type} {d : Deed V} {name : Text} {v : V} :
    d.kept? = some (name, v) ↔ d = .act (.keep name v) := by
  constructor
  · intro is
    cases d with
    | act a =>
      cases a with
      | keep =>
        obtain ⟨rfl, rfl⟩ := Prod.mk.inj (Option.some.inj is)
        rfl
      | note | count | miss | run => cases is
    | lookup | join | begin | serve => cases is
  · rintro rfl
    rfl

/-! ### What may be run at a turn -/

/-- A request that has come to its end runs nothing more. -/
theorem Request.run_not_mem_closing (r : Request) (o : Except Failure Bytes) (v : Compiled) :
    .run v ∉ r.closing o := by
  cases o with
  | ok b => exact List.not_mem_nil
  | error f =>
    rw [closing]
    split <;> simp

section

variable {β : Type} {p : Pipeline} {ends : List (Act Compiled) → Except Failure β → Prop}
  {known more : Compiled → Prop} {missing : Text → Prop} {st : Standing Compiled β} {c : Bool}
  {ds : List (Deed Compiled)} {halt : Halt Compiled β} {v : Compiled}

theorem Pipeline.Walks.known_of_run (walks : p.Walks known missing ds) (runs : .act (.run v) ∈ ds) : known v := by
  induction walks with
  | nil => cases runs
  | act plain _ ih =>
    obtain is | runs := List.mem_cons.mp runs
    · obtain rfl := Deed.act.inj is
      exact plain.elim
    · exact ih runs
  | run is _ ih =>
    obtain same | runs := List.mem_cons.mp runs
    · obtain rfl := Act.run.inj (Deed.act.inj same)
      exact is
    · exact ih runs
  | miss _ _ ih | hit _ _ _ ih | join _ _ _ ih =>
    simp only [List.mem_cons, reduceCtorEq, false_or, Deed.act.injEq] at runs
    exact ih runs

/-- What a request takes up at its turn was known to it, or it has put it into the cache. -/
theorem Standing.Leads.le (leads : st.Leads p known c ds more)
    (kept : ∀ name v, .act (.keep name v) ∈ ds → known v) : more ≤ known := by
  cases leads with
  | @lands path next name b v alone compiles =>
    rintro w (rfl | is)
    · exact kept name w (by simp)
    · exact is
  | fresh | passed | interrupted | fails | landed | resumed => exact le_rfl

/-- Where a request stops it knows no more than before and what it has put into the cache. -/
theorem Standing.Turns.proceeds (turns : st.Turns p ends known missing c ds halt)
    (kept : ∀ name v, .act (.keep name v) ∈ ds → known v) (l : Nat) : (halt.standing l).Proceeds p ends known := by
  cases turns with
  | dropped r => exact .ended _
  | begins alone from_ awaits => exact .paused alone from_ awaits
  | strides leads strides =>
    obtain ⟨_, _, _, _, stops⟩ := strides
    exact (proceeds_of_stops stops l).mono (leads.le fun name v mem => kept name v (List.mem_append_left _ mem))

/-- What a request runs is known to it. -/
theorem Standing.Turns.known_of_run {r : Request} {st : Standing Compiled Bytes} {halt : Halt Compiled Bytes}
    (turns : st.Turns p r.Ends known missing c ds halt) (kept : ∀ name v, .act (.keep name v) ∈ ds → known v)
    (runs : .act (.run v) ∈ ds) : known v := by
  cases turns with
  | dropped r => cases runs
  | begins => simp at runs
  | @strides _ _ lead _ _ _ leads strides =>
    obtain ⟨walk, stop, rfl, walks, stops⟩ := strides
    have le := leads.le fun name v mem => kept name v (List.mem_append_left _ mem)
    obtain runs | runs := List.mem_append.mp runs
    · cases leads <;> simp at runs
    · obtain runs | runs := List.mem_append.mp runs
      · exact le v (walks.known_of_run runs)
      · cases stops with
        | @ended acts o is =>
          obtain ⟨a, mem, same⟩ := List.mem_map.mp runs
          obtain rfl := Deed.act.inj same
          rw [show acts = r.closing o from is] at mem
          exact absurd mem (r.run_not_mem_closing o v)
        | shares | held | paused => simp at runs

end

/-- What the cache of a service holds gets known as it is found there. -/
theorem Deployment.supplies_cached (p : Pipeline) (k : Nat) :
    Supplies p 0 anyone fun known d => d.roster = [(p, k)] ∧ d.CachesHold fun k' _ v => k' = k → known v where
  offers known := {
    lookup := fun d name ok => ⟨(d.frame_lookup 0 name).roster.trans ok.1, ok.2.lookup 0 name⟩
    act := fun d a other ok =>
      ⟨(d.frame_act 0 a).roster.trans ok.1, ok.2.act fun name v _ _ is _ => absurd is (other name v)⟩
    found := fun d name v ok is => by
      obtain ⟨q, k', served, held⟩ := ok.2.found is
      rw [ok.1] at served
      obtain ⟨-, rfl⟩ := Prod.mk.inj (Option.some.inj served)
      exact held rfl
    absent := fun _ _ _ _ => trivial }
  serves _ d path ok := ⟨(d.frame_serve path).roster.trans ok.1, ok.2.serve path⟩
  keeps _ known d name v ok := by
    refine ⟨(d.frame_act 0 _).roster.trans ok.1, ?_⟩
    refine CachesHold.act (fun k' c at_k => (ok.2 k' c at_k).mono fun _ _ held own => .inr (held own)) ?_
    rintro _ w _ _ is _ _
    obtain ⟨-, rfl⟩ := Act.keep.inj is
    exact .inl rfl

namespace Session

variable {p : Pipeline} {s t : Session} {is : List Incident} {i : Incident} {e : Event Deployment Compiled Bytes}
  {asked : Nat → Request → Prop} {name : Text} {v : Compiled} {a n id : Nat} {r : Request}

/-! ### Moments of a run -/

/-- A template is put into the cache under a name at an incident of a run. -/
def PutAt (s : Session) (is : List Incident) (a : Nat) (name : Text) (v : Compiled) : Prop :=
  ∃ i, is[a]? = some i ∧ (name, v) ∈ (s.through (is.take a)).puts i

/-- The job of a number runs a template at an incident of a run. -/
def RunsAt (s : Session) (is : List Incident) (a id : Nat) (v : Compiled) : Prop :=
  let t : Session := s.through (is.take a)
  ∃ i service, is[a]? = some i ∧ ⟨id, service, .act (.run v)⟩ ∈ t.record host (i.events t)

/-- A request is asked for at an incident of a run, as the job of a number. -/
def AskedAt (s : Session) (is : List Incident) (a id : Nat) (r : Request) : Prop :=
  ∃ op, is[a]? = some (.operation op) ∧ op.Asks 0 r ∧ id = (s.through (is.take a)).jobs.length

theorem take_succ (at_ : is[a]? = some i) : is.take (a + 1) = is.take a ++ [i] := by
  rw [List.take_add_one, at_, Option.toList_some]

theorem through_take_succ (at_ : is[a]? = some i) : s.through (is.take (a + 1)) = (s.through (is.take a)).meet i := by
  rw [take_succ at_, through_append]
  rfl

/-- What comes later in a run comes from what was there. -/
theorem through_take (s : Session) (is : List Incident) {a b : Nat} (le : a ≤ b) :
    ∃ js, s.through (is.take b) = (s.through (is.take a)).through js := by
  refine ⟨(is.take b).drop a, ?_⟩
  rw [← through_append]
  conv_lhs => rw [← List.take_append_drop a (is.take b), List.take_take, Nat.min_eq_left le]

theorem length_take_le (s : Session) (is : List Incident) {a b : Nat} (le : a ≤ b) :
    (s.through (is.take a)).jobs.length ≤ (s.through (is.take b)).jobs.length := by
  obtain ⟨js, same⟩ := through_take s is le
  rw [same]
  exact length_le_through _ js

theorem putAt_take : PutAt s (is.take n) a name v ↔ a < n ∧ PutAt s is a name v := by
  by_cases lt : a < n
  · have le : min a n = a := Nat.min_eq_left lt.le
    simp only [PutAt, List.getElem?_take, lt, if_true, List.take_take, le, true_and]
  · simp [PutAt, lt]

theorem putAt_append_iff : PutAt s is a name v ↔ a < is.length ∧ PutAt s (is ++ [i]) a name v := by
  rw [← putAt_take, List.take_left]

theorem putAt_last : PutAt s (is ++ [i]) is.length name v ↔ (name, v) ∈ (s.through is).puts i := by
  simp [PutAt]

theorem mem_putsThrough (put : PutAt s is a name v) : (name, v) ∈ s.putsThrough is := by
  obtain ⟨i, at_, put⟩ := put
  obtain ⟨lt, rfl⟩ := List.getElem?_eq_some_iff.mp at_
  rw [← List.take_append_drop a is, List.drop_eq_getElem_cons lt, putsThrough_append, putsThrough]
  exact List.mem_append_right _ (List.mem_append_left _ put)

/-- Of all that was put under its name before a moment a template was put there last, or it was put there later. -/
def Recent (s : Session) (is : List Incident) (n : Nat) (v : Compiled) : Prop :=
  ∃ a, PutAt s is a v.name v ∧ ∀ b w, b < n → PutAt s is b v.name w → b ≤ a

theorem Recent.snoc (recent : Recent s is n v) (le : n ≤ is.length) (i : Incident) : Recent s (is ++ [i]) n v := by
  obtain ⟨a, put, last⟩ := recent
  refine ⟨a, (putAt_append_iff.mp put).2, fun b w lt put' => last b w lt ?_⟩
  exact putAt_append_iff.mpr ⟨lt.trans_le le, put'⟩

theorem recent_of_puts (put : (v.name, v) ∈ (s.through is).puts i) (le : n ≤ is.length) :
    Recent s (is ++ [i]) n v :=
  ⟨is.length, putAt_last.mpr put, fun _ _ lt _ => (lt.trans_le le).le⟩

theorem Delivers.named {k : Nat} {path : Text} (delivers : t.Delivers i p k name path v) : v.name = name := by
  obtain ⟨b, _, compiles⟩ := ok_of_bind delivers.compiles
  exact Compiler.compile_name compiles

/-- What was kept is recent. -/
theorem Kept.recent {k : Nat} (kept : Kept p k s is name v) (n : Nat) : Recent s is n v := by
  obtain ⟨pre, i, post, path, rfl, delivers, since⟩ := kept
  obtain rfl := delivers.named
  refine ⟨pre.length, ⟨i, by simp, by simp [delivers.one]⟩, fun b w _ put => ?_⟩
  by_contra later
  obtain ⟨c, rfl⟩ := Nat.exists_eq_add_of_lt (Nat.lt_of_not_le later)
  obtain ⟨j, at_, put⟩ := put
  rw [show pre ++ i :: post = (pre ++ [i]) ++ post by simp,
    show pre.length + c + 1 = (pre ++ [i]).length + c by simp; omega] at at_ put
  rw [List.getElem?_append_right (Nat.le_add_right _ _), Nat.add_sub_cancel_left] at at_
  rw [List.take_length_add_append, through_append] at put
  exact since w (mem_putsThrough ⟨j, at_, put⟩)

/-! ### What is put into the cache at an incident -/

/-- What is put into the caches at an incident is on record. -/
theorem puts_eq (s : Session) (i : Incident) :
    s.puts i = (s.record host (i.events s)).filterMap fun x => x.deed.kept? := by
  have comes := i.comes s
  rw [puts]
  generalize i.events s = es at comes
  cases comes with
  | nothing | change => rfl
  | release => exact congrArg (fun x : Deployment × List (Act Compiled) => x.2.filterMap Act.kept?) (Scheduler.state_openGate _)
  | @event e admits asks =>
    change (s.actsAt host e).filterMap Act.kept? = _
    rw [s.actsAt_eq e admits.inside, List.filterMap_filterMap, Scheduler.record, Scheduler.record, List.append_nil]
    simp only [Deed.kept?_act?]

theorem mem_puts : (name, v) ∈ s.puts i ↔ ∃ x ∈ s.record host (i.events s), x.deed = .act (.keep name v) := by
  simp only [puts_eq, List.mem_filterMap, Deed.kept?_eq_some]

theorem Admits.brings (admits : t.Admits e) : t.Brings (fun _ _ => True) e := by
  rintro service routine (rfl | rfl)
  · cases admits with
    | submit service r => exact ⟨r, rfl, trivial⟩
  · cases admits with
    | start service r => exact ⟨r, rfl, trivial⟩

/-- **All jobs are in the service of requests** after all incidents. -/
theorem InService.through {services : List (Pipeline × Nat)} (inService : s.InService services fun _ _ => True)
    (is : List Incident) : (s.through is).InService services fun _ _ => True := by
  have lasts := inService.lasts (is.map .incident)
  rwa [show s.undergo (is.map .incident) = s.through is from List.foldl_map] at lasts

/-! ### Loads that tell what they have made -/

/-- A load that comes to a template has just put it into the cache. -/
theorem kept_of_told (inService : t.InService [(p, 0)] fun _ _ => True) (admits : t.Admits e) {l : Nat}
    (told : (t.after host e).told? l = some (.ok v)) :
    t.told? l = some (.ok v) ∨ ∃ x ∈ t.entries host e, x.job = l ∧ ∃ name, x.deed = .act (.keep name v) := by
  by_cases moves : ∃ (u : Session) (service : Nat) (β : Type) (wrap : Standing Compiled β → Work Compiled Bytes)
    (st : Standing Compiled β) (c : Bool) (halt : Halt Compiled β) (d : Deployment),
    t.Move host e u l service wrap st c halt d
  · obtain ⟨u, service, β, wrap, st, c, halt, d, move⟩ := moves
    have stirs := inService.stirs admits admits.brings (fun p _ _ => lacks_anyone p _) trivial move
    obtain ⟨l', now⟩ := move.job?
    rw [Scheduler.told?, now] at told
    rw [move.entries]
    generalize host.turnDeeds service _ c st _ = ds at stirs
    cases stirs with
    | request | lost => cases told
    | @load _ _ name _ _ _ _ _ _ _ _ loading =>
      cases loading with
      | holds | pauses | begins | fails => cases told
      | lands =>
        obtain rfl := Except.ok.inj (Option.some.inj told)
        exact .inr ⟨_, List.mem_map_of_mem (List.mem_append_left _ (by simp)), rfl, name, rfl⟩
  · have same : (t.after host e).told? l = t.told? l :=
      Scheduler.told?_of_still fun move => moves ⟨_, _, _, _, _, _, _, _, move⟩
    exact .inl (same.symm.trans told)

/-- Only a service that shares its loads has loads that tell something. -/
theorem shared_of_told (inService : t.InService [(p, 0)] asked) {l : Nat} {o : Except Failure Compiled}
    (told : t.told? l = some o) : p.singleFlight = true := by
  obtain ⟨job, at_, landed⟩ := Option.bind_eq_some_iff.mp told
  have holds := inService.jobs l job at_
  obtain ⟨service, work, c⟩ := job
  cases holds with
  | load served shared =>
    obtain ⟨rfl, -⟩ := Prod.mk.inj (List.mem_singleton.mp (List.mem_of_getElem? served))
    exact shared
  | request | lost | refused => cases landed

/-- What is put into the cache where loads are shared is put there by the load in flight, which has told nothing. -/
theorem flying_of_kept (linked : t.Linked t.queue) (inService : t.InService [(p, 0)] fun _ _ => True)
    (admits : t.Admits e) (shared : p.singleFlight = true) {x : Entry Compiled} (mem : x ∈ t.entries host e)
    (kept : x.deed = .act (.keep name v)) :
    t.flights.lookup (0, name) = some x.job ∧ t.told? x.job = none := by
  obtain rests | @⟨_, l, service, β, wrap, st, c, halt, d, move⟩ := t.after_passing host e
  · rw [rests.entries] at mem
    cases mem
  · have stirs := inService.stirs admits admits.brings (fun p _ _ => lacks_anyone p _) trivial move
    rw [move.entries] at mem
    obtain ⟨deed, done, rfl⟩ := List.mem_map.mp mem
    obtain rfl : deed = _ := kept
    have loud : (Deed.act (.keep name v)).kept ≠ false := Bool.noConfusion
    obtain acts | joins := List.mem_append.mp done
    · generalize host.turnDeeds service _ c st _ = ds at stirs acts
      have only {q : Pipeline} {k : Nat} (served : [(p, 0)][service]? = some (q, k)) : service = 0 ∧ q = p := by
        cases service with
        | zero => exact ⟨rfl, (Prod.mk.inj (Option.some.inj served)).1.symm⟩
        | succ => cases served
      cases stirs with
      | request served _ turns =>
        obtain ⟨-, rfl⟩ := only served
        exact absurd ((turns.shared shared).1 _ acts).1 loud
      | lost => cases acts
      | load served _ _ loading =>
        obtain ⟨rfl, rfl⟩ := only served
        cases loading with
        | holds | pauses | begins | fails => simp at acts
        | lands =>
          simp only [List.mem_cons, List.not_mem_nil, or_false, reduceCtorEq, Deed.act.injEq, Act.keep.injEq,
            false_or] at acts
          obtain ⟨rfl, rfl⟩ := acts
          have at_ := move.load_at rfl
          refine ⟨linked.lookup_of_unfinished ⟨_, at_, Job.key?_eq_some.mpr ⟨rfl, rfl⟩, nofun⟩, ?_⟩
          rw [Scheduler.told?, at_]
          rfl
    · exact absurd (joining_spares t service halt _ joins).1 loud

/-- Where a session begins that has one service with a cache of its own, over a storage in memory. -/
structure Begun (p : Pipeline) (s : Session) : Prop where
  heedful : s.Heedful [(p, 0)]
  inService : s.InService [(p, 0)] fun _ _ => True
  linked : s.Linked s.queue
  caches : ∀ P, s.state.CachesHold P
  jobs : s.jobs = []

theorem begun_start (p : Pipeline) (size : Nat) (m : MemoryStorage) :
    Begun p (start (.create [(p, size)] none (.memory m))) where
  heedful := heedful_start ⟨rfl, rfl⟩
  inService := inService_start (.create [(p, size)] none (.memory m))
  linked := Scheduler.linked_empty _
  caches P := cachesHold_create P _ _ _
  jobs := rfl

/-- A load that was there before and is in flight after an event was in flight before. -/
theorem flying_of_after (linked : t.Linked t.queue) {key : Nat × Text} {l : Nat} {o : Except Failure Compiled}
    (flying : (t.after host e).flights.lookup key = some l) (told : t.told? l = some o) :
    t.flights.lookup key = some l := by
  obtain ⟨job, at_, _⟩ := Option.bind_eq_some_iff.mp told
  have old := Scheduler.after_flights (Scheduler.mem_of_lookup flying)
  exact Scheduler.lookup_of_mem linked.keys (old.resolve_right (Nat.not_le_of_lt (Scheduler.lt_of_job? at_)))

/-- **What a load in flight tells was put last under its name**: nobody else has put anything there since. -/
theorem landed_kept (begun : Begun p s) (is : List Incident) {l : Nat}
    (flying : (s.through is).flights.lookup (0, name) = some l) (told : (s.through is).told? l = some (.ok v)) :
    Kept p 0 s is name v := by
  induction is using List.reverseRecOn generalizing name v l with
  | nil =>
    have none : s.told? l = none := by
      rw [Scheduler.told?, Scheduler.job?, begun.jobs]
      rfl
    cases none.symm.trans told
  | append_singleton is i ih =>
    let t : Session := s.through is
    have linked : t.Linked t.queue := linked_through begun.linked is
    have inService : t.InService [(p, 0)] fun _ _ => True := begun.inService.through is
    have stays (kept : Kept p 0 s is name v)
        (others : ∀ x ∈ t.record host (i.events t), ∀ w, x.deed ≠ .act (.keep name w)) :
        Kept p 0 s (is ++ [i]) name v := by
      refine kept.snoc fun w put => ?_
      obtain ⟨x, mem, keeps⟩ := mem_puts.mp put
      exact others x mem w keeps
    have brought (put : ∃ x ∈ t.record host (i.events t), x.deed = .act (.keep name v)) :
        Kept p 0 s (is ++ [i]) name v := by
      have put := mem_puts.mpr put
      obtain withholds | ⟨q, k, name', path, w, mem, delivers⟩ := meet_puts (begun.heedful.through is) i
      · rw [withholds.none] at put
        cases put
      · obtain ⟨rfl, rfl⟩ := Prod.mk.inj (List.mem_singleton.mp mem)
        rw [delivers.one] at put
        obtain ⟨rfl, rfl⟩ := Prod.mk.inj (List.mem_singleton.mp put)
        exact ⟨is, i, [], path, rfl, delivers, fun _ mem => absurd mem List.not_mem_nil⟩
    have comes := i.comes t
    rw [through_append] at flying told
    change (t.play host (i.events t)).flights.lookup _ = _ at flying
    change (t.play host (i.events t)).told? l = _ at told
    generalize i.events t = es at comes stays brought flying told
    cases comes with
    | nothing => exact stays (ih flying told) fun _ mem => absurd mem List.not_mem_nil
    | change f => exact stays (ih flying told) fun _ mem => absurd mem List.not_mem_nil
    | release f =>
      let u : Session := t.after host (.update f)
      have same : (u.after host .openGate).told? l = u.told? l :=
        Scheduler.told?_of_still fun move => by cases move.summons
      have told : u.told? l = some (.ok v) := same.symm.trans told
      have flying : (u.after host .openGate).flights.lookup (0, name) = some l := flying
      exact stays (ih (flying_of_after (linked.after _) flying told) told) fun _ mem => absurd mem List.not_mem_nil
    | @event e admits =>
      rw [Scheduler.record, Scheduler.record, List.append_nil] at stays brought
      obtain told | ⟨x, mem, rfl, name', keeps⟩ := kept_of_told inService admits told
      · have flying := flying_of_after linked flying told
        refine stays (ih flying told) fun x mem w keeps => ?_
        obtain ⟨flying', silent⟩ := flying_of_kept linked inService admits (shared_of_told inService told) mem keeps
        obtain rfl := Option.some.inj (flying.symm.trans flying')
        cases silent.symm.trans told
      · have after : Scheduler.Linked _ (t.after host e) := linked.after e
        have shared := shared_of_told (inService.after admits admits.brings) told
        obtain ⟨flying', _⟩ := flying_of_kept linked inService admits shared mem keeps
        -- both names are that of the load
        obtain ⟨job, at_, keyed⟩ := linked.flight _ _ (Scheduler.mem_of_lookup flying')
        obtain ⟨job', now, keyed'⟩ := after.flight _ _ (Scheduler.mem_of_lookup flying)
        obtain ⟨job'', now', _, same⟩ := Scheduler.play_kind (h := host) at_ [e]
        obtain rfl := Option.some.inj (now.symm.trans now')
        rw [Job.key?_eq_some] at keyed keyed'
        obtain rfl := Option.some.inj (keyed.2.symm.trans (same.symm.trans keyed'.2))
        exact brought ⟨x, mem, keeps⟩

/-! ### Requests that are abreast of what is stored -/

/-- Where a request stands that knows nothing else, and that is not told anything else by the load that it waits for. -/
def Abreast (p : Pipeline) (r : Request) (id : Nat) (known : Compiled → Prop)
    (told : Nat → Option (Except Failure Compiled)) (id' service : Nat) (w : Work Compiled Bytes) (_ : Bool) : Prop :=
  id' = id → ∀ st, w = .request st → service = 0 ∧ st.Proceeds p r.Ends known ∧
    ∀ l next, st = .waiting l next → ∀ v, told l = some (.ok v) → known v

/-- All that a request may come across at an event is known. -/
structure Backs (p : Pipeline) (known : Compiled → Prop) (t : Session) (e : Event Deployment Compiled Bytes) : Prop where
  roster : t.state.roster = [(p, 0)]
  cached : t.state.CachesHold fun k _ v => k = 0 → known v
  informed : ∀ name v, t.landed? 0 name = some (.ok v) → known v
  kept : ∀ x ∈ t.entries host e, ∀ name v, x.deed = .act (.keep name v) → known v

section

variable {known : Compiled → Prop}

/-- **The turn of a request** that is abreast. -/
theorem Backs.turns (backs : Backs p known t e) {u : Session} {service : Nat} {st : Standing Compiled Bytes} {c : Bool}
    {halt : Halt Compiled Bytes} {d : Deployment} (move : t.Move host e u id service .request st c halt d)
    (abreast : Abreast p r id known t.told? id service (.request st) c) :
    service = 0 ∧ ∃ ds, ds = host.turnDeeds service (t.landed? service) c st t.state ∧
      st.Turns p r.Ends known anyone c ds halt ∧ ∀ name v, .act (.keep name v) ∈ ds → known v := by
  obtain ⟨rfl, proceeds, _⟩ := abreast rfl st rfl
  have turns := proceeds.turn (supplies_cached p 0) backs.informed ⟨backs.roster, backs.cached⟩ move.goes
  refine ⟨rfl, _, rfl, turns, fun name v mem => backs.kept ⟨id, 0, _⟩ ?_ name v rfl⟩
  rw [move.entries]
  exact List.mem_map_of_mem (List.mem_append_left _ mem)

/-- An event keeps a request abreast. -/
theorem Backs.carries (backs : Backs p known t e) (linked : t.Linked t.queue)
    (inService : t.InService [(p, 0)] fun _ _ => True) (admits : t.Admits e) (own : r.own p ≤ known)
    (brings : ∀ service routine, e = .submit service routine ∨ e = .start service routine → t.jobs.length = id →
      service = 0 ∧ routine = r.routine p) :
    t.Carries host e (Abreast p r id known t.told?) (Abreast p r id known (t.after host e).told?) := by
  have tells {l : Nat} {v : Compiled} (waits : ∀ v, t.told? l = some (.ok v) → known v)
      (told : (t.after host e).told? l = some (.ok v)) : known v := by
    obtain told | ⟨x, mem, _, name, keeps⟩ := kept_of_told inService admits told
    · exact waits v told
    · exact backs.kept x mem name v keeps
  exact {
    rests := fun same abreast is st work => by
      subst work
      have same := Work.bare_eq_request.mp same.symm
      obtain ⟨served, proceeds, waits⟩ := abreast is st same
      exact ⟨served, proceeds, fun l next is v => tells (waits l next is)⟩
    acts := by
      intro u id' service β wrap st c halt d l move abreast now is st' work
      subst is
      have seat := move.seat
      cases seat with
      | load => cases work
      | request =>
        obtain rfl := (Work.request.inj work).symm
        obtain ⟨served, ds, _, turns, kept⟩ := backs.turns move abreast
        refine ⟨served, turns.proceeds kept l, fun l' next waits v told => ?_⟩
        cases halt with
        | ended | held | paused => cases waits
        | sharing name path next' =>
          obtain ⟨l'', load, now', at_, _, silent⟩ := move.awaits linked
          obtain ⟨rfl, -⟩ := Standing.waiting.inj waits
          have same := congrArg Job.work (Option.some.inj (now.symm.trans now'))
          obtain ⟨rfl, -⟩ := Standing.waiting.inj (Work.request.inj same)
          rw [Scheduler.told?, at_, Option.bind_some, silent] at told
          cases told
    starts := fun _ _ _ _ _ _ work => by cases work
    told := by
      intro l id' service load o β wrap next c seat at_l lands abreast is st work
      cases seat with
      | load => cases work
      | request =>
        obtain rfl := (Work.request.inj work).symm
        obtain ⟨served, proceeds, waits⟩ := abreast is _ rfl
        cases proceeds with
        | waiting shared awaits =>
          refine ⟨served, .landed shared awaits fun v is => waits l next rfl v ?_, fun _ _ is => by cases is⟩
          rw [Scheduler.told?, at_l, Option.bind_some, lands, is]
    passes := by
      intro id' service β wrap path next c seat abreast is st work
      cases seat with
      | load => cases work
      | request =>
        obtain rfl := (Work.request.inj work).symm
        obtain ⟨served, proceeds, _⟩ := abreast is _ rfl
        cases proceeds with
        | held alone from_ awaits => exact ⟨served, .passed alone from_ awaits, fun _ _ is => by cases is⟩
    interrupted := by
      intro id' service β wrap st st' c seat _ _ goes abreast is st'' work
      cases seat with
      | load => cases work
      | request =>
        obtain rfl := (Work.request.inj work).symm
        obtain ⟨served, proceeds, _⟩ := abreast is _ rfl
        cases proceeds with
        | held alone from_ awaits =>
          cases goes
          exact ⟨served, .resumed (awaits.fails _ .cancelled le_rfl), fun _ _ is => by cases is⟩
        | waiting shared awaits =>
          cases goes
          exact ⟨served, .resumed (awaits.fails _ _ le_rfl), fun _ _ is => by cases is⟩
        | fresh | passed | paused | landed | resumed | ended => cases goes
    flagged := fun _ _ abreast is st work => by
      obtain ⟨served, proceeds, waits⟩ := abreast is st work
      exact ⟨served, proceeds, fun l next is v => tells (waits l next is)⟩
    answered := fun _ is _ => by
      subst is
      cases admits
    brings := by
      intro service routine comes is st work
      obtain rfl := (Work.request.inj work).symm
      obtain ⟨rfl, rfl⟩ := brings service routine comes is
      exact ⟨rfl, .fresh (r.proceeds p own), fun _ _ is => by cases is⟩ }

/-- A request that is abreast runs only what is known. -/
theorem Backs.known_of_run (backs : Backs p known t e) (inService : t.InService [(p, 0)] fun _ _ => True)
    (admits : t.Admits e)
    (carries : t.Carries host e (Abreast p r id known t.told?) (Abreast p r id known (t.after host e).told?))
    (abreast : ∀ id' job, t.job? id' = some job →
      Abreast p r id known t.told? id' job.service job.work job.cancelling)
    {x : Entry Compiled} (mem : x ∈ t.entries host e) (own : x.job = id) (runs : x.deed = .act (.run v)) : known v := by
  obtain rests | @⟨_, id', service, β, wrap, st, c, halt, d, move⟩ := t.after_passing host e
  · rw [rests.entries] at mem
    cases mem
  · have stirs := inService.stirs admits admits.brings (fun p _ _ => lacks_anyone p _) trivial move
    have stands := carries.summoned abreast move.summons move.at_
    rw [move.entries] at mem
    obtain ⟨deed, done, rfl⟩ := List.mem_map.mp mem
    obtain rfl : deed = _ := runs
    obtain rfl : id' = id := own
    obtain acts | joins := List.mem_append.mp done
    · generalize same : host.turnDeeds service _ c st _ = ds at stirs acts
      cases stirs with
      | request =>
        obtain ⟨_, _, is, turns, kept⟩ := backs.turns move stands
        obtain rfl := same.symm.trans is.symm
        exact turns.known_of_run kept acts
      | lost => cases acts
      | load _ _ _ loading => cases loading <;> simp at acts
    · cases halt with
      | ended | held | paused => cases joins
      | sharing =>
        rw [Scheduler.joining] at joins
        split at joins <;> simp at joins

end

/-- What a request may run that was asked for at a moment: its own page, and what is recent. -/
def MayRun (p : Pipeline) (s : Session) (is : List Incident) (n : Nat) (r : Request) (v : Compiled) : Prop :=
  r.own p v ∨ Recent s is n v

/-- A request that was asked for is there from then on. -/
theorem AskedAt.lt (asked : AskedAt s is n id r) (later : n < a) : id < (s.through (is.take a)).jobs.length := by
  obtain ⟨op, at_, asks, rfl⟩ := asked
  have grown := asks.length (s.through (is.take n))
  rw [show (s.through (is.take n)).operate op = s.through (is.take (n + 1)) from (through_take_succ at_).symm] at grown
  exact grown.trans_le (length_take_le s is later)

theorem askedAt_take (lt : n < a) : AskedAt s (is.take a) n id r ↔ AskedAt s is n id r := by
  simp only [AskedAt, List.getElem?_take, if_pos lt, List.take_take, Nat.min_eq_left lt.le]

/-- All that a request may come across at an event is recent once the event has happened. -/
theorem backs_mayRun (begun : Begun p s) (le : n ≤ is.length) (r : Request)
    (puts : ∀ x ∈ (s.through is).entries host e, ∀ name v, x.deed = .act (.keep name v) →
      (name, v) ∈ (s.through is).puts i) :
    Backs p (MayRun p s (is ++ [i]) n r) (s.through is) e where
  roster := (begun.heedful.through is).state.roster
  cached k c at_k := by
    refine (cachesHold_kept begun.heedful begun.caches is k c at_k).mono fun name v kept own => ?_
    exact .inr (((kept own).recent n).snoc le i)
  informed name v told := by
    obtain ⟨l, flying, told⟩ := Option.bind_eq_some_iff.mp told
    exact .inr (((landed_kept begun is flying told).recent n).snoc le i)
  kept x mem name v keeps := by
    have put := puts x mem name v keeps
    obtain withholds | ⟨_, _, _, _, _, _, delivers⟩ := meet_puts (begun.heedful.through is) i
    · rw [withholds.none] at put
      cases put
    · have put' := put
      rw [delivers.one] at put'
      obtain ⟨rfl, rfl⟩ := Prod.mk.inj (List.mem_singleton.mp put')
      obtain rfl := delivers.named
      exact .inr (recent_of_puts put le)

/-- After a part of a run the job of a number is abreast, if it is there: a request that was asked for at a moment. -/
def AllAbreast (p : Pipeline) (s : Session) (is : List Incident) (n id : Nat) (r : Request) : Prop :=
  ∀ id' job, (s.through is).job? id' = some job →
    Abreast p r id (MayRun p s is n r) (s.through is).told? id' job.service job.work job.cancelling

/-- **An incident keeps a request abreast**, and what it runs then is recent. -/
theorem AllAbreast.meet (begun : Begun p s) (asked : AskedAt s (is ++ [i]) n id r) (le : n ≤ is.length)
    (abreast : AllAbreast p s is n id r) :
    AllAbreast p s (is ++ [i]) n id r ∧
      ∀ x ∈ (s.through is).record host (i.events (s.through is)), x.job = id → ∀ v, x.deed = .act (.run v) →
        MayRun p s (is ++ [i]) n r v := by
  let t : Session := s.through is
  have linked : t.Linked t.queue := linked_through begun.linked is
  have inService : t.InService [(p, 0)] fun _ _ => True := begun.inService.through is
  have grown : ∀ id' job, t.job? id' = some job →
      Abreast p r id (MayRun p s (is ++ [i]) n r) t.told? id' job.service job.work job.cancelling := by
    intro id' job at_ own st work
    obtain ⟨served, proceeds, waits⟩ := abreast id' job at_ own st work
    have more : MayRun p s is n r ≤ MayRun p s (is ++ [i]) n r := fun v fresh => fresh.imp_right fun recent => recent.snoc le i
    exact ⟨served, proceeds.mono more, fun l next is v told => more v (waits l next is v told)⟩
  have brings (service : Nat) (r' : Request) (op : Session.Operation) (is_op : i = .operation op)
      (asks' : op.Asks service r') (same : t.jobs.length = id) : service = 0 ∧ r' = r := by
    obtain lt | rfl := Nat.lt_or_eq_of_le le
    · have later := asked.lt lt
      rw [List.take_left] at later
      exact absurd same (Nat.ne_of_gt later)
    · obtain ⟨op', at_, asks, _⟩ := asked
      rw [List.getElem?_concat_length, is_op] at at_
      obtain rfl := Incident.operation.inj (Option.some.inj at_)
      exact asks.unique asks'
  have comes := i.comes t
  rw [AllAbreast, through_append]
  change (∀ id' job, (t.play host (i.events t)).job? id' = some job →
    Abreast p r id _ (t.play host (i.events t)).told? id' job.service job.work job.cancelling) ∧ _
  have puts : ∀ x ∈ t.record host (i.events t), ∀ name v, x.deed = .act (.keep name v) → (name, v) ∈ t.puts i :=
    fun x mem _ _ keeps => mem_puts.mpr ⟨x, mem, keeps⟩
  generalize i.events t = es at comes puts ⊢
  cases comes with
  | nothing => exact ⟨grown, fun _ mem => absurd mem List.not_mem_nil⟩
  | change f => exact ⟨grown, fun _ mem => absurd mem List.not_mem_nil⟩
  | release f effect =>
    let u : Session := t.after host (.update f)
    have idle : Backs p (MayRun p s (is ++ [i]) n r) t .openGate :=
      backs_mayRun begun le r fun _ mem => absurd mem List.not_mem_nil
    have backs : Backs p (MayRun p s (is ++ [i]) n r) u .openGate :=
      ⟨effect.keeps.1.trans idle.roster, effect.keeps.2.2 _ idle.cached, idle.informed, idle.kept⟩
    have carries : u.Carries host .openGate (Abreast p r id _ u.told?) (Abreast p r id _ (u.after host .openGate).told?) :=
      backs.carries (linked.after (.update f)) (inService.change (a := .incident i) (.incident effect)) .openGate
        (fun _ => .inl) fun _ _ is => by simp at is
    exact ⟨carries.jobs grown, fun _ mem => absurd mem List.not_mem_nil⟩
  | @event e admits asks =>
    rw [Scheduler.record, Scheduler.record, List.append_nil] at puts ⊢
    have backs := backs_mayRun (e := e) begun le r puts
    have carries : t.Carries host e (Abreast p r id _ t.told?) (Abreast p r id _ (t.after host e).told?) :=
      backs.carries linked inService admits (fun _ => .inl) fun service routine is same => by
        obtain ⟨op, r', is_op, asks', rfl⟩ := asks service routine is
        obtain ⟨rfl, rfl⟩ := brings service r' op is_op asks' same
        exact ⟨rfl, routine_of_served inService.roster rfl r'⟩
    exact ⟨carries.jobs grown, fun x mem own v runs => backs.known_of_run inService admits carries grown mem own runs⟩

/-- **A request knows what is recent**, and nothing else. -/
theorem abreast_through (begun : Begun p s) (asked : AskedAt s is n id r) (le : n ≤ a) (inside : a ≤ is.length) :
    AllAbreast p s (is.take a) n id r := by
  induction a, le using Nat.le_induction with
  | base =>
    obtain ⟨_, _, _, rfl⟩ := asked
    intro id' job at_ own
    rw [own] at at_
    exact absurd (Scheduler.lt_of_job? at_) (Nat.lt_irrefl _)
  | succ a le ih =>
    have at_ := List.getElem?_eq_getElem inside
    rw [take_succ at_]
    refine (AllAbreast.meet begun ?_ ?_ (ih (Nat.le_of_succ_le inside))).1
    · rw [← take_succ at_]
      exact (askedAt_take (Nat.lt_succ_of_le le)).mpr asked
    · rw [List.length_take]
      omega

/-- What is on record of an incident is done at one event. -/
theorem exists_event {x : Entry Compiled} (mem : x ∈ t.record host (i.events t)) :
    ∃ e, t.Admits e ∧ t.meet i = t.after host e ∧ x ∈ t.entries host e := by
  have comes := i.comes t
  rw [meet]
  generalize i.events t = es at comes mem ⊢
  cases comes with
  | nothing | change | release => exact absurd mem List.not_mem_nil
  | event admits =>
    rw [Scheduler.record, Scheduler.record, List.append_nil] at mem
    exact ⟨_, admits, rfl, mem⟩

/-- Who does something takes its turn. -/
theorem exists_move {x : Entry Compiled} (mem : x ∈ t.entries host e) :
    ∃ (u : Session) (service : Nat) (β : Type) (wrap : Standing Compiled β → Work Compiled Bytes)
      (st : Standing Compiled β) (c : Bool) (halt : Halt Compiled β) (d : Deployment),
      t.Move host e u x.job service wrap st c halt d := by
  obtain rests | move := t.after_passing host e
  · rw [rests.entries] at mem
    cases mem
  · rw [move.entries] at mem
    obtain ⟨_, _, rfl⟩ := List.mem_map.mp mem
    exact ⟨_, _, _, _, _, _, _, _, move⟩

/-- A request runs something only after it was asked for. -/
theorem RunsAt.le (runs : RunsAt s is a id v) (asked : AskedAt s is n id r) : n ≤ a := by
  by_contra earlier
  obtain ⟨i, service, at_, mem⟩ := runs
  obtain ⟨e, _, meets, mem⟩ := exists_event mem
  obtain ⟨_, _, _, _, _, _, _, _, move⟩ := exists_move mem
  obtain ⟨_, now⟩ := move.job?
  obtain ⟨_, _, _, rfl⟩ := asked
  have there := Scheduler.lt_of_job? now
  rw [← meets, ← through_take_succ at_] at there
  exact absurd there (Nat.not_lt_of_le (length_take_le s is (Nat.lt_of_not_le earlier)))

/-- A request that has ended runs nothing more. -/
theorem RunsAt.lt (runs : RunsAt s is a id v) (ended : ((s.through (is.take n)).outcome? id).isSome) : a < n := by
  by_contra later
  obtain ⟨js, same⟩ := through_take s is (Nat.le_of_not_lt later)
  obtain ⟨es, plays⟩ := (s.through (is.take n)).through_play js
  obtain ⟨o, ended⟩ := Option.isSome_iff_exists.mp ended
  obtain ⟨⟨service, work, c⟩, at_, is_o⟩ := Option.bind_eq_some_iff.mp ended
  have phase : work.phase = .ended := by
    cases work with
    | load => cases is_o
    | request st => cases st <;> first | rfl | cases is_o
  obtain ⟨job', now, bare⟩ := Scheduler.play_ended (h := host) es at_ phase
  rw [← plays, ← same] at now
  obtain ⟨i, service, _, mem⟩ := runs
  obtain ⟨e, _, _, mem⟩ := exists_event mem
  obtain ⟨_, _, _, wrap, st, _, _, _, ⟨summons, seat, there, goes⟩⟩ := exists_move mem
  cases summons with
  | step =>
    have work := congrArg Job.work (Option.some.inj (now.symm.trans there))
    have stands : (wrap st).phase = .ended := by
      rw [← show job'.work = wrap st from work]
      exact (Job.phase_of_bare bare).trans phase
    rw [seat.phase] at stands
    cases st with
    | ended => cases goes
    | _ => cases stands
  | start => exact absurd (Scheduler.lt_of_job? now) (Nat.lt_irrefl _)

/-- **What a request runs was put last under its name** when the request was asked for, or later. -/
theorem RunsAt.recent (begun : Begun p s) (asked : AskedAt s is n id r) (runs : RunsAt s is a id v)
    (nested : ¬r.own p v) :
    ∃ b ≤ a, PutAt s is b v.name v ∧ ∀ c w, c < n → PutAt s is c v.name w → c ≤ b := by
  have le := runs.le asked
  obtain ⟨i, service, at_, mem⟩ := runs
  have inside : a ≤ is.length := (List.getElem?_eq_some_iff.mp at_).1.le
  have asked' : AskedAt s (is.take a ++ [i]) n id r := by
    rw [← take_succ at_]
    exact (askedAt_take (Nat.lt_succ_of_le le)).mpr asked
  have long : n ≤ (is.take a).length := by
    rw [List.length_take]
    omega
  have fresh := (AllAbreast.meet begun asked' long (abreast_through begun asked le inside)).2 _ mem rfl v rfl
  rw [← take_succ at_] at fresh
  obtain ⟨b, put, last⟩ := fresh.resolve_left nested
  obtain ⟨lt, put⟩ := putAt_take.mp put
  exact ⟨b, Nat.le_of_lt_succ lt, put, fun c w lt put' => last c w lt (putAt_take.mpr ⟨by omega, put'⟩)⟩

/-- A template that is put into the cache was made of what is stored just then. -/
theorem PutAt.stored (begun : Begun p s) (plain : Markup.Plain p.templateDir) (put : PutAt s is a name v) :
    ∃ b, (s.through (is.take a)).stored? (p.templatePath name) = some b ∧ p.compiler.compile name b = .ok v := by
  obtain ⟨i, _, put⟩ := put
  have heedful := begun.heedful.through (is.take a)
  obtain withholds | ⟨q, _, name', path, w, mem, delivers⟩ := meet_puts heedful i
  · rw [withholds.none] at put
    cases put
  · obtain ⟨rfl, rfl⟩ := Prod.mk.inj (List.mem_singleton.mp mem)
    rw [delivers.one] at put
    obtain ⟨rfl, rfl⟩ := Prod.mk.inj (List.mem_singleton.mp put)
    obtain rfl := Pipeline.templatePath_of_known plain delivers.known
    obtain ⟨b, read, compiles⟩ := ok_of_bind delivers.compiles
    exact ⟨b, stored?_of_contents heedful.state.memory read, compiles⟩

/-- **Served content never goes back in time.** Let a service have a cache of its own, of any size, and read from a
storage in memory a directory in which nothing is escaped, with loads that are shared or not. It may be asked for
anything, its jobs may take their turns in between, and requests may be cancelled, templates dropped, replaced,
removed, and reads held or made to fail. Then each template that is put into the cache is made of what is stored at
that incident, so that a load never replaces a newer template by an older one, however slow it is. What a request
runs, apart from the error page that it may ask for, was put into the cache before it is run, and not before
anything that had been put there under its name when the request was asked for. So if a request runs a template and
has ended when another one is asked for, all that the other one runs under that name was put into the cache at the
same incident as what the first one ran, or later. -/
theorem served_forward (p : Pipeline) (size : Nat) (m : MemoryStorage) (plain : Markup.Plain p.templateDir)
    (is : List Incident) :
    let s : Session := start (.create [(p, size)] none (.memory m))
    (∀ a name v, PutAt s is a name v → ∃ b, (s.through (is.take a)).stored? (p.templatePath name) = some b ∧
      p.compiler.compile name b = .ok v) ∧
    (∀ n id r a v, AskedAt s is n id r → RunsAt s is a id v → ¬r.own p v →
      ∃ b ≤ a, PutAt s is b v.name v ∧ ∀ c w, c < n → PutAt s is c v.name w → c ≤ b) ∧
    ∀ id a v, RunsAt s is a id v → ∀ n' id' r' a' v', ((s.through (is.take n')).outcome? id).isSome →
      AskedAt s is n' id' r' → RunsAt s is a' id' v' → ¬r'.own p v' → v'.name = v.name →
      ∃ b' ≤ a', PutAt s is b' v.name v' ∧ ∀ b ≤ a, PutAt s is b v.name v → b ≤ b' := by
  intro s
  have begun : Begun p s := begun_start p size m
  refine ⟨fun a name v put => put.stored begun plain, fun n id r a v asked runs nested => runs.recent begun asked nested, ?_⟩
  intro id a v runs n' id' r' a' v' ended asked' runs' nested' same
  have before := runs.lt ended
  obtain ⟨b', le, put, last⟩ := runs'.recent begun asked' nested'
  rw [same] at put last
  exact ⟨b', le, put, fun b le' put' => last b v (by omega) put'⟩

/-- A template is replaced and dropped from the cache after a request has run it. The load that another request waits
for is not the one that the first request has waited for. -/
theorem served_forward_replaced :
    let p : Pipeline := { templateDir := "t", singleFlight := true }
    let m : MemoryStorage := { files := [("t/x", ("old" : Text).map UInt8.ofNat)] }
    let s : Session := start (.create [(p, 1)] none (.memory m))
    let is : List Incident := .operation (.submit 0 (.file "x" none)) :: List.replicate 7 (.operation .step) ++
      [.operation (.add "t/x" (("new" : Text).map UInt8.ofNat)), .operation (.invalidate 0 "x"),
        .operation (.submit 0 (.file "x" none))] ++ List.replicate 6 (.operation .step)
    Markup.Plain p.templateDir ∧ ∃ v v', RunsAt s is 6 0 v ∧ RunsAt s is 16 2 v' ∧ v.source = ("old" : Text) ∧
      v'.source = ("new" : Text) ∧ v'.name = v.name ∧
      ∃ b' ≤ 16, PutAt s is b' v.name v' ∧ ∀ b ≤ 6, PutAt s is b v.name v → b ≤ b' := by
  intro p m s is
  have plain : Markup.Plain p.templateDir := by unfold Markup.Plain; decide
  have runsAt (a id : Nat) (source : Text) (runs : ((is[a]?.map fun i =>
      let t : Session := s.through (is.take a)
      t.record host (i.events t)).getD []).any (fun x => x.job == id && match x.deed with
        | .act (.run v) => v.source == source && v.name == ("x" : Text)
        | _ => false) = true) : ∃ v, RunsAt s is a id v ∧ v.source = source ∧ v.name = ("x" : Text) := by
    obtain ⟨⟨job, service, deed⟩, mem, is_run⟩ := List.any_eq_true.mp runs
    cases at_ : is[a]? with
    | none =>
      rw [at_] at mem
      cases mem
    | some i =>
      rw [at_] at mem
      cases deed with
      | act act =>
        cases act with
        | run v =>
          simp only [Bool.and_eq_true, beq_iff_eq] at is_run
          obtain ⟨rfl, source, named⟩ := is_run
          exact ⟨v, ⟨i, service, at_, mem⟩, source, named⟩
        | _ => simp at is_run
      | _ => simp at is_run
  obtain ⟨v, runs, old, named⟩ := runsAt 6 0 "old" (by decide +kernel)
  obtain ⟨v', runs', new, named'⟩ := runsAt 16 2 "new" (by decide +kernel)
  have ended : ((s.through (is.take 10)).outcome? 0).isSome = true := by decide +kernel
  refine ⟨plain, v, v', runs, runs', old, new, named'.trans named.symm, ?_⟩
  have asked : AskedAt s is 10 2 (.file "x" none) := ⟨.submit 0 (.file "x" none), rfl, .inl rfl, by decide +kernel⟩
  exact (served_forward p 1 m plain is).2.2 0 6 v runs 10 2 _ 16 v' ended asked runs' not_false (named'.trans named.symm)

end Session

end Stencil
