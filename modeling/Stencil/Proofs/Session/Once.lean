import Stencil.Proofs.Session.Private
import Stencil.Proofs.Session.SharedLoads

/-!
# Each template is loaded once

Where loads are shared, and the cache of a service has room for all the names that it is asked for, a name is loaded
until that succeeds, by one load at a time, and then never again. What carries this is that a name is in the cache or
has a load under way, but never both.

## Main definitions

- `Work.isLoading` — a load that is under way
- `Standing.Spares`, `Standing.Lands` — a turn that puts nothing into the cache, and one that does
- `Session.Once` — no name is both loaded and in the cache

## Main results

- `Standing.Stirs.spares_or_lands` — the two kinds of turns
- `Session.loads_once`
-/

namespace Stencil

open Deployment

namespace Deed

variable {V : Type}

/-- The name that is looked up. -/
def sought? : Deed V → Option Text
  | lookup name _ => some name
  | act _ | join _ | begin _ | serve .. => none

/-- What was compiled for a name is put into the cache. -/
def keeps (name : Text) : Deed V → Bool
  | act (.keep other _) => other == name
  | act _ | lookup .. | join _ | begin _ | serve .. => false

theorem keeps_of_kept {d : Deed V} (other : d.kept = false) (name : Text) : d.keeps name = false := by
  cases d with
  | act a => cases a <;> first | rfl | cases other
  | lookup | join | begin | serve => rfl

end Deed

namespace Cache.Fits

variable {V : Type} {names : List Text} {c : Cache V}

/-- What puts nothing into the cache leaves it as it is, but for the order. -/
theorem onCache (fits : c.Fits names) {d : Deed V} (other : d.kept = false) :
    (d.onCache c).Fits names ∧ ∀ n, (d.onCache c).value? n = c.value? n := by
  cases d with
  | lookup name v => exact ⟨fits.lookup name, c.value?_lookup name⟩
  | act a =>
    cases a with
    | keep name v => cases other
    | miss shown => exact ⟨fits.miss, fun _ => rfl⟩
    | note | count | run => exact ⟨fits, fun _ => rfl⟩
  | join | begin | serve => exact ⟨fits, fun _ => rfl⟩

theorem onCaches (fits : c.Fits names) {ds : List (Deed V)} (others : ∀ d ∈ ds, d.kept = false) :
    (ds.foldl (fun c d => d.onCache c) c).Fits names ∧
      ∀ n, (ds.foldl (fun c d => d.onCache c) c).value? n = c.value? n := by
  induction ds generalizing c with
  | nil => exact ⟨fits, fun _ => rfl⟩
  | cons d ds ih =>
    obtain ⟨first, rest⟩ := List.forall_mem_cons.mp others
    obtain ⟨fits', same⟩ := fits.onCache first
    obtain ⟨fits'', same'⟩ := ih fits' rest
    exact ⟨fits'', fun n => (same' n).trans (same n)⟩

end Cache.Fits

/-! ### Turns that put something into the cache, and turns that do not -/

/-- A load of a name that is under way. -/
def Work.isLoading (name : Text) : Work Compiled Bytes → Bool
  | .load other st _ => other == name && !st.hasEnded
  | .request _ => false

theorem trait_isLoading (name : Text) : Scheduler.Trait (Work.isLoading name) false where
  bare {w w'} same := by
    cases w with
    | request st => rw [Work.bare_eq_request.mp same]
    | load other st ws =>
      cases w' with
      | request st' => cases same
      | load other' st' ws' =>
        cases same
        rfl
  roused seat roused := by cases seat <;> cases roused <;> rfl
  fresh _ := rfl

theorem Work.isLoading_iff {w : Work Compiled Bytes} {name : Text} :
    w.isLoading name = true ↔ w.name? = some name ∧ w.phase ≠ .ended := by
  cases w with
  | request st => simp [isLoading, name?]
  | load other st ws => simp [isLoading, name?, phase, ← st.hasEnded_iff]

/-- A turn that puts nothing into the cache. A name that is not found is joined the load of, or is to be loaded. -/
structure Standing.Spares {β : Type} (missing : Text → Prop) (wrap : Standing Compiled β → Work Compiled Bytes)
    (st : Standing Compiled β) (ds : List (Deed Compiled)) (halt : Halt Compiled β) : Prop where
  keeps : ∀ d ∈ ds, d.kept = false
  reads : ∀ d ∈ ds, d.begun = true → ∃ name, (wrap st).isLoading name = true
  lands : ∀ l v, (wrap (halt.standing l)).landed? ≠ some (.ok v)
  loads : ∀ l name, (wrap (halt.standing l)).isLoading name = true → (wrap st).isLoading name = true
  joins : ∀ name, .lookup name none ∈ ds → .join name ∈ ds ∨ ∃ path k, halt = .sharing name path k
  asks : ∀ name path k, halt = .sharing name path k → .lookup name none ∈ ds ∧ missing name

/-- A load ends with a template, and puts it into the cache. -/
structure Standing.Lands {β : Type} (name : Text) (v : Compiled) (wrap : Standing Compiled β → Work Compiled Bytes)
    (st : Standing Compiled β) (ds : List (Deed Compiled)) (halt : Halt Compiled β) : Prop where
  loading : (wrap st).name? = some name ∧ (wrap st).phase ≠ .ended
  landed : ∀ l, (wrap (halt.standing l)).landed? = some (.ok v) ∧ (wrap (halt.standing l)).phase = .ended
  alone : ∀ name path k, halt ≠ .sharing name path k
  keeps : ∃ path b, ds = [.serve path (.ok b), .act (.note (.compiled name v.static)), .act (.count .compile),
    .act (.keep name v)]

/-- **The two kinds of turns where loads are shared.** -/
theorem Standing.Stirs.spares_or_lands {β : Type} {services : List (Pipeline × Nat)} {asked : Nat → Request → Prop}
    {missing : Text → Prop} {id service k : Nat} {p : Pipeline} {wrap : Standing Compiled β → Work Compiled Bytes}
    {st : Standing Compiled β} {c : Bool} {ds : List (Deed Compiled)} {halt : Halt Compiled β}
    (stirs : st.Stirs services asked missing id service wrap c ds halt) (served : services[service]? = some (p, k))
    (shared : p.singleFlight = true) :
    st.Spares missing wrap ds halt ∨ ∃ name v, st.Lands name v wrap ds halt := by
  cases stirs with
  | request served' asks turns =>
    obtain ⟨rfl, -⟩ := Prod.mk.inj (Option.some.inj (served'.symm.trans served))
    obtain ⟨quiet, joins, asks⟩ := turns.shared shared
    exact .inl {
      keeps := fun d mem => (quiet d mem).1
      reads := fun d mem reads => absurd ((quiet d mem).2.symm.trans reads) Bool.false_ne_true
      lands := fun l v is => by cases is
      loads := fun l name is => by cases is
      joins := joins
      asks := asks }
  | lost f c unserved => cases unserved.symm.trans served
  | @load _ _ name _ _ ws _ _ _ _ _ loading =>
    cases loading with
    | @lands b v compiles => exact .inr ⟨name, v, ⟨rfl, nofun⟩, fun l => ⟨rfl, rfl⟩, fun _ _ _ => nofun, _, b, rfl⟩
    | holds | pauses | begins | fails =>
      refine .inl ⟨?_, fun _ _ _ => ⟨name, Work.isLoading_iff.mpr ⟨rfl, nofun⟩⟩, fun _ _ => nofun, fun l other is => ?_,
        fun other mem => ?_, fun _ _ _ => nofun⟩
      · simp [Deed.kept]
      · exact Work.isLoading_iff.mpr ⟨(Work.isLoading_iff.mp is).1, nofun⟩
      · simp at mem

namespace Session

variable {s t : Session} {services : List (Pipeline × Nat)} {x k : Nat} {p : Pipeline} {names : List Text}
  {ls : List Line} {e : Event Deployment Compiled Bytes}

/-- All that a service looks up are these names. -/
def Seeks (names : List Text) (x : Nat) (ls : List Line) : Prop :=
  ∀ e name, .deed e ∈ ls → e.service = x → e.deed.sought? = some name → name ∈ names

theorem Seeks.left {ls' : List Line} (seeks : Seeks names x (ls ++ ls')) : Seeks names x ls :=
  fun e name mem => seeks e name (List.mem_append_left _ mem)

/-- The loads of a name for one service that are under way. -/
def loading (x : Nat) (name : Text) (service : Nat) (w : Work Compiled Bytes) : Nat :=
  (service == x && w.isLoading name).toNat

theorem measure_loading (x : Nat) (name : Text) : Scheduler.Measure (loading x name) :=
  (trait_isLoading name).measure (· == x)

/-- What is loaded for a service is one of certain names, and what was loaded is in the cache. -/
def Provided (x : Nat) (names : List Text) (c : Cache Compiled) (service : Nat) (w : Work Compiled Bytes) : Prop :=
  service = x → ∀ name, w.name? = some name → name ∈ names ∧ ∀ v, w.landed? = some (.ok v) → c.value? name = some v

/-- **No name is both loaded and in the cache.** -/
structure Once (services : List (Pipeline × Nat)) (x k : Nat) (names : List Text) (t : Session) (ls : List Line) : Prop where
  linked : t.Linked t.queue
  there : t.state.roster = services ∧ k < t.state.caches.length
  fits : (t.state.cacheOf x).Fits names
  jobs : ∀ id job, t.job? id = some job → Provided x names (t.state.cacheOf x) job.service job.work
  single : ∀ name, t.total (loading x name) + ((t.state.cacheOf x).value? name).isSome.toNat ≤ 1
  kept : ∀ name, told ls (· == x) (Deed.keeps name) = ((t.state.cacheOf x).value? name).isSome.toNat
  sought : ∀ e name, .deed e ∈ ls → e.service = x → e.deed = .lookup name none →
    ∃ l job, t.job? l = some job ∧ job.key? = some (x, name)

/-- No load of a name is under way that has none in flight. -/
theorem total_loading_of_grounded (linked : t.Linked t.queue) {name : Text}
    (grounded : t.flights.lookup (x, name) = none) : t.total (loading x name) = 0 := by
  refine (Scheduler.total_toNat (fun service w => service == x && w.isLoading name) t).trans ?_
  refine List.countP_eq_zero.mpr fun job mem is => ?_
  obtain ⟨l, at_⟩ := List.mem_iff_getElem?.mp mem
  obtain ⟨own, loads⟩ := Bool.and_eq_true_iff.mp is
  obtain ⟨isLoad, live⟩ := Work.isLoading_iff.mp loads
  have keyed : job.key? = some (x, name) := Job.key?_eq_some.mpr ⟨beq_iff_eq.mp own, isLoad⟩
  have flying := linked.lookup_of_unfinished ⟨job, at_, keyed, live⟩
  cases grounded.symm.trans flying

theorem one_le_total_loading {id : Nat} {name : Text} {w : Work Compiled Bytes} {c : Bool}
    (at_ : t.job? id = some ⟨x, w, c⟩) (loads : w.isLoading name = true) : 1 ≤ t.total (loading x name) := by
  refine le_of_le_of_eq ?_ (Scheduler.total_toNat (fun service w => service == x && w.isLoading name) t).symm
  exact List.countP_pos_iff.mpr ⟨_, List.mem_of_getElem? at_, by simpa using loads⟩

/-- The load that is started for a job that stops. -/
theorem launched_loading {β : Type} (t : Session) (x : Nat) (name : Text) (id service : Nat) (d : Deployment)
    (halt : Halt Compiled β) : t.launched (loading x name) host id service d halt = 0 ∨
      t.launched (loading x name) host id service d halt = 1 ∧ service = x ∧ t.flights.lookup (x, name) = none ∧
        ∃ path next, halt = .sharing name path next := by
  cases halt with
  | ended | held | paused => exact .inl rfl
  | sharing other path next =>
    rw [Scheduler.launched]
    cases flying : t.flights.lookup (service, other) with
    | some l => exact .inl rfl
    | none =>
      rw [Option.isSome_none, if_neg Bool.false_ne_true]
      by_cases own : service = x ∧ other = name
      · obtain ⟨rfl, rfl⟩ := own
        refine .inr ⟨?_, rfl, flying, path, next, rfl⟩
        simp [loading, Work.isLoading, Standing.hasEnded]
      · refine .inl ?_
        simp only [loading, Work.isLoading, Standing.hasEnded, Bool.not_false, Bool.and_true]
        rw [not_and_or] at own
        obtain other | other := own <;> simp [other]

/-- While nothing is put into the cache of a service the same names are missing. -/
theorem lacks_cached (owns : Owns services x k) (served : services[x]? = some (p, k)) (shared : p.singleFlight = true)
    (c : Cache Compiled) {q : Pipeline} {k' : Nat} (served' : services[x]? = some (q, k')) :
    Lacks q x (fun name => c.value? name = none) fun d => (d.roster = services ∧ k < d.caches.length) ∧
      ∀ name, (d.cacheOf x).value? name = c.value? name := by
  obtain ⟨rfl, -⟩ := Prod.mk.inj (Option.some.inj (served'.symm.trans served))
  have shows := shows_cacheOf owns
  have quiet {d : Deployment} (deed : Deed Compiled) (ok : d.roster = services ∧ k < d.caches.length)
      (answers : host.Answers x d deed) (same : ∀ name, (deed.onCache (d.cacheOf x)).value? name = c.value? name) :
      ((host.effect x deed d).roster = services ∧ k < (host.effect x deed d).caches.length) ∧
        ∀ name, ((host.effect x deed d).cacheOf x).value? name = c.value? name := by
    refine ⟨shows.keeps x deed d ok answers, fun name => ?_⟩
    rw [shows.shows x deed d ok answers, if_pos rfl, same]
  exact {
    lookup := fun d name ok => quiet (.lookup name _) ok.1 rfl fun n => ((d.cacheOf x).value?_lookup name n).trans (ok.2 n)
    act := fun d a other ok => by
      refine quiet (.act a) ok.1 trivial fun n => Eq.trans ?_ (ok.2 n)
      cases a with
      | keep name v => exact absurd ((other name v rfl).symm.trans shared) Bool.false_ne_true
      | note | count | miss | run => rfl
    serve := fun d path ok => quiet (.serve path _) ok.1 rfl ok.2
    absent := fun d name ok absent => by
      rw [← ok.2, ← Cache.lookup_fst]
      exact absent }

/-- What the deeds of a job make of the cache of a service. -/
theorem foldl_onCache (x id service : Nat) (ds : List (Deed Compiled)) (c : Cache Compiled) :
    ((ds.map (Entry.mk id service)).foldl (fun c e => if e.service = x then e.deed.onCache c else c) c) =
      if service = x then ds.foldl (fun c d => d.onCache c) c else c := by
  rw [List.foldl_map]
  split <;> simp

/-- Who asks for a load does nothing to the cache. -/
theorem joining_spares {β : Type} (t : Session) (service : Nat) (halt : Halt Compiled β) :
    ∀ d ∈ t.joining service halt, d.kept = false ∧ d.begun = false ∧ ∀ name v, d ≠ .lookup name v := by
  intro d mem
  cases halt with
  | sharing name path next =>
    rw [Scheduler.joining] at mem
    split at mem
    · obtain rfl := List.mem_singleton.mp mem
      exact ⟨rfl, rfl, fun _ _ is => by cases is⟩
    · cases mem
  | ended | held | paused => cases mem

/-- What becomes of the jobs of a service where each name that is in the cache stays there. -/
theorem carries_provided {c c' : Cache Compiled} (grows : ∀ name v, c.value? name = some v → c'.value? name = some v)
    (lands : ∀ {u : Session} {id service : Nat} {β : Type} {wrap : Standing Compiled β → Work Compiled Bytes}
      {st : Standing Compiled β} {f : Bool} {halt : Halt Compiled β} {d : Deployment} (l : Nat),
      t.Move host e u id service wrap st f halt d → service = x → ∀ name v, (wrap st).name? = some name →
        (wrap (halt.standing l)).landed? = some (.ok v) → c'.value? name = some v)
    (starts : ∀ {u : Session} {id : Nat} {β : Type} {wrap : Standing Compiled β → Work Compiled Bytes}
      {st : Standing Compiled β} {f : Bool} {name path : Text} {next : Except Failure Compiled → Pipeline.Request β}
      {d : Deployment}, t.Move host e u id x wrap st f (.sharing name path next) d → name ∈ names) :
    t.Carries host e (fun _ service w _ => Provided x names c service w)
      (fun _ service w _ => Provided x names c' service w) where
  rests same holds own name isLoad := by
    obtain ⟨listed, is⟩ := holds own name (by rw [← isLoad, ← Work.name?_bare, ← same, Work.name?_bare])
    refine ⟨listed, fun v landed => grows name v (is v ?_)⟩
    rw [← landed, ← Work.landed?_bare, ← same, Work.landed?_bare]
  acts {_ _ _ _ _ st _ _ _} l move holds _ own name isLoad := by
    have isLoad := (move.seat.name? st _).trans isLoad
    exact ⟨(holds own name isLoad).1, fun v landed => lands l move own name v isLoad landed⟩
  starts move holds _ _ own name isLoad := by
    subst own
    obtain rfl := Option.some.inj isLoad
    exact ⟨starts move, fun _ is => by cases is⟩
  told seat _ _ holds own name isLoad := by
    refine ⟨(holds own name ((seat.name? _ _).trans isLoad)).1, fun v is => ?_⟩
    cases seat <;> cases is
  passes seat holds own name isLoad := by
    refine ⟨(holds own name ((seat.name? _ _).trans isLoad)).1, fun v is => ?_⟩
    cases seat <;> cases is
  interrupted {_ _ _ _ st _ _} seat _ _ goes holds own name isLoad := by
    refine ⟨(holds own name ((seat.name? _ _).trans isLoad)).1, fun v is => ?_⟩
    cases st <;> cases goes <;> cases seat <;> cases is
  flagged _ _ holds own name isLoad := by
    obtain ⟨listed, is⟩ := holds own name isLoad
    exact ⟨listed, fun v landed => grows name v (is v landed)⟩
  answered seat _ holds own name isLoad := by
    refine ⟨(holds own name ((seat.name? _ _).trans isLoad)).1, fun v is => ?_⟩
    cases seat <;> cases is
  brings _ _ name isLoad := by cases isLoad

/-- What is found before an event is found after it. -/
theorem keyed_after {key : Nat × Text} (keyed : ∃ l job, t.job? l = some job ∧ job.key? = some key)
    (e : Event Deployment Compiled Bytes) : ∃ l job, (t.after host e).job? l = some job ∧ job.key? = some key := by
  obtain ⟨l, job, at_, isLoad⟩ := keyed
  obtain ⟨job', now, service, name⟩ := Scheduler.play_kind (h := host) at_ [e]
  rw [Job.key?_eq_some] at isLoad
  exact ⟨l, job', now, Job.key?_eq_some.mpr ⟨service.trans isLoad.1, name.trans isLoad.2⟩⟩

variable {asked : Nat → Request → Prop}

/-- An event at which no job of the service takes its turn. -/
theorem Once.idle (owns : Owns services x k) (admits : t.Admits e)
    (once : Once services x k names t ls)
    (still : ∀ {u : Session} {id service : Nat} {β : Type} {wrap : Standing Compiled β → Work Compiled Bytes}
      {st : Standing Compiled β} {f : Bool} {halt : Halt Compiled β} {d : Deployment},
      t.Move host e u id service wrap st f halt d → service ≠ x) :
    Once services x k names (t.after host e) (ls ++ (t.entries host e).map .deed) := by
  have others : (∀ entry ∈ t.entries host e, entry.service ≠ x) ∧
      ∀ name, (t.after host e).total (loading x name) = t.total (loading x name) := by
    obtain rests | @⟨_, id, service, _, wrap, st, c, halt, d, move⟩ := t.after_passing host e
    · refine ⟨fun entry mem => ?_, fun name => rests.total (measure_loading x name)⟩
      rw [rests.entries] at mem
      cases mem
    · have other := still move
      obtain ⟨l, totals⟩ := move.total
      refine ⟨fun entry mem => ?_, fun name => ?_⟩
      · rw [move.entries] at mem
        obtain ⟨_, _, rfl⟩ := List.mem_map.mp mem
        exact other
      · have changes := totals (measure_loading x name)
        have apart : (service == x) = false := beq_false_of_ne other
        obtain none | ⟨_, own, _⟩ := launched_loading t x name id service d halt
        · simpa [none, loading, apart] using changes
        · exact absurd own other
  obtain ⟨others, total⟩ := others
  have same : (t.after host e).state.cacheOf x = t.state.cacheOf x ∧
      (t.after host e).state.roster = services ∧ k < (t.after host e).state.caches.length := by
    obtain ⟨there, shows⟩ := (shows_cacheOf owns).after admits.inside once.there
    refine ⟨shows.trans ?_, there⟩
    generalize t.entries host e = es at others
    induction es with
    | nil => rfl
    | cons entry rest ih =>
      obtain ⟨other, others⟩ := List.forall_mem_cons.mp others
      rw [List.foldl_cons, if_neg other]
      exact ih others
  obtain ⟨same, there⟩ := same
  have carries : t.Carries host e (fun _ service w _ => Provided x names (t.state.cacheOf x) service w)
      (fun _ service w _ => Provided x names (t.state.cacheOf x) service w) :=
    carries_provided (fun _ _ is => is) (fun l move own => absurd own (still move)) fun move =>
      absurd rfl (still move)
  exact {
    linked := once.linked.after e
    there := there
    fits := by
      rw [same]
      exact once.fits
    jobs := by
      rw [same]
      exact carries.jobs once.jobs
    single := fun name => by
      rw [same, total]
      exact once.single name
    kept := fun name => by
      rw [told_append, same, once.kept, told, List.countP_eq_zero.mpr, Nat.add_zero]
      intro line mem
      obtain ⟨entry, done, rfl⟩ := List.mem_map.mp mem
      simp [Line.by, others entry done]
    sought := fun entry name mem own is => by
      obtain mem | mem := List.mem_append.mp mem
      · exact keyed_after (once.sought entry name mem own is) e
      · obtain ⟨entry', done, same⟩ := List.mem_map.mp mem
        obtain rfl := Line.deed.inj same
        exact absurd own (others _ done) }

section

variable {β : Type} {u : Session} {id : Nat} {wrap : Standing Compiled β → Work Compiled Bytes} {st : Standing Compiled β}
  {f : Bool} {halt : Halt Compiled β} {d : Deployment}

/-- What a turn makes of the cache. -/
theorem Once.cache (owns : Owns services x k) (served : services[x]? = some (p, k)) (shared : p.singleFlight = true)
    (inService : t.InService services asked) (admits : t.Admits e) (brings : t.Brings asked e)
    (once : Once services x k names t ls) (move : t.Move host e u id x wrap st f halt d) :
    let ds := host.turnDeeds x (t.landed? x) f st t.state
    let c := t.state.cacheOf x
    let c' := (t.after host e).state.cacheOf x
    st.Spares (fun name => c.value? name = none) wrap ds halt ∧ c'.Fits names ∧
        (∀ name, c'.value? name = c.value? name) ∨
      ∃ name v, st.Lands name v wrap ds halt ∧ c'.Fits names ∧
        ∀ n, c'.value? n = if n = name then some v else c.value? n := by
  intro ds c c'
  have stirs := inService.stirs admits brings
    (fun q k' served' => lacks_cached owns served shared (t.state.cacheOf x) served')
    ⟨once.there, fun _ => rfl⟩ move
  obtain ⟨_, shows⟩ := (shows_cacheOf owns).after admits.inside once.there
  rw [move.entries, foldl_onCache, if_pos rfl, List.foldl_append] at shows
  have joins {c : Cache Compiled} (fits : c.Fits names) :=
    fits.onCaches fun d mem => (joining_spares t x halt d mem).1
  obtain spares | ⟨name, v, lands⟩ := stirs.spares_or_lands served shared
  · obtain ⟨fits, same⟩ := once.fits.onCaches spares.keeps
    obtain ⟨fits', same'⟩ := joins fits
    rw [← shows] at fits' same'
    exact .inl ⟨spares, fits', fun name => (same' name).trans (same name)⟩
  · have listed := (once.jobs id _ (move.load_at (by rw [lands.loading.1]; rfl)) rfl name lands.loading.1).1
    have keeps : ds.foldl (fun c d => d.onCache c) c = c.insert name v := by
      obtain ⟨path, b, is⟩ := lands.keeps
      rw [show ds = _ from is]
      rfl
    obtain ⟨fits', same'⟩ := joins (once.fits.insert listed v)
    rw [← keeps, ← shows] at fits' same'
    refine .inr ⟨name, v, lands, fits', fun n => (same' n).trans ?_⟩
    rw [keeps, once.fits.value?_insert listed]

end

/-- **An event keeps what is loaded for a service provided** if what is in the cache stays there. -/
theorem Once.carries (owns : Owns services x k) (served : services[x]? = some (p, k)) (shared : p.singleFlight = true)
    (inService : t.InService services asked) (admits : t.Admits e) (brings : t.Brings asked e)
    (once : Once services x k names t ls) (seeks : Seeks names x (ls ++ (t.entries host e).map .deed))
    (grows : ∀ name v, (t.state.cacheOf x).value? name = some v →
      ((t.after host e).state.cacheOf x).value? name = some v) :
    t.Carries host e (fun _ service w _ => Provided x names (t.state.cacheOf x) service w)
      (fun _ service w _ => Provided x names ((t.after host e).state.cacheOf x) service w) := by
  refine carries_provided grows ?_ ?_
  · rintro u id _ β wrap st f halt d l move rfl name v isLoad landed
    obtain ⟨spares, _⟩ | ⟨other, w, lands, _, value⟩ := once.cache owns served shared inService admits brings move
    · exact absurd landed (spares.lands l v)
    · obtain rfl := Option.some.inj (lands.loading.1.symm.trans isLoad)
      obtain rfl := Except.ok.inj (Option.some.inj ((lands.landed l).1.symm.trans landed))
      rw [value, if_pos rfl]
  · intro u id β wrap st f name path next d move
    obtain ⟨spares, _⟩ | ⟨_, _, lands, _⟩ := once.cache owns served shared inService admits brings move
    · have done : ⟨id, x, .lookup name none⟩ ∈ t.entries host e := by
        rw [move.entries]
        exact List.mem_map_of_mem (List.mem_append_left _ (spares.asks name path next rfl).1)
      exact seeks _ name (List.mem_append_right _ (List.mem_map_of_mem done)) rfl rfl
    · exact absurd rfl (lands.alone name path next)

section

variable {β : Type} {u : Session} {id : Nat} {wrap : Standing Compiled β → Work Compiled Bytes} {st : Standing Compiled β}
  {f : Bool} {halt : Halt Compiled β} {d : Deployment}

/-- What a service looks up at a turn is done by the job whose turn it is, before it stops. -/
theorem mem_turnDeeds (move : t.Move host e u id x wrap st f halt d) {entry : Entry Compiled}
    (done : entry ∈ t.entries host e) {name : Text} {v : Option Compiled} (is : entry.deed = .lookup name v) :
    .lookup name v ∈ host.turnDeeds x (t.landed? x) f st t.state := by
  rw [move.entries] at done
  obtain ⟨deed, mem, rfl⟩ := List.mem_map.mp done
  obtain mem | mem := List.mem_append.mp mem
  · exact is ▸ mem
  · exact absurd is ((joining_spares t x halt deed mem).2.2 name v)

/-- Whoever does not find a name has a load of it to wait for. -/
theorem Once.sought_acts (once : Once services x k names t ls) (move : t.Move host e u id x wrap st f halt d)
    {missing : Text → Prop} (spares : st.Spares missing wrap (host.turnDeeds x (t.landed? x) f st t.state) halt)
    {entry : Entry Compiled} (done : entry ∈ t.entries host e) {name : Text} (is : entry.deed = .lookup name none) :
    ∃ l job, (t.after host e).job? l = some job ∧ job.key? = some (x, name) := by
  obtain joins | ⟨path, next, rfl⟩ := spares.joins name (mem_turnDeeds move done is)
  · obtain ⟨o, told⟩ := Option.isSome_iff_exists.mp (Host.landed_of_join_turn joins)
    obtain ⟨l, flying, _⟩ := Option.bind_eq_some_iff.mp told
    exact keyed_after ⟨l, once.linked.flight _ l (Scheduler.mem_of_lookup flying)⟩ e
  · obtain ⟨l, load, _, now, keyed, _⟩ := move.shares once.linked
    exact ⟨l, load, now, keyed⟩

theorem Once.sought_after (once : Once services x k names t ls)
    (looks : ∀ {entry : Entry Compiled} {name : Text}, entry ∈ t.entries host e →
      entry.deed = .lookup name none → ∃ l job, (t.after host e).job? l = some job ∧ job.key? = some (x, name))
    (entry : Entry Compiled) (name : Text) (mem : .deed entry ∈ ls ++ (t.entries host e).map .deed)
    (own : entry.service = x) (is : entry.deed = .lookup name none) :
    ∃ l job, (t.after host e).job? l = some job ∧ job.key? = some (x, name) := by
  obtain mem | mem := List.mem_append.mp mem
  · exact keyed_after (once.sought entry name mem own is) e
  · obtain ⟨entry', done, same⟩ := List.mem_map.mp mem
    obtain rfl := Line.deed.inj same
    exact looks done is

/-- What is put into the cache is told by the turn. -/
theorem told_keeps (move : t.Move host e u id x wrap st f halt d) (name : Text) :
    told (ls ++ (t.entries host e).map .deed) (· == x) (Deed.keeps name) = told ls (· == x) (Deed.keeps name) +
      (host.turnDeeds x (t.landed? x) f st t.state).countP (Deed.keeps name) := by
  have none : (t.joining x halt).countP (Deed.keeps name) = 0 := List.countP_eq_zero.mpr fun d mem => by
    simp [Deed.keeps_of_kept (joining_spares t x halt d mem).1 name]
  rw [told_append, move.entries, told_deeds, if_pos (beq_self_eq_true x), List.countP_append, none, Nat.add_zero]

/-- A name whose load ends with a template was not in the cache, and had no other load. -/
theorem Once.lands (once : Once services x k names t ls) (move : t.Move host e u id x wrap st f halt d) {name : Text}
    (loading : (wrap st).name? = some name ∧ (wrap st).phase ≠ .ended) :
    t.total (Session.loading x name) = 1 ∧ (t.state.cacheOf x).value? name = none := by
  have at_ := move.load_at (by rw [loading.1]; rfl)
  have most := once.single name
  have least := one_le_total_loading at_ (Work.isLoading_iff.mpr loading)
  cases found : (t.state.cacheOf x).value? name with
  | none => exact ⟨by omega, rfl⟩
  | some v =>
    rw [found, Option.isSome_some, Bool.toNat_true] at most
    omega

/-- **A turn keeps each name from being both loaded and in the cache.** -/
theorem Once.acts (owns : Owns services x k) (served : services[x]? = some (p, k)) (shared : p.singleFlight = true)
    (inService : t.InService services asked) (admits : t.Admits e) (brings : t.Brings asked e)
    (once : Once services x k names t ls) (move : t.Move host e u id x wrap st f halt d)
    (seeks : Seeks names x (ls ++ (t.entries host e).map .deed)) :
    Once services x k names (t.after host e) (ls ++ (t.entries host e).map .deed) := by
  obtain ⟨there, _⟩ := (shows_cacheOf owns).after admits.inside once.there
  have carries := once.carries owns served shared inService admits brings seeks
  obtain ⟨l, totals⟩ := move.total
  have changes (name : Text) := totals (measure_loading x name)
  simp only [loading, beq_self_eq_true, Bool.true_and] at changes
  obtain ⟨spares, fits, same⟩ | ⟨name, v, lands, fits, value⟩ :=
    once.cache owns served shared inService admits brings move
  · refine ⟨once.linked.after e, there, fits, (carries fun name v is => (same name).trans is).jobs once.jobs, ?_, ?_,
      once.sought_after fun done is => once.sought_acts move spares done is⟩
    · intro name
      have most := once.single name
      have changed := changes name
      have fewer : ((wrap (halt.standing l)).isLoading name).toNat ≤ ((wrap st).isLoading name).toNat := by
        have loads := spares.loads l name
        cases is : (wrap (halt.standing l)).isLoading name with
        | false => exact Nat.zero_le _
        | true => rw [loads is]
      rw [same]
      obtain none | ⟨one, _, grounded, path, next, is⟩ := launched_loading t x name id x d halt
      · omega
      · have idle := total_loading_of_grounded once.linked grounded
        rw [(spares.asks name path next is).2, Option.isSome_none, Bool.toNat_false] at most ⊢
        omega
    · intro name
      rw [told_keeps move, same, once.kept, List.countP_eq_zero.mpr, Nat.add_zero]
      exact fun d mem => by simp [Deed.keeps_of_kept (spares.keeps d mem) name]
  · obtain ⟨path, b, is⟩ := lands.keeps
    obtain ⟨one, absent⟩ := once.lands move lands.loading
    refine ⟨once.linked.after e, there, fits, (carries fun n w found => ?_).jobs once.jobs, fun n => ?_, fun n => ?_,
      once.sought_after fun done looks => ?_⟩
    · rw [value, if_neg]
      · exact found
      · rintro rfl
        cases absent.symm.trans found
    · have most := once.single n
      have changed := changes n
      have none : t.launched (loading x n) host id x d halt = 0 := by
        obtain none | ⟨_, _, _, path, next, asks⟩ := launched_loading t x n id x d halt
        · exact none
        · exact absurd asks (lands.alone n path next)
      have ended : (wrap (halt.standing l)).isLoading n = false :=
        Bool.eq_false_iff.mpr fun live => (Work.isLoading_iff.mp live).2 (lands.landed l).2
      rw [ended, none, Bool.toNat_false] at changed
      rw [value]
      split
      · next own =>
        subst own
        rw [Work.isLoading_iff.mpr lands.loading, Bool.toNat_true] at changed
        rw [Option.isSome_some, Bool.toNat_true]
        omega
      · omega
    · rw [told_keeps move, is, once.kept, value]
      by_cases own : n = name
      · subst own
        simp [absent, Deed.keeps]
      · simp [own, Deed.keeps, Ne.symm own]
    · have mem := mem_turnDeeds move done looks
      simp [is] at mem

end

/-- **An event keeps each name from being both loaded and in the cache.** -/
theorem Once.after (owns : Owns services x k) (served : services[x]? = some (p, k)) (shared : p.singleFlight = true)
    (inService : t.InService services asked) (admits : t.Admits e) (brings : t.Brings asked e)
    (once : Once services x k names t ls) (seeks : Seeks names x (ls ++ (t.entries host e).map .deed)) :
    Once services x k names (t.after host e) (ls ++ (t.entries host e).map .deed) := by
  by_cases moves : ∃ (u : Session) (id : Nat) (β : Type) (wrap : Standing Compiled β → Work Compiled Bytes)
    (st : Standing Compiled β) (f : Bool) (halt : Halt Compiled β) (d : Deployment),
    t.Move host e u id x wrap st f halt d
  · obtain ⟨u, id, β, wrap, st, f, halt, d, move⟩ := moves
    exact once.acts owns served shared inService admits brings move seeks
  · refine once.idle owns admits fun move own => ?_
    subst own
    exact moves ⟨_, _, _, _, _, _, _, _, move⟩

/-- Only what is not in the cache is read, by a load of it. -/
theorem Once.reads (owns : Owns services x k) (served : services[x]? = some (p, k)) (shared : p.singleFlight = true)
    (inService : t.InService services asked) (admits : t.Admits e) (brings : t.Brings asked e)
    (once : Once services x k names t ls) {entry : Entry Compiled} (done : entry ∈ t.entries host e) (own : entry.service = x)
    (begins : entry.deed.begun = true) : ∃ job name, (t.after host e).job? entry.job = some job ∧
      job.work.name? = some name ∧ (t.state.cacheOf x).value? name = none := by
  obtain rests | @⟨_, id, service, _, wrap, st, c, halt, d, move⟩ := t.after_passing host e
  · rw [rests.entries] at done
    cases done
  · rw [move.entries] at done
    obtain ⟨deed, mem, rfl⟩ := List.mem_map.mp done
    obtain rfl : service = x := own
    obtain mem | mem := List.mem_append.mp mem
    · obtain ⟨spares, _⟩ | ⟨_, _, lands, _⟩ := once.cache owns served shared inService admits brings move
      · obtain ⟨name, loads⟩ := spares.reads deed mem begins
        obtain ⟨l, now⟩ := move.job?
        have loading := Work.isLoading_iff.mp loads
        refine ⟨_, name, now, (move.seat.name? _ st).trans loading.1, (once.lands move loading).2⟩
      · obtain ⟨path, b, is⟩ := lands.keeps
        rw [is] at mem
        simp only [List.mem_cons, List.not_mem_nil, or_false] at mem
        obtain rfl | rfl | rfl | rfl := mem <;> cases begins
    · exact absurd ((joining_spares t service halt deed mem).2.1.symm.trans begins) Bool.false_ne_true

/-- What is done to the cache directly drops nothing. -/
theorem Once.change (owns : Owns services x k) (once : Once services x k names t ls)
    {a : Happening} {d : Deployment} (effect : a.Effect t.state d) (spares : a.Spares x) :
    Once services x k names { t with state := d } (ls ++ a.uses t.state) := by
  have cache : (d.cacheOf x).Fits names ∧ ∀ name, (d.cacheOf x).value? name = (t.state.cacheOf x).value? name := by
    obtain same | ⟨name, same⟩ := effect.cacheOf owns once.there.1 once.there.2 spares
    · rw [same]
      exact ⟨once.fits, fun _ => rfl⟩
    · rw [same]
      exact ⟨once.fits.lookup name, Cache.value?_lookup _ name⟩
  obtain ⟨fits, same⟩ := cache
  exact {
    linked := once.linked.congr d t.queue
    there := ⟨effect.roster.trans once.there.1, effect.length_caches ▸ once.there.2⟩
    fits := fits
    jobs := fun id job at_ own name isLoad => by
      obtain ⟨listed, is⟩ := once.jobs id job at_ own name isLoad
      exact ⟨listed, fun v landed => (same name).trans (is v landed)⟩
    single := fun name => by
      rw [same]
      exact once.single name
    kept := fun name => by
      rw [told_append, told_uses, Nat.add_zero, same]
      exact once.kept name
    sought := fun entry name mem => once.sought entry name
      ((List.mem_append.mp mem).resolve_right (a.deed_not_mem_uses t.state entry)) }

/-- **A run keeps each name from being both loaded and in the cache**, and what was put into the cache before it is
not read. -/
theorem Once.undergo (owns : Owns services x k) (served : services[x]? = some (p, k)) (shared : p.singleFlight = true)
    (inService : s.InService services fun _ _ => True) (once : Once services x k names s ls) (as : List Happening)
    (spares : ∀ a ∈ as, a.Spares x) (seeks : Seeks names x (ls ++ s.chronicle as)) :
    Once services x k names (s.undergo as) (ls ++ s.chronicle as) ∧
    ∀ entry, .deed entry ∈ s.chronicle as → entry.service = x → entry.deed.begun = true →
      ∃ job name, (s.undergo as).job? entry.job = some job ∧ job.work.name? = some name ∧
        told ls (· == x) (Deed.keeps name) = 0 := by
  refine (inService.undergo (Q := fun t new => Seeks names x (ls ++ new) → Once services x k names t (ls ++ new) ∧
    ∀ entry, .deed entry ∈ new → entry.service = x → entry.deed.begun = true → ∃ job name,
      t.job? entry.job = some job ∧ job.work.name? = some name ∧ told ls (· == x) (Deed.keeps name) = 0)
    (fun _ _ _ => trivial) ?_ as ?_ ?_).2 seeks
  · intro _
    rw [List.append_nil]
    exact ⟨once, fun _ mem => absurd mem List.not_mem_nil⟩
  · intro t new e inService admits brings keeps seeks
    rw [← List.append_assoc] at seeks ⊢
    obtain ⟨once, reads⟩ := keeps seeks.left
    refine ⟨once.after owns served shared inService admits brings seeks, fun entry mem own begins => ?_⟩
    obtain mem | mem := List.mem_append.mp mem
    · obtain ⟨job, name, at_, isLoad, unkept⟩ := reads entry mem own begins
      obtain ⟨job', now, _, same⟩ := Scheduler.play_kind (h := host) at_ [e]
      exact ⟨job', name, now, same.trans isLoad, unkept⟩
    · obtain ⟨entry', done, same⟩ := List.mem_map.mp mem
      obtain rfl := Line.deed.inj same
      obtain ⟨job, name, now, isLoad, absent⟩ :=
        once.reads owns served shared inService admits brings done own begins
      refine ⟨job, name, now, isLoad, ?_⟩
      have kept := once.kept name
      rw [absent, told_append] at kept
      exact Nat.eq_zero_of_add_eq_zero_right kept
  · intro t new a d mem effect keeps seeks
    rw [← List.append_assoc] at seeks ⊢
    obtain ⟨once, reads⟩ := keeps seeks.left
    refine ⟨once.change owns effect (spares a mem), fun entry told => reads entry ?_⟩
    exact (List.mem_append.mp told).resolve_right (a.deed_not_mem_uses t.state entry)

/-- At first nothing is loaded, and nothing is in the cache. -/
theorem once_start {d : Deployment} (there : d.roster = services ∧ k < d.caches.length) {size : Nat}
    (empty : d.cacheOf x = .empty size) (room : names.length ≤ size) : Once services x k names (start d) [] where
  linked := Scheduler.linked_empty d
  there := there
  fits := by
    rw [show (start d).state.cacheOf x = .empty size from empty]
    exact Cache.fits_empty room
  jobs _ _ at_ := by cases at_
  single name := by
    rw [show (start d).state.cacheOf x = .empty size from empty]
    exact Nat.zero_le 1
  kept name := by
    rw [show (start d).state.cacheOf x = .empty size from empty]
    rfl
  sought _ _ mem := absurd mem List.not_mem_nil

/-- Where loads are shared, a job that is in a read is a load. -/
theorem InService.reading (inService : t.InService services asked) (served : services[x]? = some (p, k))
    (shared : p.singleFlight = true) {id : Nat} {w : Work Compiled Bytes} {f : Bool} (at_ : t.job? id = some ⟨x, w, f⟩)
    (reading : w.isReading = true) : ∃ name, w.name? = some name ∧ w.phase ≠ .ended := by
  have holds := inService.jobs id _ at_
  cases holds with
  | request served' asks proceeds =>
    obtain ⟨rfl, -⟩ := Prod.mk.inj (Option.some.inj (served'.symm.trans served))
    cases proceeds with
    | paused alone => exact absurd (shared.symm.trans alone) Bool.noConfusion
    | fresh | held | passed | waiting | landed | resumed | ended => cases reading
  | lost | refused => cases reading
  | load _ _ _ onLoad =>
    cases onLoad with
    | paused => exact ⟨_, rfl, fun is => by cases is⟩
    | fresh | held | passed | ended => cases reading

/-- **Single flight loads each template once.** Let a service share its loads and have a cache of its own, with room for
all the names that it looks up, and let nothing be dropped from that cache. Other services, what is stored, failures of
the storage, the gate, cancellations and the order of all turns are arbitrary. Then at any moment

- only loads are in a read, and no two of them for the same name;
- what was compiled for a name was put into the cache once if the name is there, and never if it is not;
- only loads read, and a name is not read any more once a template was put into the cache for it;
- a name that was looked up in vain while none of its loads has ended has exactly one load;
- a load has read once when it has paused or ended, it ends, whoever was cancelled, if nobody is held at the gate, and
  if it has ended with a template, that is in the cache. -/
theorem loads_once (pipelines : List (Pipeline × Nat)) (storage : Storage) {x size : Nat} {p : Pipeline}
    (at_ : pipelines[x]? = some (p, size)) (shared : p.singleFlight = true) (names : List Text)
    (room : names.length ≤ size) (as : List Happening) (spares : ∀ a ∈ as, a.Spares x)
    (seeks : Seeks names x ((start (.create pipelines none storage)).chronicle as)) :
    let s : Session := start (.create pipelines none storage)
    let t : Session := s.undergo as
    let ls : List Line := s.chronicle as
    let cache := t.state.cacheOf x
    (∀ i j w w' f f', t.job? i = some ⟨x, w, f⟩ → t.job? j = some ⟨x, w', f'⟩ → w.isReading = true →
      w'.isReading = true → ∃ name, w.name? = some name ∧ (w'.name? = some name → i = j)) ∧
    (∀ name, told ls (· == x) (Deed.keeps name) = (cache.value? name).isSome.toNat) ∧
    (∀ before after, as = before ++ after → ∀ e, .deed e ∈ (s.undergo before).chronicle after → e.service = x →
      e.deed.begun = true → ∃ job name, t.job? e.job = some job ∧ job.work.name? = some name ∧
        told (s.chronicle before) (· == x) (Deed.keeps name) = 0) ∧
    (∀ name, (∃ e, .deed e ∈ ls ∧ e.service = x ∧ e.deed = .lookup name none) →
      (∀ l job, t.job? l = some job → job.key? = some (x, name) → job.work.phase ≠ .ended) →
      ∃! l, ∃ job, t.job? l = some job ∧ job.key? = some (x, name)) ∧
    ∀ l name st ws f, t.job? l = some ⟨x, .load name st ws, f⟩ →
      ls.countP (Line.of l Deed.begun) = st.hasRead.toNat ∧ (t.Unheld host → t.Ends host l) ∧
      ∀ v, st = .ended (.ok v) → cache.value? name = some v := by
  intro s t ls cache
  obtain ⟨owns, there, served, empty⟩ := owns_create storage at_
  have inService : s.InService s.state.roster fun _ _ => True := inService_start _
  have begun : Once s.state.roster x x names s [] := once_start ⟨rfl, there⟩ empty room
  have once : Once s.state.roster x x names t ls := (begun.undergo owns served shared inService as spares seeks).1
  have inService' : t.InService s.state.roster fun _ _ => True := inService.lasts as
  refine ⟨fun i j w w' f f' at_i at_j reading reading' => ?_, once.kept, ?_, fun name asks early => ?_,
    fun l name st ws f at_ => ⟨reads_undergo inService rfl as at_, ?_, ?_⟩⟩
  · obtain ⟨name, isLoad, live⟩ := inService'.reading served shared at_i reading
    obtain ⟨_, _, live'⟩ := inService'.reading served shared at_j reading'
    refine ⟨name, isLoad, fun isLoad' => ?_⟩
    have keyed : (⟨x, w, f⟩ : Job Compiled Bytes).key? = some (x, name) := Job.key?_eq_some.mpr ⟨rfl, isLoad⟩
    have keyed' : (⟨x, w', f'⟩ : Job Compiled Bytes).key? = some (x, name) := Job.key?_eq_some.mpr ⟨rfl, isLoad'⟩
    exact once.linked.unfinished_unique ⟨_, at_i, keyed, live⟩ ⟨_, at_j, keyed', live'⟩
  · rintro before after rfl e mem own begins
    rw [chronicle_append] at seeks
    have earlier := (begun.undergo owns served shared inService before
      (fun a mem => spares a (List.mem_append_left _ mem)) seeks.left).1
    obtain ⟨_, reads⟩ := earlier.undergo owns served shared (inService.lasts before) after
      (fun a mem => spares a (List.mem_append_right _ mem)) seeks
    rw [show t = (s.undergo before).undergo after from undergo_append s before after]
    exact reads e mem own begins
  · obtain ⟨e, mem, own, is⟩ := asks
    obtain ⟨l, job, now, keyed⟩ := once.sought e name mem own is
    refine ⟨l, ⟨job, now, keyed⟩, fun l' ⟨job', now', keyed'⟩ => ?_⟩
    exact once.linked.unfinished_unique ⟨job', now', keyed', early l' job' now' keyed'⟩
      ⟨job, now, keyed, early l job now keyed⟩
  · exact fun unheld => inService'.load_ends once.linked unheld at_
  · rintro v rfl
    exact (once.jobs l _ at_ rfl name rfl).2 v rfl

/-- Two requests are cancelled while they wait for one load, which goes on and fills the cache. -/
theorem loads_once_cancelled :
    let p : Pipeline := { templateDir := "t", singleFlight := true }
    let storage : Storage := .memory { files := [("t/x", [111])] }
    let ask : Happening := .incident (.operation (.submit 0 (.file "x" none)))
    let step : Happening := .incident (.operation .step)
    let cancel (id : Nat) : Happening := .incident (.operation (.cancel id))
    let as : List Happening := [ask, ask, step, step, cancel 0, cancel 1, step, step, step, step]
    let s : Session := start (.create [(p, 1)] none storage)
    (∀ a ∈ as, a.Spares 0) ∧ Seeks ["x"] 0 (s.chronicle as) ∧
      told (s.chronicle as) (· == 0) (Deed.keeps "x") = 1 ∧ (s.chronicle as).countP (Line.of 2 Deed.begun) = 1 := by
  intro p storage ask step cancel as s
  have spares : ∀ a ∈ as, a.Spares 0 := by simp [as, ask, step, cancel, Happening.Spares]
  have only : (s.chronicle as).all fun l => !l.by (· == 0) fun d => d.sought?.any (· != ("x" : Text)) := by decide +kernel
  have seeks : Seeks ["x"] 0 (s.chronicle as) := by
    intro e name mem own sought
    have is := List.all_eq_true.mp only _ mem
    simpa [Line.by, own, sought] using is
  obtain ⟨_, kept, _, _, loads⟩ := loads_once [(p, 1)] storage (x := 0) rfl rfl ["x"] le_rfl as spares seeks
  refine ⟨spares, seeks, (kept "x").trans (by decide +kernel), ?_⟩
  have there : ((s.undergo as).job? 2).any fun job => job.service == 0 && job.work.hasRead := by decide +kernel
  obtain ⟨⟨service, work, f⟩, at_, is⟩ := (Option.any_eq_true _ _).mp there
  obtain ⟨own, hasRead⟩ := Bool.and_eq_true_iff.mp is
  obtain rfl := beq_iff_eq.mp own
  cases work with
  | request st => cases hasRead
  | load name st ws =>
    have st_read : st.hasRead = true := hasRead
    exact (loads 2 name st ws f at_).1.trans (by rw [st_read]; rfl)

end Session

end Stencil
