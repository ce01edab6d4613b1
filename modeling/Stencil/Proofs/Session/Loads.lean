import Stencil.Proofs.Pipeline.Loads
import Stencil.Proofs.Schedule.Everywhere
import Stencil.Proofs.Session.Failures

/-!
# Loads and the caches

At its turn a job puts nothing into a cache but what the load comes to that it is a part of, and this is made
of what is stored then. A load that goes on, fails or is cancelled leaves all caches as they are.

## Main definitions

- `Deployment.Sheds` — nothing is put into the caches
- `Deployment.Spares` — the caches have the same entries, in the same order
- `Deployment.Puts` — one template is put into the cache of a service
- `Standing.Heeds` — where a heedful request stands
- `Standing.OfLoad` — where a load stands

## Main results

- `Standing.Heeds.turn`
- `Standing.OfLoad.turn`
- `Session.pervades_heeds`
-/

namespace Stencil

/-- What an act puts into the cache. -/
def Act.kept? {V : Type} : Act V → Option (Text × V)
  | keep name v => some (name, v)
  | note _ | count _ | miss _ | run _ => none

namespace Deployment

/-! ### What happens to the caches -/

/-- From one moment to a later one nothing is put into the caches. Both come with what was done so far. -/
structure Sheds (x y : Deployment × List (Act Compiled)) : Prop where
  frame : x.1.Frame y.1
  kept : y.2.filterMap Act.kept? = x.2.filterMap Act.kept?
  caches : ∀ P, x.1.CachesHold P → y.1.CachesHold P

/-- The caches have the same entries, in the same order. -/
structure Spares (x y : Deployment × List (Act Compiled)) : Prop extends Sheds x y where
  entries : ∀ service, (y.1.cacheOf service).entries = (x.1.cacheOf service).entries

/-- A template is put into the cache of a service, and nothing else into any cache. -/
structure Puts (service : Nat) (name : Text) (v : Compiled) (x y : Deployment × List (Act Compiled)) :
    Prop where
  frame : x.1.Frame y.1
  kept : y.2.filterMap Act.kept? = x.2.filterMap Act.kept? ++ [(name, v)]
  caches : ∀ P, x.1.CachesHold (fun k n w => (∀ p, x.1.roster[service]? = some (p, k) → n ≠ name) → P k n w) →
    (∀ p k, x.1.roster[service]? = some (p, k) → P k name v) → y.1.CachesHold P

/-- What is stored is made into a template, and this is put into the cache of a service. -/
structure Lands (p : Pipeline) (name path : Text) (service : Nat) (v : Compiled)
    (x y : Deployment × List (Act Compiled)) : Prop extends Puts service name v x y where
  compiles : (x.1.storage.contents path).bind (p.compiler.compile name) = .ok v

variable {x y z : Deployment × List (Act Compiled)} {service : Nat}

theorem Sheds.refl (x : Deployment × List (Act Compiled)) : Sheds x x := ⟨.refl x.1, rfl, fun _ holds => holds⟩

theorem Sheds.trans (first : Sheds x y) (second : Sheds y z) : Sheds x z :=
  ⟨first.frame.trans second.frame, second.kept.trans first.kept,
    fun P holds => second.caches P (first.caches P holds)⟩

theorem Spares.refl (x : Deployment × List (Act Compiled)) : Spares x x := ⟨.refl x, fun _ => rfl⟩

theorem Spares.trans (first : Spares x y) (second : Spares y z) : Spares x z :=
  ⟨first.toSheds.trans second.toSheds, fun s => (second.entries s).trans (first.entries s)⟩

theorem Puts.trans_sheds {name : Text} {v : Compiled} (puts : Puts service name v x y) (sheds : Sheds y z) :
    Puts service name v x z :=
  ⟨puts.frame.trans sheds.frame, sheds.kept.trans puts.kept,
    fun P others new => sheds.caches P (puts.caches P others new)⟩

theorem Sheds.trans_puts {name : Text} {v : Compiled} (sheds : Sheds x y) (puts : Puts service name v y z) :
    Puts service name v x z where
  frame := sheds.frame.trans puts.frame
  kept := by rw [puts.kept, sheds.kept]
  caches P others new := by
    refine puts.caches P ?_ fun p k is => new p k (sheds.frame.roster ▸ is)
    rw [sheds.frame.roster]
    exact sheds.caches _ others

theorem cacheOf_of_same {d d' : Deployment} (roster : d'.roster = d.roster) (caches : d'.caches = d.caches)
    (service : Nat) : d'.cacheOf service = d.cacheOf service := by
  have at_ := congrArg (fun l => l[service]?.bind fun s => d.caches[s.2]?) roster
  simp only [roster_getElem?, Option.bind_map] at at_
  rw [cacheOf, cacheOf, caches]
  exact congrArg (fun c => c.getD (.empty 0)) at_

/-- A cache may be replaced by one with the same entries. -/
theorem entries_setCache (d : Deployment) {c : Cache Compiled}
    (same : c.entries = (d.cacheOf service).entries) (service' : Nat) :
    ((d.setCache service c).cacheOf service').entries = (d.cacheOf service').entries := by
  rw [setCache]
  cases at_ : d.services[service]? with
  | none => rfl
  | some found =>
    rw [cacheOf, at_, Option.bind_some] at same
    simp only [cacheOf]
    cases d.services[service']? with
    | none => rfl
    | some other =>
      simp only [Option.bind_some, List.getElem?_set]
      by_cases e : found.cache = other.cache
      · rw [if_pos e, ← e]
        by_cases lt : found.cache < d.caches.length
        · rw [if_pos lt]
          exact same
        · rw [if_neg lt, List.getElem?_eq_none (Nat.le_of_not_lt lt)]
      · rw [if_neg e]

theorem sheds_lookup (service : Nat) (name : Text) (x : Deployment × List (Act Compiled)) :
    Sheds x (host.recording.lookup service name x).2 :=
  ⟨x.1.frame_lookup service name, rfl, fun _ holds => holds.lookup service name⟩

theorem sheds_act (service : Nat) {a : Act Compiled} (other : ∀ name v, a ≠ .keep name v)
    (x : Deployment × List (Act Compiled)) : Sheds x (host.recording.act service a x) where
  frame := x.1.frame_act service a
  kept := by
    cases a with
    | keep name v => exact absurd rfl (other name v)
    | _ => exact List.filterMap_append.trans (List.append_nil _)
  caches _ holds := holds.act fun name v _ _ is _ => absurd is (other name v)

theorem spares_act (service : Nat) {a : Act Compiled} (reports : a.reports)
    (x : Deployment × List (Act Compiled)) : Spares x (host.recording.act service a x) where
  toSheds := by
    refine sheds_act service ?_ x
    rintro name v rfl
    exact reports
  entries service' := by
    cases a with
    | note n => rfl
    | count t =>
      have same := cacheOf_of_same (x.1.frame_updateMetrics service t.apply).roster rfl service'
      exact congrArg Cache.entries same
    | miss shown => exact entries_setCache (c := (x.1.cacheOf service).miss) x.1 rfl service'
    | keep | run => exact reports.elim

theorem spares_beginRead (path : Text) (x : Deployment × List (Act Compiled)) :
    Spares x (host.recording.beginRead path x) where
  frame := x.1.frame_beginRead path
  kept := rfl
  caches _ holds := holds.beginRead path
  entries service := by
    change ((x.1.beginRead path).cacheOf service).entries = _
    rw [beginRead]
    cases x.1.storage <;> rfl

theorem spares_serve (path : Text) (x : Deployment × List (Act Compiled)) :
    Spares x (host.recording.serve path x).2 where
  frame := x.1.frame_serve path
  kept := rfl
  caches _ holds := holds.serve path
  entries service := by
    change ((x.1.serve path).2.cacheOf service).entries = _
    rw [serve]
    cases x.1.storage with
    | memory m => rfl
    | files tree =>
      change ((x.1.fileAnswer path (LocalStorage.read tree none path)).2.cacheOf service).entries = _
      cases LocalStorage.read tree none path <;> rfl

theorem puts_keep (service : Nat) (name : Text) (v : Compiled) (x : Deployment × List (Act Compiled)) :
    Puts service name v x (host.recording.act service (.keep name v) x) where
  frame := x.1.frame_keep service name v
  kept := List.filterMap_append
  caches _ others new := CachesHold.replace others new

end Deployment

open Deployment

/-! ### Where requests and loads stand -/

/-- A heedful request where it stops. -/
def Halt.Heeds {β : Type} (served : Pipeline → Prop) : Halt Compiled β → Prop
  | ended _ => True
  | held path next | paused path next => Pipeline.Heedful served (.read path next)
  | sharing name path next => Pipeline.Heedful served (.share name path next)

/-- A heedful request between two of its turns. If it was cancelled, all that is left is to report this. -/
def Standing.Heeds {β : Type} (served : Pipeline → Prop) : Standing Compiled β → Prop
  | fresh r => Pipeline.Heedful served r
  | held path next | passed path next | paused path next => Pipeline.Heedful served (.read path next)
  | waiting _ next | landed _ next => ∃ name path, Pipeline.Heedful served (.share name path next)
  | resumed r => r.Concedes
  | ended _ => True

/-- A load between two of its turns, with what goes on after it. If it was cancelled, all that is left is to
report this. -/
inductive Standing.OfLoad {β : Type} (p : Pipeline) (name path : Text)
    (k : Except Failure Compiled → Pipeline.Request β) : Standing Compiled β → Prop where
  | fresh : OfLoad p name path k (.fresh ((p.load name path).onEnd k))
  | held : OfLoad p name path k (.held path fun source => (p.loaded name source).onEnd k)
  | passed : OfLoad p name path k (.passed path fun source => (p.loaded name source).onEnd k)
  | paused : OfLoad p name path k (.paused path fun source => (p.loaded name source).onEnd k)
  | resumed {r : Pipeline.Request β} (concedes : r.Concedes) : OfLoad p name path k (.resumed r)

/-- A load stops without success: it has failed, or it waits for its source. -/
inductive Halt.OfLoad {β : Type} (p : Pipeline) (name path : Text)
    (k : Except Failure Compiled → Pipeline.Request β) : Halt Compiled β → Prop where
  | ended (f : Failure) : OfLoad p name path k (.ended (.error f))
  | held : OfLoad p name path k (.held path fun source => (p.loaded name source).onEnd k)
  | paused : OfLoad p name path k (.paused path fun source => (p.loaded name source).onEnd k)

/-- A routine that waits for the answer of a read and was not cancelled. -/
inductive Standing.Reads {β : Type} (path : Text) : Standing Compiled β → Bool → Prop where
  | intro (next : Except Failure Bytes → Pipeline.Request β) : Reads path (.paused path next) false

theorem Halt.Heeds.standing {β : Type} {served : Pipeline → Prop} {halt : Halt Compiled β}
    (heeds : halt.Heeds served) (l : Nat) : (halt.standing l).Heeds served := by
  cases halt with
  | sharing name path next => exact ⟨name, path, heeds⟩
  | ended | held | paused => exact heeds

section

variable {β : Type} {served : Pipeline → Prop} {service : Nat} {landed : Text → Option (Except Failure Compiled)}
  {halt : Halt Compiled β} {x y : Deployment × List (Act Compiled)}

/-- Who concedes does so at once. -/
theorem Routine.Concedes.advance {r : Routine Compiled β} (concedes : r.Concedes)
    (runs : host.recording.advance service landed r x = (halt, y)) :
    (∃ f, halt = .ended (.error f)) ∧ Spares x y := by
  induction r generalizing x with
  | finish o =>
    cases o with
    | ok a => exact concedes.elim
    | error f =>
      cases runs
      exact ⟨⟨f, rfl⟩, .refl _⟩
  | act a next ih =>
    obtain ⟨ends, spares⟩ := ih concedes.2 runs
    exact ⟨ends, (spares_act service concedes.1 x).trans spares⟩
  | lookup | read | share => exact concedes.elim

/-- A heedful request puts nothing into the caches before it has read something. -/
theorem Pipeline.Heedful.advance {r : Pipeline.Request β} (heedful : Heedful served r)
    (runs : host.recording.advance service landed r x = (halt, y)) : halt.Heeds served ∧ Sheds x y := by
  induction heedful generalizing x with
  | finish o =>
    cases runs
    exact ⟨trivial, .refl _⟩
  | @lookup name next _ ih =>
    obtain ⟨heeds, sheds⟩ := ih _ runs
    exact ⟨heeds, (sheds_lookup service name x).trans sheds⟩
  | act other _ ih =>
    obtain ⟨heeds, sheds⟩ := ih runs
    exact ⟨heeds, (sheds_act service other x).trans sheds⟩
  | load is known concedes goes =>
    rw [Host.advance] at runs
    split at runs
    · cases runs
      exact ⟨.load is known concedes goes, .refl _⟩
    · cases runs
      exact ⟨.load is known concedes goes, (spares_beginRead _ x).toSheds⟩
  | @share p name path k is known concedes goes ih =>
    rw [Host.advance] at runs
    split at runs
    · next o _ =>
      have joined := (spares_act service (a := .note (.joined name)) trivial x).toSheds
      cases o with
      | ok v =>
        obtain ⟨heeds, sheds⟩ := ih v runs
        exact ⟨heeds, joined.trans sheds⟩
      | error f =>
        obtain ⟨⟨_, rfl⟩, spares⟩ := (concedes f).advance runs
        exact ⟨trivial, joined.trans spares.toSheds⟩
    · cases runs
      exact ⟨.share is known concedes goes, .refl _⟩

/-- What is read is what is stored. -/
private theorem serve_recording (path : Text) (x : Deployment × List (Act Compiled)) :
    (host.recording.serve path x).1 = x.1.storage.contents path :=
  congrFun x.1.host_contents path

/-- A load that succeeds puts its template into the cache before anything else is done. -/
private theorem advance_loaded {p : Pipeline} {name : Text} {source : Except Failure Bytes} {v : Compiled}
    {k : Except Failure Compiled → Pipeline.Request β}
    (compiles : source.bind (p.compiler.compile name) = .ok v)
    (runs : host.recording.advance service landed ((p.loaded name source).onEnd k) x = (halt, y)) :
    ∃ z, Puts service name v x z ∧ host.recording.advance service landed (k (.ok v)) z = (halt, y) := by
  rw [Pipeline.loaded_of_ok compiles] at runs
  refine ⟨_, Sheds.trans_puts ?_ (puts_keep service name v _), runs⟩
  have noted := spares_act service (a := .note (.compiled name v.static)) trivial x
  exact (noted.trans (spares_act service (a := .count .compile) trivial _)).toSheds

/-- A load that begins leaves the caches as they are, and waits for its source. -/
theorem advance_load {p : Pipeline} {name path : Text} {k : Except Failure Compiled → Pipeline.Request β}
    (runs : host.recording.advance service landed ((p.load name path).onEnd k) x = (halt, y)) :
    halt.OfLoad p name path k ∧ Spares x y := by
  rw [Pipeline.load_eq] at runs
  have begun := (spares_act service (a := .note (.fetching name path)) trivial x).trans
    (spares_act service (a := .count .fetch) trivial _)
  simp only [Routine.onEnd, Host.advance] at runs
  split at runs
  · cases runs
    exact ⟨.held, begun⟩
  · cases runs
    exact ⟨.paused, begun.trans (spares_beginRead path _)⟩

/-- **The turn of a load**: the caches are left as they are, or the load succeeds and puts its template
there. -/
theorem Standing.OfLoad.turn {p : Pipeline} {name path : Text}
    {k : Except Failure Compiled → Pipeline.Request β} (concedes : ∀ f, (k (.error f)).Concedes)
    {st : Standing Compiled β} {c : Bool} (ofLoad : st.OfLoad p name path k)
    (goes : host.recording.turn service landed c st x = some (halt, y)) :
    halt.OfLoad p name path k ∧ Spares x y ∨ ∃ v z,
      (x.1.storage.contents path).bind (p.compiler.compile name) = .ok v ∧ c = false ∧
        st = .paused path (fun source => (p.loaded name source).onEnd k) ∧ Puts service name v x z ∧
          host.recording.advance service landed (k (.ok v)) z = (halt, y) := by
  have fails {r : Pipeline.Request β} {z} (concedes : r.Concedes) (spares : Spares x z)
      (runs : host.recording.advance service landed r z = (halt, y)) :
      halt.OfLoad p name path k ∧ Spares x y := by
    obtain ⟨⟨f, rfl⟩, spares'⟩ := concedes.advance runs
    exact ⟨.ended f, spares.trans spares'⟩
  cases ofLoad with
  | fresh =>
    left
    cases c with
    | true =>
      cases goes
      exact ⟨.ended .cancelled, .refl x⟩
    | false => exact advance_load (Option.some.inj goes)
  | held => cases goes
  | passed =>
    left
    cases c with
    | true => exact fails (concedes .cancelled) (.refl x) (Option.some.inj goes)
    | false =>
      cases goes
      exact ⟨.paused, spares_beginRead path x⟩
  | paused =>
    cases c with
    | true => exact .inl (fails (concedes .cancelled) (.refl x) (Option.some.inj goes))
    | false =>
      replace goes := Option.some.inj goes
      dsimp only at goes
      rw [serve_recording] at goes
      cases compiles : (x.1.storage.contents path).bind (p.compiler.compile name) with
      | error f =>
        rw [Pipeline.loaded_of_error compiles] at goes
        exact .inl (fails (concedes f) (spares_serve path x) goes)
      | ok v =>
        obtain ⟨z, puts, goes⟩ := advance_loaded compiles goes
        exact .inr ⟨v, z, rfl, rfl, rfl, (spares_serve path x).toSheds.trans_puts puts, goes⟩
  | resumed concedes => exact .inl (fails concedes (.refl x) (Option.some.inj goes))

/-- A request at a turn in the course of a load or at its end, or at which it learns that it was cancelled. -/
inductive Standing.Loads : Standing Compiled β → Bool → Prop where
  | passed (path : Text) (next : Except Failure Bytes → Pipeline.Request β) (c : Bool) : Loads (.passed path next) c
  | paused (path : Text) (next : Except Failure Bytes → Pipeline.Request β) (c : Bool) : Loads (.paused path next) c
  | resumed (r : Pipeline.Request β) (c : Bool) : Loads (.resumed r) c
  | failed (f : Failure) (next : Except Failure Compiled → Pipeline.Request β) (c : Bool) :
      Loads (.landed (.error f) next) c
  | cancelled (st : Standing Compiled β) : Loads st true

/-- A heedful request goes on with what is heedful, or it gives up, or it is in the course of a load. -/
private theorem Standing.Heeds.goes_on {st : Standing Compiled β} {c : Bool} (heeds : st.Heeds served)
    (goes : host.recording.turn service landed c st x = some (halt, y)) :
    (¬st.Loads c ∧ ∃ r, Pipeline.Heedful served r ∧ host.recording.advance service landed r x = (halt, y)) ∨
      (∃ r : Pipeline.Request β, r.Concedes ∧ host.recording.advance service landed r x = (halt, y)) ∨
      ∃ p name path k, served p ∧ path ∈ p.pathsOf name ∧ (∀ f, (k (.error f)).Concedes) ∧
        (∀ v, Pipeline.Heedful served (k (.ok v))) ∧ st.OfLoad p name path k := by
  cases st with
  | fresh r =>
    cases c with
    | true => exact .inr (.inl ⟨.fail .cancelled, trivial, Option.some.inj goes⟩)
    | false => exact .inl ⟨(nomatch ·), r, heeds, Option.some.inj goes⟩
  | passed path next =>
    cases heeds with
    | load is known concedes next => exact .inr (.inr ⟨_, _, _, _, is, known, concedes, next, .passed⟩)
  | paused path next =>
    cases heeds with
    | load is known concedes next => exact .inr (.inr ⟨_, _, _, _, is, known, concedes, next, .paused⟩)
  | landed o next =>
    obtain ⟨name, path, shares⟩ := heeds
    cases shares with
    | share is known concedes next =>
      cases c with
      | true => exact .inr (.inl ⟨_, concedes .cancelled, Option.some.inj goes⟩)
      | false =>
        cases o with
        | ok v => exact .inl ⟨(nomatch ·), _, next v, Option.some.inj goes⟩
        | error f => exact .inr (.inl ⟨_, concedes f, Option.some.inj goes⟩)
  | resumed r => exact .inr (.inl ⟨r, heeds, Option.some.inj goes⟩)
  | held | waiting | ended => cases goes

/-- **The turn of a heedful request**: it puts nothing into the caches, and it leaves them as they are if it is
in the course of a load, unless this succeeds at that turn. -/
theorem Standing.Heeds.turn {st : Standing Compiled β} {c : Bool} (heeds : st.Heeds served)
    (goes : host.recording.turn service landed c st x = some (halt, y)) :
    halt.Heeds served ∧ (Sheds x y ∧ (st.Loads c → Spares x y) ∨
      ∃ p name path v, served p ∧ path ∈ p.pathsOf name ∧ st.Reads path c ∧ Lands p name path service v x y) := by
  obtain ⟨unread, r, heedful, runs⟩ | ⟨r, concedes, runs⟩ |
    ⟨p, name, path, k, is, known, concedes, next, ofLoad⟩ := heeds.goes_on goes
  · obtain ⟨heeds, sheds⟩ := heedful.advance runs
    exact ⟨heeds, .inl ⟨sheds, fun loads => absurd loads unread⟩⟩
  · obtain ⟨⟨f, rfl⟩, spares⟩ := concedes.advance runs
    exact ⟨trivial, .inl ⟨spares.toSheds, fun _ => spares⟩⟩
  · obtain ⟨stops, spares⟩ | ⟨v, z, compiles, rfl, rfl, puts, runs⟩ := ofLoad.turn concedes goes
    · refine ⟨?_, .inl ⟨spares.toSheds, fun _ => spares⟩⟩
      cases stops with
      | ended f => trivial
      | held | paused => exact .load is known concedes next
    · obtain ⟨heeds, sheds⟩ := (next v).advance runs
      exact ⟨heeds, .inr ⟨p, name, path, v, is, known, .intro _, puts.trans_sheds sheds, compiles⟩⟩

end

/-! ### Jobs -/

/-- A job that does what it should: a heedful request, or the load of a name from where it may be. -/
def Work.Heeds (served : Pipeline → Prop) : Work Compiled Bytes → Prop
  | request st => st.Heeds served
  | load name st _ => (∃ o, st = .ended o) ∨
      ∃ p path, served p ∧ path ∈ p.pathsOf name ∧ st.OfLoad p name path .finish

/-- A job that is a load, or a request at a turn in the course of a load. -/
inductive Job.Loads : Job Compiled Bytes → Prop where
  | load (service : Nat) (name : Text) (st : Standing Compiled Compiled) (waiters : List Nat) (c : Bool) :
      Loads ⟨service, .load name st waiters, c⟩
  | request (service : Nat) {st : Standing Compiled Bytes} {c : Bool} (loads : st.Loads c) :
      Loads ⟨service, .request st, c⟩

/-- A job that waits for the answer of a read and was not cancelled. If it is a load, it is for this name. -/
inductive Job.Reads (name path : Text) : Job Compiled Bytes → Prop where
  | load (service : Nat) {st : Standing Compiled Compiled} (waiters : List Nat) {c : Bool}
      (reads : st.Reads path c) : Reads name path ⟨service, .load name st waiters, c⟩
  | request (service : Nat) {st : Standing Compiled Bytes} {c : Bool} (reads : st.Reads path c) :
      Reads name path ⟨service, .request st, c⟩

section

variable {β : Type} {wrap : Standing Compiled β → Work Compiled Bytes} {served : Pipeline → Prop} {service : Nat}
  {landed : Text → Option (Except Failure Compiled)} {st : Standing Compiled β} {c : Bool} {halt : Halt Compiled β}
  {x y : Deployment × List (Act Compiled)}

/-- **The turn of a job** puts nothing into the caches but the template of a load that succeeds, and leaves them
as they are in the course of a load that does not. -/
theorem Work.Heeds.turn (seat : Seat Compiled Bytes β wrap) (heeds : (wrap st).Heeds served)
    (goes : host.recording.turn service landed c st x = some (halt, y)) :
    (∀ l, (wrap (halt.standing l)).Heeds served) ∧
      (∀ name path next, halt = .sharing name path next → ∃ p, served p ∧ path ∈ p.pathsOf name) ∧
      (Sheds x y ∧ ((⟨service, wrap st, c⟩ : Job Compiled Bytes).Loads → Spares x y) ∨
        ∃ p name path v, served p ∧ path ∈ p.pathsOf name ∧
          (⟨service, wrap st, c⟩ : Job Compiled Bytes).Reads name path ∧
          Lands p name path service v x y) := by
  cases seat with
  | request =>
    obtain ⟨heeds, puts⟩ := Standing.Heeds.turn heeds goes
    refine ⟨heeds.standing, ?_, puts.imp (fun kept => ⟨kept.1, ?_⟩) ?_⟩
    · rintro name path next rfl
      cases heeds with
      | share is known _ _ => exact ⟨_, is, known⟩
    · intro loads
      cases loads with
      | request _ loads => exact kept.2 loads
    · rintro ⟨p, name, path, v, is, known, reads, lands⟩
      exact ⟨p, name, path, v, is, known, .request service reads, lands⟩
  | load name waiters =>
    obtain ⟨o, rfl⟩ | ⟨p, path, is, known, ofLoad⟩ := heeds
    · cases goes
    · obtain ⟨stops, spares⟩ | ⟨v, z, compiles, rfl, rfl, puts, runs⟩ := Standing.OfLoad.turn (k := .finish) (fun _ => trivial) ofLoad goes
      · refine ⟨fun l => ?_, ?_, .inl ⟨spares.toSheds, fun _ => spares⟩⟩
        · cases stops with
          | ended f => exact .inl ⟨_, rfl⟩
          | held => exact .inr ⟨p, path, is, known, .held⟩
          | paused => exact .inr ⟨p, path, is, known, .paused⟩
        · rintro _ _ _ rfl
          cases stops
      · cases runs
        exact ⟨fun l => .inl ⟨_, rfl⟩, nofun, .inr ⟨p, name, path, v, is, known,
          .load service waiters (.intro _), puts, compiles⟩⟩

theorem Work.Heeds.frame (seat : Seat Compiled Bytes β wrap) (heeds : (wrap st).Heeds served)
    (goes : host.recording.turn service landed c st x = some (halt, y)) : x.1.Frame y.1 := by
  obtain ⟨_, _, ⟨sheds, _⟩ | ⟨_, _, _, _, _, _, _, lands⟩⟩ := heeds.turn seat goes
  · exact sheds.frame
  · exact lands.frame

end

/-- **What a job leaves at its turn** has nothing new in the caches but the template of a load that succeeds. -/
theorem Job.leaves_of_heeds {s : Session} {served : Pipeline → Prop} {job : Job Compiled Bytes}
    {y : Deployment × List (Act Compiled)} (heeds : job.work.Heeds served)
    (leaves : s.unrecorded.Leaves host.recording job y) :
    Sheds (s.state, []) y ∧ (job.Loads → Spares (s.state, []) y) ∨
      ∃ p name path v, served p ∧ path ∈ p.pathsOf name ∧ job.Reads name path ∧
        Lands p name path job.service v (s.state, []) y := by
  obtain ⟨service, work, c⟩ := job
  cases leaves with
  | stopped seat is goes =>
    obtain rfl : work = _ := is
    exact (Work.Heeds.turn seat heeds goes).2.2
  | @joined _ _ _ _ x _ seat is name goes =>
    obtain rfl : work = _ := is
    -- who joins reports this, and nothing else
    have joins := spares_act service (a := .note (.joined name)) trivial x
    obtain ⟨sheds, spares⟩ | ⟨p, name, path, v, is, known, reads, lands⟩ :=
      (Work.Heeds.turn seat heeds goes).2.2
    · exact .inl ⟨sheds.trans joins.toSheds, fun loads => (spares loads).trans joins⟩
    · exact .inr ⟨p, name, path, v, is, known, reads, lands.toPuts.trans_sheds joins.toSheds, lands.compiles⟩

namespace Session

variable {services : List (Pipeline × Nat)}

/-- These are the services, and they read from a storage in memory. -/
structure InMemory (services : List (Pipeline × Nat)) (d : Deployment) : Prop where
  roster : d.roster = services
  memory : d.storage.isMemory = true

theorem InMemory.of_frame {d d' : Deployment} (inMemory : InMemory services d) (frame : d.Frame d') :
    InMemory services d' :=
  ⟨frame.roster.trans inMemory.roster, frame.memory.trans inMemory.memory⟩

/-- Who is interrupted in a load or while it waits for one has nothing left to do but to report this. -/
private theorem heeds_interrupted {served : Pipeline → Prop} {β : Type}
    {wrap : Standing Compiled β → Work Compiled Bytes} {st st' : Standing Compiled β}
    (seat : Seat Compiled Bytes β wrap) (heeds : (wrap st).Heeds served) (goes : st.interrupt? = some st') :
    (wrap st').Heeds served := by
  cases seat with
  | request =>
    cases st with
    | held path next =>
      obtain rfl := Option.some.inj goes
      cases heeds with
      | load _ _ concedes _ => exact concedes .cancelled
    | waiting l next =>
      obtain rfl := Option.some.inj goes
      obtain ⟨name, path, shares⟩ := heeds
      cases shares with
      | share _ _ concedes _ => exact concedes .cancelled
    | _ => cases goes
  | load name waiters =>
    obtain ⟨o, rfl⟩ | ⟨p, path, is, known, ofLoad⟩ := heeds
    · cases goes
    · cases ofLoad with
      | held =>
        obtain rfl := Option.some.inj goes
        exact .inr ⟨p, path, is, known, .resumed trivial⟩
      | _ => cases goes

/-- **All jobs do what they should**, as long as what is asked for does. -/
theorem pervades_heeds : Scheduler.Pervades Deployment.host (InMemory services)
    fun service (w : Work Compiled Bytes) _ => w.Heeds fun p => ∃ k, services[service]? = some (p, k) where
  lasts service := {
    bare {w w' _} same heeds := by
      cases w with
      | request st =>
        obtain rfl := Work.bare_eq_request.mp same
        exact heeds
      | load name st waiters =>
        cases w' with
        | request st' => cases same
        | load name' st' waiters' =>
          cases same
          exact heeds
    acts l seat heeds goes := by
      obtain ⟨_, goes⟩ := Host.exists_recording goes
      exact (heeds.turn seat goes).1 l
    told l o seat heeds := by
      cases seat with
      | request => exact heeds
      | load name waiters =>
        obtain ⟨_, is⟩ | ⟨_, _, _, _, ofLoad⟩ := heeds
        · cases is
        · cases ofLoad
    passes seat heeds := by
      cases seat with
      | request => exact heeds
      | load name waiters =>
        obtain ⟨_, is⟩ | ⟨p, path, is, known, ofLoad⟩ := heeds
        · cases is
        · cases ofLoad
          exact .inr ⟨p, _, is, known, .passed⟩ }
  interrupted := heeds_interrupted
  flagged heeds := heeds
  acts seat inMemory heeds goes := by
    obtain ⟨_, goes⟩ := Host.exists_recording goes
    exact inMemory.of_frame (heeds.frame seat goes)
  joined name inMemory := ⟨inMemory.roster, inMemory.memory⟩
  starts {service _ _ _ _ _ _ y name path _} id seat inMemory heeds goes := by
    obtain ⟨_, goes⟩ := Host.exists_recording goes
    obtain ⟨p, ⟨k, served⟩, known⟩ := (heeds.turn seat goes).2.1 name path _ rfl
    refine .inr ⟨p, path, ⟨k, served⟩, known, ?_⟩
    have begun : (Standing.fresh (p.load name path)).OfLoad p name path .finish := by
      rw [← Routine.onEnd_finish (p.load name path)]
      exact .fresh
    have served' : y.roster[service]? = some (p, k) := by
      rw [(heeds.frame seat goes).roster, inMemory.roster, served]
    rwa [← Deployment.load_of_served served'] at begun

/-- All jobs of a session with these services do what they should. -/
abbrev Heedful (services : List (Pipeline × Nat)) (s : Session) : Prop :=
  s.Everywhere (InMemory services) fun service w _ =>
    w.Heeds fun p => ∃ k, services[service]? = some (p, k)

theorem heedful_start {d : Deployment} (inMemory : InMemory services d) : (start d).Heedful services :=
  ⟨inMemory, fun _ _ => nofun⟩

variable {s : Session}

/-- What is asked for does what it should. -/
theorem Heedful.routine (heedful : s.Heedful services) (service : Nat) (r : Request) :
    Pipeline.Heedful (fun p => ∃ k, services[service]? = some (p, k)) (s.routine service r) := by
  refine closed_routine .finish (fun found at_ => Pipeline.closed_heedful ⟨found.cache, ?_⟩) r
  rw [← heedful.state.roster, Deployment.roster_getElem?, at_]
  rfl

/-- What comes from outside leaves the services as they are, and puts nothing into a cache. -/
theorem Incident.Effect.keeps {d d' : Deployment} {i : Incident} (effect : i.Effect d d') :
    d'.roster = d.roster ∧ d'.storage.isMemory = d.storage.isMemory ∧
      ∀ P, d.CachesHold P → d'.CachesHold P := by
  have stores (f : MemoryStorage → MemoryStorage) : (d.updateMemory f).roster = d.roster ∧
      (d.updateMemory f).storage.isMemory = d.storage.isMemory ∧
        ∀ P, d.CachesHold P → (d.updateMemory f).CachesHold P := by
    obtain ⟨roster, caches, memory, _⟩ := d.updateMemory_same f
    refine ⟨roster, memory, fun P holds => ?_⟩
    rw [CachesHold, caches]
    exact holds
  cases effect with
  | failing f => exact stores _
  | operation effect =>
    cases effect with
    | invalidate service name =>
      have frame := d.frame_invalidate service name
      exact ⟨frame.roster, frame.memory, fun P holds => holds.invalidate fun _ _ _ _ held => held⟩
    | clear service =>
      have frame := d.frame_clear service
      exact ⟨frame.roster, frame.memory, fun P holds => holds.clear service⟩
    | add path content => exact stores _
    | remove path => exact stores _
    | hold | release => exact ⟨rfl, rfl, fun P holds => holds⟩

/-- **All jobs do what they should** after whatever happens. -/
theorem Heedful.meet (heedful : s.Heedful services) (i : Incident) : (s.meet i).Heedful services := by
  have updated {f : Deployment → Deployment} (events : i.events s = [.update f])
      (effect : i.Effect s.state (f s.state)) : (s.meet i).Heedful services := by
    rw [Session.meet, events]
    refine heedful.after pervades_heeds (e := .update f) ⟨?_, ?_⟩
    · exact effect.keeps.1.trans heedful.state.roster
    · exact effect.keeps.2.1.trans heedful.state.memory
  cases i with
  | failing f => exact updated rfl (.failing f)
  | operation op =>
    cases op with
    | step => exact heedful.after pervades_heeds (e := .step) trivial
    | submit service r =>
      exact heedful.after pervades_heeds (e := .submit service _) (heedful.routine service r)
    | start service r =>
      exact heedful.after pervades_heeds (e := .start service _) (heedful.routine service r)
    | cancel id =>
      rw [Session.meet, Incident.events, Operation.events]
      split
      · exact heedful.after pervades_heeds (e := .cancel id) trivial
      · exact heedful
    | invalidate service name => exact updated rfl (.operation (.invalidate service name))
    | clear service => exact updated rfl (.operation (.clear service))
    | add path content => exact updated rfl (.operation (.add path content))
    | remove path => exact updated rfl (.operation (.remove path))
    | hold => exact updated rfl (.operation .hold)
    | release =>
      have opened := heedful.after pervades_heeds (e := .update fun d => { d with held := false })
        ⟨heedful.state.roster, heedful.state.memory⟩
      exact opened.after pervades_heeds (e := .openGate) trivial

end Session

end Stencil
