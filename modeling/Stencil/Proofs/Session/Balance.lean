import Stencil.Proofs.Session.Counters
import Stencil.Proofs.Session.Service

/-!
# The balance of a service

Whatever a service counts it counts right where it happens: a name is found or not, a template is kept. A name that is
not found is read for at once, or the load of somebody else is joined, or a load is created that has yet to start. So
at any moment the lookups that found nothing are as many as the reads, the joined loads and the loads that have not
started.

## Main definitions

- `Deed.found`, `Deed.absent`, `Deed.refused`, `Deed.kept`, `Deed.joined`, `Deed.begun` — kinds of deeds
- `Deed.Tallied` — what is counted was done
- `Work.unstarted`, `Work.underWay` — loads that have not started, and jobs that may be about to keep a template
- `Session.Balanced` — the balance of some of the services

## Main results

- `Standing.Stirs.tallied`, `Standing.Stirs.flows`, `Standing.Stirs.bounds` — the balance of a turn
- `Session.balanced_undergo` — the balance of a run
-/

namespace Stencil

open Deployment

/-! ### Kinds of deeds -/

namespace Deed

variable {V : Type}

def counts (t : Tally) (d : Deed V) : Bool :=
  d.counted? == some t

/-- A name is looked up and found. -/
def found : Deed V → Bool
  | lookup _ v => v.isSome
  | act _ | join _ | begin _ | serve .. => false

/-- A name is looked up and not found. -/
def absent : Deed V → Bool
  | lookup _ v => v.isNone
  | act _ | join _ | begin _ | serve .. => false

/-- Something is looked up that can be no name. -/
def refused : Deed V → Bool
  | act (.miss _) => true
  | act _ | lookup .. | join _ | begin _ | serve .. => false

/-- A template is put into the cache. -/
def kept : Deed V → Bool
  | act (.keep ..) => true
  | act _ | lookup .. | join _ | begin _ | serve .. => false

/-- A load in flight is joined. -/
def joined : Deed V → Bool
  | join _ => true
  | act _ | lookup .. | begin _ | serve .. => false

/-- A read begins. -/
def begun : Deed V → Bool
  | begin _ => true
  | act _ | lookup .. | join _ | serve .. => false

/-- What is counted was done, and how often some of it was. -/
structure Sums (ds : List (Deed V)) (absent joined fetched kept begun : Nat) : Prop where
  hits : ds.countP (counts .hit) = ds.countP found
  misses : ds.countP (counts .miss) = ds.countP Deed.absent + ds.countP refused
  compiles : ds.countP (counts .compile) = ds.countP Deed.kept
  absent : ds.countP Deed.absent = absent
  joined : ds.countP Deed.joined = joined
  fetched : ds.countP (counts .fetch) = fetched
  kept : ds.countP Deed.kept = kept
  begun : ds.countP Deed.begun = begun

theorem Sums.append {ds ds' : List (Deed V)} {a a' j j' f f' k k' b b' : Nat} (sums : Sums ds a j f k b)
    (sums' : Sums ds' a' j' f' k' b') : Sums (ds ++ ds') (a + a') (j + j') (f + f') (k + k') (b + b') where
  hits := by rw [List.countP_append, List.countP_append, sums.hits, sums'.hits]
  misses := by
    have here := sums.misses
    have there := sums'.misses
    simp only [List.countP_append]
    omega
  compiles := by rw [List.countP_append, List.countP_append, sums.compiles, sums'.compiles]
  absent := by rw [List.countP_append, sums.absent, sums'.absent]
  joined := by rw [List.countP_append, sums.joined, sums'.joined]
  fetched := by rw [List.countP_append, sums.fetched, sums'.fetched]
  kept := by rw [List.countP_append, sums.kept, sums'.kept]
  begun := by rw [List.countP_append, sums.begun, sums'.begun]

theorem Sums.nil : Sums (V := V) [] 0 0 0 0 0 := by
  constructor <;> rfl

end Deed

section

variable {β : Type} {p : Pipeline} {ends : List (Act Compiled) → Except Failure β → Prop} {known more : Compiled → Prop}
  {missing : Text → Prop} {ds : List (Deed Compiled)}

open Deed

theorem Deed.sums_plain {a : Act Compiled} (plain : a.Plain) : Sums [.act a] 0 0 0 0 0 := by
  cases a with
  | note => constructor <;> rfl
  | count t => cases t <;> first | exact plain.elim | (constructor <;> rfl)
  | keep | miss | run => exact plain.elim

/-- A request that goes on without waiting finds what it looks up, or joins a load. -/
theorem Pipeline.Walks.sums (walks : p.Walks known missing ds) :
    ∃ n, Sums ds n n 0 0 0 ∧ (p.singleFlight = false → n = 0) := by
  have adds {ds : List (Deed Compiled)} (pre : List (Deed Compiled)) (k : Nat) (first : Sums pre k k 0 0 0)
      (alone : p.singleFlight = false → k = 0) (rest : ∃ n, Sums ds n n 0 0 0 ∧ (p.singleFlight = false → n = 0)) :
      ∃ n, Sums (pre ++ ds) n n 0 0 0 ∧ (p.singleFlight = false → n = 0) := by
    obtain ⟨n, sums, none⟩ := rest
    exact ⟨k + n, first.append sums, fun is => by rw [alone is, none is]⟩
  induction walks with
  | nil => exact ⟨0, .nil, fun _ => rfl⟩
  | act plain _ ih => exact adds [.act _] 0 (sums_plain plain) (fun _ => rfl) ih
  | @run v _ _ _ ih => exact adds [.act (.run v)] 0 (by constructor <;> rfl) (fun _ => rfl) ih
  | miss shown _ ih =>
    exact adds [.act (.miss shown), .act (.count .miss)] 0 (by constructor <;> rfl) (fun _ => rfl) ih
  | hit name v _ ih =>
    exact adds [.lookup name (some v), .act (.count .hit)] 0 (by constructor <;> rfl) (fun _ => rfl) ih
  | @join name _ shared _ _ ih =>
    refine adds [.lookup name none, .act (.count .miss), .join name] 1 (by constructor <;> rfl) ?_ ih
    exact fun alone => absurd (shared.symm.trans alone) Bool.noConfusion

/-- A routine that has not begun. -/
def Standing.isFresh {V : Type} : Standing V β → Bool
  | .fresh _ => true
  | .held .. | .passed .. | .paused .. | .waiting .. | .landed .. | .resumed _ | .ended _ => false

/-- A routine that has begun and not ended. -/
def Standing.underWay {V : Type} : Standing V β → Bool
  | .fresh _ | .ended _ => false
  | .held .. | .passed .. | .paused .. | .waiting .. | .landed .. | .resumed _ => true

/-- A routine that is held at the gate, or has just passed it. -/
def Standing.atGate {V : Type} : Standing V β → Bool
  | .held .. | .passed .. => true
  | .fresh _ | .paused .. | .waiting .. | .landed .. | .resumed _ | .ended _ => false

/-- Whether a routine stops to have a name loaded, as a number. -/
def Halt.asks {V : Type} : Halt V β → Nat
  | .sharing .. => 1
  | .ended _ | .held .. | .paused .. => 0

/-- A request takes up its answer without looking anything up. At most it keeps what it has loaded. -/
theorem Standing.Leads.sums {st : Standing Compiled β} {c : Bool} (leads : st.Leads p known c ds more) :
    ∃ k, Sums ds 0 0 0 k 0 ∧ k ≤ st.underWay.toNat ∧ (p.singleFlight = true → k = 0) := by
  cases leads with
  | lands path next alone =>
    refine ⟨1, by constructor <;> rfl, le_rfl, fun shared => ?_⟩
    exact absurd (shared.symm.trans alone) Bool.noConfusion
  | fails => exact ⟨0, by constructor <;> rfl, Nat.zero_le _, fun _ => rfl⟩
  | fresh | passed | interrupted | landed | resumed => exact ⟨0, .nil, Nat.zero_le _, fun _ => rfl⟩

theorem Request.sums_closing (r : Request) (o : Except Failure Bytes) :
    Sums ((r.closing o).map .act) 0 0 0 0 0 := by
  cases o with
  | ok b => exact .nil
  | error f =>
    rw [closing]
    split
    · constructor <;> rfl
    · exact .nil

/-- Where a request stops because a name was not found, it has that read, or asks for a load. -/
theorem Pipeline.Stops.sums {r : Stencil.Request} {halt : Halt Compiled Bytes} (stops : p.Stops r.Ends known missing ds halt)
    (l : Nat) : ∃ f b, Sums ds (f + halt.asks) 0 f 0 b ∧ (if p.singleFlight then f = 0 else halt.asks = 0) ∧
      (p.singleFlight = false → (halt.standing l).underWay.toNat ≤ f) ∧ ((halt.standing l).atGate = false → b = f) := by
  cases stops with
  | @ended acts o is =>
    rw [show acts = r.closing o from is]
    refine ⟨0, 0, r.sums_closing o, ?_, fun _ => le_rfl, fun _ => rfl⟩
    split <;> rfl
  | shares shared =>
    refine ⟨0, 0, by constructor <;> rfl, ?_, fun alone => ?_, fun _ => rfl⟩
    · rw [if_pos shared]
    · exact absurd (shared.symm.trans alone) Bool.noConfusion
  | held alone =>
    refine ⟨1, 0, by constructor <;> rfl, ?_, fun _ => le_rfl, fun open_ => Bool.noConfusion open_⟩
    rw [alone]
    rfl
  | paused alone =>
    refine ⟨1, 1, by constructor <;> rfl, ?_, fun _ => le_rfl, fun _ => rfl⟩
    rw [alone]
    rfl

/-- **The balance of the turn of a request.** What was not found was read or is about to be loaded, and what is kept
was read before. -/
theorem Standing.Turns.sums {st : Standing Compiled Bytes} {c : Bool} {r : Request} {halt : Halt Compiled Bytes}
    (turns : st.Turns p r.Ends known missing c ds halt) (l : Nat) :
    ∃ j f k b, Sums ds (j + f + halt.asks) j f k b ∧
      (if p.singleFlight then f = 0 ∧ k = 0 else j = 0 ∧ halt.asks = 0) ∧
      (p.singleFlight = false → k + (halt.standing l).underWay.toNat ≤ f + st.underWay.toNat) ∧
      (st.atGate = false → (halt.standing l).atGate = false → b = f) := by
  cases turns with
  | dropped r =>
    refine ⟨0, 0, 0, 0, .nil, ?_, fun _ => le_rfl, fun _ _ => rfl⟩
    split <;> exact ⟨rfl, rfl⟩
  | begins alone =>
    refine ⟨0, 0, 0, 1, by constructor <;> rfl, ?_, fun _ => le_rfl, fun open_ => Bool.noConfusion open_⟩
    rw [alone]
    exact ⟨rfl, rfl⟩
  | strides leads strides =>
    obtain ⟨walk, stop, rfl, walks, stops⟩ := strides
    obtain ⟨k, led, most, keeps⟩ := leads.sums
    obtain ⟨j, walked, none⟩ := walks.sums
    obtain ⟨f, b, stopped, mode, under, reads⟩ := stops.sums l
    refine ⟨j, f, k, b, ?_, ?_, fun alone => ?_, fun _ => reads⟩
    · have all := led.append (walked.append stopped)
      simp only [Nat.zero_add, Nat.add_zero] at all
      rwa [← Nat.add_assoc] at all
    · cases single : p.singleFlight with
      | true =>
        rw [single] at mode
        exact ⟨mode, keeps single⟩
      | false =>
        rw [single] at mode
        exact ⟨none single, mode⟩
    · have under := under alone
      omega

/-- **The balance of the turn of a load.** It reads once, when it starts. -/
theorem Standing.Loading.sums {name path : Text} {st : Standing Compiled Compiled} {halt : Halt Compiled Compiled}
    (loading : st.Loading p name path ds halt) (l : Nat) :
    ∃ f k b, Sums ds 0 0 f k b ∧ halt.asks = 0 ∧ f + (halt.standing l).isFresh.toNat = st.isFresh.toNat ∧
      k + (halt.standing l).underWay.toNat ≤ f + st.underWay.toNat ∧
      (st.atGate = false → (halt.standing l).atGate = false → b = f) := by
  cases loading with
  | holds =>
    exact ⟨1, 0, 0, by constructor <;> rfl, rfl, rfl, le_rfl, fun _ open_ => Bool.noConfusion open_⟩
  | pauses => exact ⟨1, 0, 1, by constructor <;> rfl, rfl, rfl, le_rfl, fun _ _ => rfl⟩
  | begins =>
    exact ⟨0, 0, 1, by constructor <;> rfl, rfl, rfl, le_rfl, fun open_ => Bool.noConfusion open_⟩
  | fails answer => exact ⟨0, 0, 0, by constructor <;> rfl, rfl, rfl, Nat.zero_le _, fun _ _ => rfl⟩
  | lands => exact ⟨0, 1, 0, by constructor <;> rfl, rfl, rfl, le_rfl, fun _ _ => rfl⟩

end

/-! ### The balance of a turn -/

/-- A load that was created and has not started. -/
def Work.unstarted : Work Compiled Bytes → Bool
  | .request _ => false
  | .load _ st _ => st.isFresh

/-- A job that waits in vain or for its read: it may keep a template later on. Where loads are shared requests keep
none. -/
def Work.mayKeep (services : List (Pipeline × Nat)) (service : Nat) : Work Compiled Bytes → Bool
  | .request st => (services[service]?).any (fun x => !x.1.singleFlight) && st.underWay
  | .load _ st _ => st.underWay

def Work.atGate : Work Compiled Bytes → Bool
  | .request st => st.atGate
  | .load _ st _ => st.atGate

variable {services : List (Pipeline × Nat)} {asked : Nat → Request → Prop}

/-- **The balance of a turn.** -/
theorem Standing.Stirs.sums {β : Type} {missing : Text → Prop} {id service : Nat}
    {wrap : Standing Compiled β → Work Compiled Bytes} {st : Standing Compiled β} {c : Bool}
    {ds : List (Deed Compiled)} {halt : Halt Compiled β}
    (stirs : st.Stirs services asked missing id service wrap c ds halt) (l : Nat) :
    ∃ a j f k b, Deed.Sums ds a j f k b ∧
      a + (wrap st).unstarted.toNat = j + f + halt.asks + (wrap (halt.standing l)).unstarted.toNat ∧
      k + ((wrap (halt.standing l)).mayKeep services service).toNat ≤
        f + ((wrap st).mayKeep services service).toNat ∧
      (∀ p n, services[service]? = some (p, n) → p.singleFlight = false → j = 0 ∧ halt.asks = 0) ∧
      ((wrap st).atGate = false → (wrap (halt.standing l)).atGate = false → b = f) := by
  cases stirs with
  | @request p n _ _ _ _ _ served _ turns =>
    obtain ⟨j, f, k, b, sums, mode, under, reads⟩ := turns.sums l
    refine ⟨_, j, f, k, b, sums, rfl, ?_, fun p' n' served' alone => ?_, reads⟩
    · simp only [Work.mayKeep, served, Option.any_some]
      cases single : p.singleFlight with
      | true =>
        rw [single] at mode
        rw [mode.1, mode.2]
        exact le_rfl
      | false => exact under single
    · obtain ⟨rfl, -⟩ := Prod.mk.inj (Option.some.inj (served'.symm.trans served))
      rw [alone] at mode
      exact mode
  | lost f c unserved =>
    refine ⟨0, 0, 0, 0, 0, .nil, rfl, ?_, fun _ _ _ _ => ⟨rfl, rfl⟩, fun _ _ => rfl⟩
    simp [Work.mayKeep, unserved]
  | load served shared _ loading =>
    obtain ⟨f, k, b, sums, asks, starts, under, reads⟩ := loading.sums l
    refine ⟨0, 0, f, k, b, sums, ?_, under, fun p' n' served' alone => ?_, reads⟩
    · simp only [Work.unstarted]
      omega
    · obtain ⟨rfl, -⟩ := Prod.mk.inj (Option.some.inj (served'.symm.trans served))
      exact absurd (shared.symm.trans alone) Bool.noConfusion

/-- Whoever has no service does nothing. -/
theorem Standing.Stirs.idle {β : Type} {missing : Text → Prop} {id service : Nat}
    {wrap : Standing Compiled β → Work Compiled Bytes} {st : Standing Compiled β} {c : Bool}
    {ds : List (Deed Compiled)} {halt : Halt Compiled β}
    (stirs : st.Stirs services asked missing id service wrap c ds halt) (unserved : services[service]? = none) :
    ds = [] ∧ halt.asks = 0 := by
  cases stirs with
  | lost => exact ⟨rfl, rfl⟩
  | request served | load served => cases served.symm.trans unserved

namespace Session

/-- The loads of some of the services that have not started. -/
def unstarted (chosen : Nat → Bool) (service : Nat) (w : Work Compiled Bytes) : Nat :=
  (chosen service && w.unstarted).toNat

/-- The jobs of some of the services that may keep a template. -/
def mayKeep (services : List (Pipeline × Nat)) (chosen : Nat → Bool) (service : Nat) (w : Work Compiled Bytes) : Nat :=
  (chosen service && w.mayKeep services service).toNat

theorem trait_unstarted : Scheduler.Trait Work.unstarted false where
  bare {w w'} same := by
    cases w with
    | request st => rw [Work.bare_eq_request.mp same]
    | load name st ws =>
      cases w' with
      | request st' => cases same
      | load name' st' ws' =>
        cases same
        rfl
  roused seat roused := by cases seat <;> cases roused <;> rfl
  fresh _ := rfl

theorem measure_unstarted (chosen : Nat → Bool) : Scheduler.Measure (unstarted chosen) :=
  trait_unstarted.measure chosen

theorem measure_mayKeep (services : List (Pipeline × Nat)) (chosen : Nat → Bool) :
    Scheduler.Measure (mayKeep services chosen) where
  bare := by
    intro service w w' same
    cases w with
    | request st => rw [Work.bare_eq_request.mp same]
    | load name st ws =>
      cases w' with
      | request st' => cases same
      | load name' st' ws' =>
        cases same
        rfl
  roused seat roused := by
    cases seat <;> cases roused <;> rfl
  fresh service _ := by simp [mayKeep, Work.mayKeep, Standing.underWay]

variable {chosen : Nat → Bool} {s t : Session} {ls : List Line} {e : Event Deployment Compiled Bytes}

theorem told_append (ls ls' : List Line) (chosen : Nat → Bool) (q : Deed Compiled → Bool) :
    told (ls ++ ls') chosen q = told ls chosen q + told ls' chosen q :=
  List.countP_append

/-- What the chronicle tells of one job. -/
theorem told_deeds (id service : Nat) (ds : List (Deed Compiled)) (chosen : Nat → Bool) (q : Deed Compiled → Bool) :
    told ((ds.map (Entry.mk id service)).map .deed) chosen q = if chosen service then ds.countP q else 0 := by
  rw [told, List.countP_map, List.countP_map]
  cases own : chosen service with
  | true =>
    refine List.countP_congr fun d _ => ?_
    simp [Line.by, own]
  | false => exact List.countP_eq_zero.mpr fun d _ => by simp [Line.by, own]

theorem told_uses (a : Happening) (d : Deployment) (chosen : Nat → Bool) (q : Deed Compiled → Bool) :
    told (a.uses d) chosen q = 0 := by
  cases a with
  | get service name =>
    rw [Happening.uses]
    split <;> rfl
  | incident | read | edit => rfl

/-- **The balance of some of the services** after a run. -/
structure Balanced (services : List (Pipeline × Nat)) (chosen : Nat → Bool) (t : Session) (ls : List Line) : Prop where
  hits : told ls chosen (Deed.counts .hit) = told ls chosen Deed.found
  misses : told ls chosen (Deed.counts .miss) = told ls chosen Deed.absent + told ls chosen Deed.refused
  compiles : told ls chosen (Deed.counts .compile) = told ls chosen Deed.kept
  flows : told ls chosen Deed.absent =
    told ls chosen (Deed.counts .fetch) + told ls chosen Deed.joined + t.total (unstarted chosen)
  bounds : told ls chosen Deed.kept + t.total (mayKeep services chosen) ≤ told ls chosen (Deed.counts .fetch)

/-- Who asks for a load joins the one in flight, or else one is created. -/
theorem sums_joining {β : Type} (services : List (Pipeline × Nat)) (t : Session) (id : Nat) {service : Nat}
    (d : Deployment) (halt : Halt Compiled β) (own : chosen service = true) : ∃ g, Deed.Sums (t.joining service halt) 0 g 0 0 0 ∧
      halt.asks = g + t.launched (unstarted chosen) host id service d halt ∧
      t.launched (mayKeep services chosen) host id service d halt = 0 := by
  cases halt with
  | sharing name path next =>
    rw [Scheduler.joining, Scheduler.launched, Scheduler.launched]
    split
    · exact ⟨1, by constructor <;> rfl, rfl, rfl⟩
    · refine ⟨0, .nil, ?_, ?_⟩
      · simp [unstarted, own, Work.unstarted, Standing.isFresh, Halt.asks]
      · simp [mayKeep, Work.mayKeep, Standing.underWay]
  | ended | held | paused => exact ⟨0, .nil, rfl, rfl⟩

/-- **An event keeps the balance.** -/
theorem Balanced.after (inService : t.InService services asked) (admits : t.Admits e) (brings : t.Brings asked e)
    (balanced : Balanced services chosen t ls) :
    Balanced services chosen (t.after host e) (ls ++ (t.entries host e).map .deed) := by
  obtain ⟨hits, misses, compiles, flows, bounds⟩ := balanced
  obtain rests | @⟨_, id, service, _, wrap, st, c, halt, d, move⟩ := t.after_passing host e
  · rw [rests.entries, List.map_nil, List.append_nil]
    refine ⟨hits, misses, compiles, ?_, ?_⟩
    · rwa [rests.total (measure_unstarted chosen)]
    · rwa [rests.total (measure_mayKeep services chosen)]
  · have stirs := inService.stirs admits brings (fun p _ _ => lacks_anyone p _) trivial move
    obtain ⟨l, totals⟩ := move.total
    have starts := totals (measure_unstarted chosen)
    have keeps := totals (measure_mayKeep services chosen)
    simp only [unstarted, mayKeep] at starts keeps
    rw [move.entries]
    cases own : chosen service with
    | false =>
      simp only [own, Bool.false_and, Bool.toNat_false, Nat.add_zero] at starts keeps
      have none : t.launched (unstarted chosen) host id service d halt = 0 ∧
          t.launched (mayKeep services chosen) host id service d halt = 0 := by
        cases halt with
        | sharing => simp [Scheduler.launched, unstarted, mayKeep, own]
        | ended | held | paused => exact ⟨rfl, rfl⟩
      constructor <;> simp only [told_append, told_deeds, own, Bool.false_eq_true, if_false, Nat.add_zero]
      · exact hits
      · exact misses
      · exact compiles
      · omega
      · omega
    | true =>
      obtain ⟨a, j, f, k, b, sums, looks, most, _⟩ := stirs.sums l
      obtain ⟨g, joins, asks, launched⟩ := sums_joining services t id d halt own
      have all := sums.append joins
      simp only [own, Bool.true_and] at starts keeps
      constructor <;> simp only [told_append, told_deeds, own, if_true]
      · rw [hits, all.hits]
      · rw [misses, all.misses]
        omega
      · rw [compiles, all.compiles]
      · rw [all.absent, all.fetched, all.joined]
        omega
      · rw [all.kept, all.fetched]
        omega

/-- **The balance of a run.** -/
theorem balanced_undergo (inService : s.InService services fun _ _ => True) (begun : s.jobs = [])
    (as : List Happening) (chosen : Nat → Bool) : Balanced services chosen (s.undergo as) (s.chronicle as) := by
  refine (inService.undergo (Q := fun t ls => Balanced services chosen t ls) (fun _ _ _ => trivial) ?_ as ?_ ?_).2
  · refine ⟨rfl, rfl, rfl, ?_, ?_⟩ <;> rw [Scheduler.total, begun] <;> rfl
  · exact fun t ls e inService admits brings balanced => balanced.after inService admits brings
  · intro t ls a d _ _ balanced
    constructor <;> simp only [told_append, told_uses, Nat.add_zero]
    · exact balanced.hits
    · exact balanced.misses
    · exact balanced.compiles
    · exact balanced.flows
    · exact balanced.bounds

/-- A service that has each request load for itself joins no loads. -/
theorem joined_alone (inService : s.InService services fun _ _ => True) {service k : Nat} {p : Pipeline}
    (served : services[service]? = some (p, k)) (alone : p.singleFlight = false) (as : List Happening) :
    told (s.chronicle as) (· == service) Deed.joined = 0 := by
  refine (inService.undergo (Q := fun _ ls => told ls (· == service) Deed.joined = 0) (fun _ _ _ => trivial) rfl as
    ?_ ?_).2
  · intro t ls e inService admits brings none
    rw [told_append, none]
    obtain rests | @⟨_, id, other, _, wrap, st, c, halt, d, move⟩ := t.after_passing host e
    · rw [rests.entries]
      rfl
    · rw [move.entries, told_deeds]
      by_cases own : other = service
      · subst own
        have stirs := inService.stirs admits brings (fun p _ _ => lacks_anyone p _) trivial move
        obtain ⟨a, j, f, k, b, sums, _, _, asks, _⟩ := stirs.sums 0
        obtain ⟨rfl, silent⟩ := asks p _ served alone
        obtain ⟨g, joins, asked, _⟩ := sums_joining services t id d halt (beq_self_eq_true other)
        have all := (sums.append joins).joined
        simp only [beq_self_eq_true, if_true]
        omega
      · rw [if_neg (by simpa using own)]
  · intro t ls a d _ _ none
    rw [told_append, none, told_uses]

/-- It creates no loads either. -/
theorem unstarted_alone (inService : t.InService services asked) {service k : Nat} {p : Pipeline}
    (served : services[service]? = some (p, k)) (alone : p.singleFlight = false) :
    t.total (unstarted (· == service)) = 0 := by
  refine (Scheduler.total_toNat _ t).trans (List.countP_eq_zero.mpr fun job mem => ?_)
  obtain ⟨id, at_⟩ := List.mem_iff_getElem?.mp mem
  have holds := inService.jobs id job at_
  obtain ⟨other, work, c⟩ := job
  cases work with
  | request st => simp [Work.unstarted]
  | load name st ws =>
    by_cases own : other = service
    · subst own
      cases holds with
      | load served' shared =>
        obtain ⟨rfl, -⟩ := Prod.mk.inj (Option.some.inj (served'.symm.trans served))
        exact absurd (shared.symm.trans alone) Bool.noConfusion
    · simp [own]

end Session

end Stencil
