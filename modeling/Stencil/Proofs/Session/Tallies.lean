import Mathlib.Algebra.BigOperators.Group.Finset.Piecewise
import Stencil.Proofs.Pipeline.Closure
import Stencil.Proofs.Pipeline.Loads
import Stencil.Proofs.Session.Accounts

/-!
# What a request counts on the whole

Some things are counted at the end of a request only, if at all. How often they are counted in its name depends on
what it comes to, whatever it waits for and whatever other requests do.

## Main definitions

- `Routine.Tallies` — how often something is counted depends on the outcome
- `Routine.Silent` — nothing of the kind is counted
- `Session.count` — how often something is counted in the name of a job
- `Session.Tallied` — all jobs of a session have counted what is due

## Main results

- `Standing.Bills.turn` — what is counted at the turn of a job
- `Session.Tallied.after`, `Session.tallied_undergo` — all jobs have counted what is due, after every run
- `Session.told_eq_sum` — what is counted by a service is what is counted in the names of its jobs
-/

namespace Stencil

open Deployment

variable {V α β : Type} {w : Tally → Bool}

/-- What is counted at the end of a request only. -/
structure Late (w : Tally → Bool) : Prop where
  hit : w .hit = false
  miss : w .miss = false
  fetch : w .fetch = false
  compile : w .compile = false

namespace Routine

/-- Whatever a routine is answered, something is counted as often as its outcome says, together with what was counted
before, and it is not counted before the last answer. -/
def Tallies (w : Tally → Bool) (due : Except Failure β → Nat → Prop) : Routine V β → Nat → Prop
  | finish o, n => due o n
  | lookup _ next, n => ∀ v, (next v).Tallies w due n
  | act a next, n => next.Tallies w due (n + ((Deed.act a).tells w).toNat)
  | read _ next, n => n = 0 ∧ ∀ b, (next b).Tallies w due n
  | share _ _ next, n => n = 0 ∧ ∀ o, (next o).Tallies w due n

/-- Nothing of the kind is counted. -/
def Silent (w : Tally → Bool) (r : Routine V β) : Prop :=
  r.Tallies w (fun _ n => n = 0) 0

variable {due : Except Failure α → Nat → Prop} {due' : Except Failure β → Nat → Prop}

theorem Tallies.onEnd {r : Routine V α} {f : Except Failure α → Routine V β} {n : Nat} (tallies : r.Tallies w due n)
    (next : ∀ o m, due o m → (f o).Tallies w due' m) : (r.onEnd f).Tallies w due' n := by
  induction r generalizing n with
  | finish o => exact next o n tallies
  | lookup name k ih => exact fun v => ih v (tallies v)
  | act a k ih => exact ih tallies
  | read path k ih => exact ⟨tallies.1, fun b => ih b (tallies.2 b)⟩
  | share name path k ih => exact ⟨tallies.1, fun o => ih o (tallies.2 o)⟩

theorem Tallies.mono {more : Except Failure α → Nat → Prop} {r : Routine V α} {n : Nat} (tallies : r.Tallies w due n)
    (le : ∀ o m, due o m → more o m) : r.Tallies w more n := by
  rw [← onEnd_finish r]
  exact tallies.onEnd le

namespace Silent

theorem onEnd {r : Routine V α} {f : Except Failure α → Routine V β} (silent : r.Silent w)
    (next : ∀ o, (f o).Tallies w due' 0) : (r.onEnd f).Tallies w due' 0 := by
  refine Tallies.onEnd silent fun o m none => ?_
  subst none
  exact next o

theorem bind {r : Routine V α} {f : α → Routine V β} (silent : r.Silent w) (fails : ∀ e, due' (.error e) 0)
    (next : ∀ a, (f a).Tallies w due' 0) : (r >>= f).Tallies w due' 0 := by
  refine silent.onEnd fun o => ?_
  cases o with
  | ok a => exact next a
  | error e => exact fails e

theorem act {a : Act V} {r : Routine V α} (other : (Deed.act a).tells w = false) (tallies : r.Tallies w due 0) :
    (Routine.act a r).Tallies w due 0 := by
  change r.Tallies w due (0 + _)
  rw [other]
  exact tallies

end Silent

end Routine

namespace Pipeline

open Routine

/-- Loads count nothing that is counted at the end of a request only. -/
theorem silent_load (p : Pipeline) (late : Late w) (name path : Text) : (p.load name path).Silent w := by
  rw [load_eq]
  refine Silent.act rfl (Silent.act late.fetch ⟨rfl, fun source => ?_⟩)
  change (p.loaded name source).Silent w
  cases compiles : source.bind (p.compiler.compile name) with
  | error f =>
    rw [loaded_of_error compiles]
    rfl
  | ok v =>
    rw [loaded_of_ok compiles]
    exact Silent.act rfl (Silent.act late.compile (Silent.act rfl rfl))

theorem silent_resolveAt (p : Pipeline) (late : Late w) (name path : Text) : (p.resolveAt name path).Silent w := by
  intro found
  cases found with
  | some v => exact Silent.act late.hit rfl
  | none =>
    refine Silent.act late.miss ?_
    change Routine.Silent w (if p.singleFlight then _ else _)
    split
    · exact ⟨rfl, fun _ => rfl⟩
    · exact p.silent_load late name path

/-- **Executions count nothing** that is counted at the end of a request only. -/
theorem woven_silent (p : Pipeline) (late : Late w) : p.Woven (Routine.Silent w) where
  finish _ := rfl
  perform {a} inner := by
    refine Silent.act ?_ rfl
    cases a with
    | count t => cases t <;> first | exact inner.elim | exact late.miss
    | keep | note => exact inner.elim
    | miss | run => rfl
  bind silent next := silent.bind (fun _ => rfl) next
  fails silent _ := silent.onEnd fun o => by cases o <;> rfl
  resolveAt _ := p.silent_resolveAt late _ _

end Pipeline

/-! ### The turn of a job -/

section

variable {σ : Type} {h : Host σ V} {service : Nat} {landed : Text → Option (Except Failure V)}
  {due : Except Failure β → Nat → Prop} {n : Nat} {x y : σ} {halt : Halt V β}

/-- Where a routine stands, what is due was counted if it has ended, and nothing otherwise. -/
inductive Standing.Bills (w : Tally → Bool) (due : Except Failure β → Nat → Prop) : Nat → Standing V β → Prop
  | ended {o : Except Failure β} {n : Nat} (is : due o n) : Bills w due n (.ended o)
  | under {st : Standing V β} {n : Nat} (none : n = 0) (all : st.All fun r => r.Tallies w due 0) : Bills w due n st

/-- Who need not wait any longer has counted nothing more. -/
theorem Standing.Bills.rouse {st st' : Standing V β} (bills : st.Bills w due n) (roused : st.Roused st') :
    st'.Bills w due n := by
  cases bills with
  | ended => cases roused
  | under none all =>
    refine .under none ?_
    cases roused with
    | landed | passed => exact all
    | answered => exact all.2 _
    | interrupted =>
      obtain ⟨_, _, all⟩ := all
      exact all.2 _

/-- What is counted until a routine stops. -/
theorem Host.advance_bills {r : Routine V β} (tallies : r.Tallies w due n)
    (stops : h.advance service landed r x = (halt, y)) (l : Nat) :
    (halt.standing l).Bills w due (n + (h.deeds service landed r x).countP (Deed.tells w)) := by
  induction r generalizing n x with
  | finish o =>
    cases stops
    exact .ended tallies
  | lookup name next ih =>
    have rest := ih _ (tallies _) stops
    rwa [deeds, List.countP_cons_of_neg (by exact Bool.false_ne_true)]
  | act a next ih =>
    have rest := ih tallies stops
    rwa [deeds, List.countP_cons, ite_eq_toNat, Nat.add_comm (List.countP _ _), ← Nat.add_assoc]
  | read path next ih =>
    obtain ⟨rfl, tallies⟩ := tallies
    rw [advance] at stops
    rw [deeds]
    split at stops <;> cases stops <;> simp only [*, if_true] <;> exact .under rfl ⟨rfl, tallies⟩
  | share name path next ih =>
    obtain ⟨rfl, tallies⟩ := tallies
    simp only [advance] at stops
    simp only [deeds]
    cases told : landed name with
    | some o =>
      rw [told] at stops
      have rest := ih o (tallies o) stops
      rwa [List.countP_cons_of_neg (by exact Bool.false_ne_true)]
    | none =>
      rw [told] at stops
      cases stops
      exact .under rfl ⟨name, path, rfl, tallies⟩

/-- **What is counted at the turn of a job** is due where it has ended, and nothing is counted otherwise. -/
theorem Standing.Bills.turn {st : Standing V β} {c : Bool} (bills : st.Bills w due n)
    (cancelled : due (.error .cancelled) 0) (goes : h.turn service landed c st x = some (halt, y)) (l : Nat) :
    (halt.standing l).Bills w due (n + (h.turnDeeds service landed c st x).countP (Deed.tells w)) := by
  have runs {r : Routine V β} {z : σ} (tallies : r.Tallies w due 0)
      (goes : some (h.advance service landed r z) = some (halt, y)) :
      (halt.standing l).Bills w due (0 + (h.deeds service landed r z).countP (Deed.tells w)) :=
    Host.advance_bills tallies (Option.some.inj goes) l
  cases bills with
  | ended => cases goes
  | under none all =>
    subst none
    cases st with
    | fresh r =>
      cases c with
      | true =>
        cases goes
        exact .ended cancelled
      | false => exact runs all goes
    | passed path next =>
      cases c with
      | true => exact runs (all.2 _) goes
      | false =>
        cases goes
        exact .under rfl all
    | paused path next =>
      cases c with
      | true => exact runs (all.2 _) goes
      | false => exact runs (all.2 _) goes
    | landed o next =>
      obtain ⟨_, _, _, all⟩ := all
      exact runs (all _) goes
    | resumed r => exact runs all goes
    | held | waiting | ended => cases goes

end

/-! ### All jobs of a session -/

/-- What is due was counted in the name of a request that has ended. -/
def Work.Bills (w : Tally → Bool) (due : Except Failure Bytes → Nat → Prop) (n : Nat) : Work Compiled Bytes → Prop
  | request st => st.Bills w due n
  | load _ st _ => st.Bills w (fun _ m => m = 0) n

namespace Work

variable {due : Except Failure Bytes → Nat → Prop} {n : Nat}

theorem bills_of_bare {wk wk' : Work Compiled Bytes} (same : wk'.bare = wk.bare) (bills : wk.Bills w due n) :
    wk'.Bills w due n := by
  cases wk with
  | request st => rwa [Work.bare_eq_request.mp same]
  | load name st ws =>
    cases wk' with
    | request st' => cases same
    | load name' st' ws' =>
      cases same
      exact bills

theorem Bills.rouse {wrap : Standing Compiled β → Work Compiled Bytes} {st st' : Standing Compiled β}
    (seat : Seat Compiled Bytes β wrap) (bills : (wrap st).Bills w due n) (roused : st.Roused st') :
    (wrap st').Bills w due n := by
  cases seat with
  | request => exact Standing.Bills.rouse bills roused
  | load => exact Standing.Bills.rouse bills roused

/-- A request and a load count what is due to each of them. -/
theorem exists_bills {wrap : Standing Compiled β → Work Compiled Bytes} (seat : Seat Compiled Bytes β wrap)
    (cancelled : due (.error .cancelled) 0) : ∃ due' : Except Failure β → Nat → Prop, due' (.error .cancelled) 0 ∧
      ∀ st m, (wrap st).Bills w due m ↔ st.Bills w due' m := by
  cases seat with
  | request => exact ⟨due, cancelled, fun _ _ => Iff.rfl⟩
  | load name ws => exact ⟨fun _ m => m = 0, rfl, fun _ _ => Iff.rfl⟩

end Work

namespace Session

/-- Something of these kinds is counted in the name of a job. -/
def Line.tells (w : Tally → Bool) (id : Nat) : Line → Bool
  | deed e => e.job == id && e.deed.tells w
  | got .. | read => false

/-- How often something of these kinds is counted in the name of a job. -/
def count (w : Tally → Bool) (ls : List Line) (id : Nat) : Nat :=
  ls.countP (Line.tells w id)

theorem count_append (ls ls' : List Line) (id : Nat) : count w (ls ++ ls') id = count w ls id + count w ls' id :=
  List.countP_append

theorem count_deeds (id service : Nat) (ds : List (Deed Compiled)) (k : Nat) :
    count w ((ds.map (Entry.mk id service)).map .deed) k = if id = k then ds.countP (Deed.tells w) else 0 := by
  rw [count, List.map_map, List.countP_map]
  split
  · next own =>
    congr 1
    funext d
    simp [Line.tells, own]
  · next other =>
    refine List.countP_eq_zero.mpr fun d _ => ?_
    simp [Line.tells, other]

theorem count_uses (a : Happening) (d : Deployment) (id : Nat) : count w (a.uses d) id = 0 := by
  refine List.countP_eq_zero.mpr fun l mem => ?_
  cases l with
  | deed e => exact absurd mem (a.deed_not_mem_uses d e)
  | got | read => exact Bool.false_ne_true

/-- All jobs have counted what is due to their services, and whatever is on record was done by a job of the service. -/
structure Tallied (w : Tally → Bool) (due : Nat → Except Failure Bytes → Nat → Prop) (t : Session) (ls : List Line) :
    Prop where
  jobs : ∀ id job, t.job? id = some job → job.work.Bills w (due job.service) (count w ls id)
  owned : ∀ e, .deed e ∈ ls → ∃ job, t.job? e.job = some job ∧ job.service = e.service

namespace Tallied

variable {due : Nat → Except Failure Bytes → Nat → Prop} {t : Session} {ls : List Line}
  {e : Event Deployment Compiled Bytes}

/-- Nothing was counted in the name of a job that is not there. -/
theorem count_of_absent (tallied : Tallied w due t ls) {id : Nat} (absent : t.job? id = none) : count w ls id = 0 := by
  refine List.countP_eq_zero.mpr fun l mem tells => ?_
  cases l with
  | deed e =>
    obtain ⟨job, at_, _⟩ := tallied.owned e mem
    obtain rfl : e.job = id := by simpa using (Bool.and_eq_true_iff.mp tells).1
    cases absent.symm.trans at_
  | got | read => cases tells

/-- A job takes its turn at an event. -/
def Moves (t : Session) (e : Event Deployment Compiled Bytes) (id : Nat) : Prop :=
  ∃ (u : Session) (service : Nat) (β : Type) (wrap : Standing Compiled β → Work Compiled Bytes)
    (st : Standing Compiled β) (c : Bool) (halt : Halt Compiled β) (d : Deployment),
    t.Move host e u id service wrap st c halt d

/-- Whatever comes to a job apart from its own turn leaves what it has counted. -/
theorem carries (tallied : Tallied w due t ls) (late : Late w)
    (brings : ∀ service r, e = .submit service r ∨ e = .start service r → r.Tallies w (due service) 0) :
    t.Carries host e (fun id service wk _ => wk.Bills w (due service) (count w ls id))
      (fun id service wk _ => ¬Moves t e id → wk.Bills w (due service) (count w ls id)) where
  rests same bills _ := Work.bills_of_bare same bills
  acts l move _ _ still := absurd ⟨_, _, _, _, _, _, _, _, move⟩ still
  starts {_ _ service _ _ _ _ name path _ y _} _ _ _ new _ := by
    refine .under (tallied.count_of_absent new) ?_
    change (Deployment.load y service name path).Silent w
    rw [Deployment.load]
    split
    · exact Pipeline.silent_load _ late name path
    · rfl
  told seat _ _ bills _ := bills.rouse seat (.landed ..)
  passes seat bills _ := bills.rouse seat (.passed ..)
  interrupted seat _ _ goes bills _ := bills.rouse seat (Standing.roused_of_interrupt goes)
  flagged _ _ bills _ := bills
  answered seat _ bills _ := bills.rouse seat (.answered ..)
  brings is := by
    exact .under (tallied.count_of_absent (List.getElem?_eq_none le_rfl)) (brings _ _ is)

variable (cancelled : ∀ service, due service (.error .cancelled) 0) (late : Late w)

include cancelled late

/-- **An event leaves all jobs with what is due.** -/
theorem after (tallied : Tallied w due t ls)
    (brings : ∀ service r, e = .submit service r ∨ e = .start service r → r.Tallies w (due service) 0) :
    Tallied w due (t.after host e) (ls ++ (t.entries host e).map .deed) where
  jobs id job now := by
    have carries := tallied.carries late brings
    rw [count_append]
    by_cases moves : Moves t e id
    · obtain ⟨u, service, β, wrap, st, c, halt, d, move⟩ := moves
      obtain ⟨l, now'⟩ := move.job?
      obtain rfl := Option.some.inj (now'.symm.trans now)
      have before := carries.summoned tallied.jobs move.summons move.at_
      obtain ⟨due', cancelled', seated⟩ := Work.exists_bills (w := w) move.seat (cancelled service)
      rw [seated] at before ⊢
      have joined : (t.joining service halt).countP (Deed.tells w) = 0 := by
        cases halt with
        | sharing name path next =>
          rw [Scheduler.joining]
          split <;> rfl
        | ended | held | paused => rfl
      rw [move.entries, count_deeds, if_pos rfl, List.countP_append, joined]
      exact before.turn cancelled' move.goes l
    · have others : count w ((t.entries host e).map .deed) id = 0 := by
        obtain rests | @⟨_, k, _, _, _, _, _, _, _, move⟩ := t.after_passing host e
        · rw [rests.entries]
          rfl
        · rw [move.entries, count_deeds, if_neg]
          rintro rfl
          exact moves ⟨_, _, _, _, _, _, _, _, move⟩
      rw [others]
      exact carries.jobs tallied.jobs id job now moves
  owned entry mem := by
    obtain mem | mem := List.mem_append.mp mem
    · obtain ⟨job, at_, same⟩ := tallied.owned entry mem
      obtain ⟨job', now, service, _⟩ := Scheduler.play_kind (h := host) at_ [e]
      exact ⟨job', now, service.trans same⟩
    · obtain ⟨entry', done, same⟩ := List.mem_map.mp mem
      obtain rfl := Line.deed.inj same
      obtain rests | move := t.after_passing host e
      · rw [rests.entries] at done
        cases done
      · obtain ⟨l, now⟩ := move.job?
        rw [move.entries] at done
        obtain ⟨_, _, rfl⟩ := List.mem_map.mp done
        exact ⟨_, now, rfl⟩

end Tallied

variable {due : Nat → Except Failure Bytes → Nat → Prop} {services : List (Pipeline × Nat)} {s : Session}

/-- **All jobs have counted what is due, after every run.** -/
theorem tallied_undergo (late : Late w) (cancelled : ∀ service, due service (.error .cancelled) 0)
    (asks : ∀ (t : Session) service (r : Request), t.state.roster = services →
      (t.routine service r).Tallies w (due service) 0)
    (inService : s.InService services fun _ _ => True) (begun : s.jobs = []) (as : List Happening) :
    Tallied w due (s.undergo as) (s.chronicle as) := by
  refine (inService.undergo (Q := Tallied w due) (fun _ _ _ => trivial) ?_ as ?_ ?_).2
  · refine ⟨fun id job at_ => ?_, fun _ mem => absurd mem List.not_mem_nil⟩
    rw [Scheduler.job?, begun] at at_
    cases at_
  · intro t ls e inService admits brings tallied
    refine tallied.after cancelled late fun service routine is => ?_
    obtain ⟨r, rfl, _⟩ := brings service routine is
    exact asks t service r inService.roster
  · intro t ls a d _ _ tallied
    refine ⟨fun id job at_ => ?_, fun e mem => ?_⟩
    · rw [count_append, count_uses]
      exact tallied.jobs id job at_
    · exact tallied.owned e ((List.mem_append.mp mem).resolve_right (a.deed_not_mem_uses t.state e))

/-! ### What a service counts -/

/-- What is found in a list is found by numbers, if each has a number below a bound. -/
theorem countP_eq_sum_range {J : Type} {p : J → Bool} {key : J → Nat} {n : Nat} (ls : List J)
    (below : ∀ l ∈ ls, p l = true → key l < n) :
    ls.countP p = ∑ i ∈ Finset.range n, ls.countP fun l => key l == i && p l := by
  induction ls with
  | nil => simp
  | cons l ls ih =>
    have rest := ih fun l mem => below l (List.mem_cons_of_mem _ mem)
    simp only [List.countP_cons, Finset.sum_add_distrib, ← rest]
    congr 1
    cases is : p l with
    | false => simp
    | true => simp [below l List.mem_cons_self is]

/-- How many members of a list there are of a kind, by their numbers. -/
theorem countP_eq_sum_getElem? {J : Type} (p : J → Bool) (js : List J) :
    js.countP p = ∑ i ∈ Finset.range js.length, ((js[i]?).any p).toNat := by
  induction js with
  | nil => rfl
  | cons j js ih =>
    rw [List.length_cons, Finset.sum_range_succ', List.countP_cons, ite_eq_toNat, ih]
    rfl

/-- **What a service counts** is what is counted in the names of its jobs. -/
theorem Tallied.told_eq_sum {t : Session} {ls : List Line} (tallied : Tallied w due t ls) (service : Nat) :
    told ls (· == service) (Deed.tells w) = ∑ id ∈ Finset.range t.jobs.length,
      if (t.job? id).any (fun job => job.service == service) then count w ls id else 0 := by
  let key : Line → Nat
    | .deed e => e.job
    | .got .. | .read => 0
  have below : ∀ l ∈ ls, Line.by (· == service) (Deed.tells w) l = true → key l < t.jobs.length := by
    intro l mem is
    cases l with
    | deed e =>
      obtain ⟨job, at_, _⟩ := tallied.owned e mem
      exact Scheduler.lt_of_job? at_
    | got | read => cases is
  rw [told, countP_eq_sum_range ls below]
  refine Finset.sum_congr rfl fun id _ => ?_
  -- all that is on record in the name of a job is in the name of its service
  have own {e : Entry Compiled} (mem : .deed e ∈ ls) (is : e.job = id) :
      (t.job? id).any (fun job => job.service == service) = (e.service == service) := by
    obtain ⟨job, at_, same⟩ := tallied.owned e mem
    rw [← is, at_, Option.any_some, same]
  split
  · next its =>
    refine List.countP_congr fun l mem => ?_
    cases l with
    | deed e =>
      by_cases is : e.job = id
      · have serves : (e.service == service) = true := (own mem is).symm.trans its
        simp [key, Line.by, Line.tells, is, serves]
      · simp [key, Line.by, Line.tells, is]
    | got | read => simp [Line.by, Line.tells]
  · next others =>
    refine List.countP_eq_zero.mpr fun l mem both => ?_
    obtain ⟨is, by_⟩ := Bool.and_eq_true_iff.mp both
    cases l with
    | deed e =>
      have serves : (e.service == service) = true := (Bool.and_eq_true_iff.mp by_).1
      exact others ((own mem (by simpa [key] using is)).trans serves)
    | got | read => cases by_

end Session

end Stencil
