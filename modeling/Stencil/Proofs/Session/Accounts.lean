import Stencil.Proofs.Session.Counters
import Stencil.Proofs.Session.Service

/-!
# How failures are accounted for

A request that ends with a failure of the template family counts it and reports it above the level of details. It does
so once, at its end, whatever templates and loads the failure went through. Nothing else does either.

## Main definitions

- `Deed.loud` — a failure is counted, or something is reported above the level of details
- `Session.outcry` — what is loud in a chronicle
- `Work.fault?` — the failure that a request has to account for

## Main results

- `Standing.Stirs.loud` — what is loud at the turn of a job
- `Session.failures_counted_once`
-/

namespace Stencil

open Deployment

/-- What is reported above the level of details. -/
def Notice.loud (n : Notice) : Bool :=
  Logging.debugLevel < n.level

/-- Something is reported above the level of details, or a failure is counted. -/
def Act.loud {V : Type} : Act V → Bool
  | note n => n.loud
  | count (.failure _) => true
  | count _ | keep .. | miss _ | run _ => false

def Deed.loud {V : Type} : Deed V → Bool
  | act a => a.loud
  | lookup .. | join _ | begin _ | serve .. => false

theorem Deed.loud_of_counted {V : Type} {d : Deed V} {kind : Kind} (counted : d.counted? = some (.failure kind)) :
    d.loud = true := by
  cases d with
  | act a =>
    cases a with
    | count t =>
      obtain rfl := Option.some.inj counted
      rfl
    | _ => cases counted
  | _ => cases counted

/-- What a deed reports. -/
def Deed.noted? {V : Type} : Deed V → Option Notice
  | act (.note n) => some n
  | act _ | lookup .. | join _ | begin _ | serve .. => none

/-- What is loud of that which a request does at its end, if it has ended with this failure. -/
def Request.accounts (r : Request) : Option Failure → List (Act Compiled)
  | some f => [.count (.failure f.kind), .note (r.report f)]
  | none => []

/-- A failure of the template family that is an outcome. -/
def faultOf : Except Failure Bytes → Option Failure
  | .error f => if f.kind.isTemplate then some f else none
  | .ok _ => none

/-- The failure that a request has to account for. -/
def Work.fault? (w : Work Compiled Bytes) : Option Failure :=
  w.outcome?.bind faultOf

theorem Request.closing_eq (r : Request) (o : Except Failure Bytes) : r.closing o = r.accounts (faultOf o) := by
  cases o with
  | ok b => rfl
  | error f =>
    rw [closing, faultOf]
    split <;> rfl

/-- Failures are reported by the logger of the services: as a warning if a file cannot be read, and else as an
error. -/
theorem Request.report_level (r : Request) (f : Failure) : (r.report f).logger = "templar.service" ∧
    (r.report f).level = match r with
      | .file .. => if f.kind.isStorage then Logging.warningLevel else Logging.errorLevel
      | .page _ => Logging.errorLevel := by
  cases r with
  | file name model =>
    simp only [report]
    split <;> exact ⟨rfl, rfl⟩
  | page model => exact ⟨rfl, rfl⟩

theorem Request.loud_report (r : Request) (f : Failure) : (r.report f).loud = true := by
  cases r with
  | file name model =>
    simp only [report]
    split <;> rfl
  | page model => rfl

theorem Act.loud_of_plain {a : Act Compiled} (plain : a.Plain) : a.loud = false := by
  cases a with
  | note n =>
    rw [loud, Notice.loud, show n.level = Logging.debugLevel from plain]
    rfl
  | count t => cases t <;> first | rfl | exact plain.elim
  | keep | miss | run => exact plain.elim

section

variable {β : Type} {p : Pipeline} {ends : List (Act Compiled) → Except Failure β → Prop} {known more : Compiled → Prop}
  {missing : Text → Prop} {ds : List (Deed Compiled)}

/-- A request is not loud before it stops. -/
theorem Pipeline.Walks.loud (walks : p.Walks known missing ds) : ds.filter Deed.loud = [] := by
  induction walks with
  | nil => rfl
  | act plain _ ih => rw [List.filter_cons_of_neg (by simp [Deed.loud, Act.loud_of_plain plain]), ih]
  | run _ _ ih | miss _ _ ih | hit _ _ _ ih | join _ _ _ ih => exact ih

theorem Standing.Leads.loud {st : Standing Compiled β} {c : Bool} (leads : st.Leads p known c ds more) :
    ds.filter Deed.loud = [] := by
  cases leads <;> rfl

end

variable {services : List (Pipeline × Nat)} {asked : Nat → Request → Prop}

/-- All that a request does to account for a failure is loud. -/
theorem Request.loud_accounts (r : Request) (f? : Option Failure) :
    ((r.accounts f?).map Deed.act).filter Deed.loud = (r.accounts f?).map .act := by
  refine List.filter_eq_self.mpr fun deed mem => ?_
  obtain ⟨a, mem, rfl⟩ := List.mem_map.mp mem
  cases f? with
  | none => exact absurd mem List.not_mem_nil
  | some f =>
    obtain rfl | rfl : a = .count (.failure f.kind) ∨ a = .note (r.report f) := by simpa [accounts] using mem
    · rfl
    · exact r.loud_report f

/-- **What is loud at the turn of a job** is what a request does at its end. -/
theorem Standing.Stirs.loud {β : Type} {missing : Text → Prop} {id service : Nat}
    {wrap : Standing Compiled β → Work Compiled Bytes} {st : Standing Compiled β} {c : Bool}
    {ds : List (Deed Compiled)} {halt : Halt Compiled β}
    (stirs : st.Stirs services asked missing id service wrap c ds halt) (l : Nat) :
    (wrap st).fault? = none ∧ ∃ r : Request, ((wrap (halt.standing l)).fault?.isSome → asked id r) ∧
      ds.filter Deed.loud = (r.accounts (wrap (halt.standing l)).fault?).map .act := by
  cases stirs with
  | @request p k r _ _ _ _ served asks turns =>
    refine ⟨?_, r, fun _ => asks, ?_⟩
    · cases turns with
      | dropped | begins => rfl
      | strides leads _ => cases leads <;> rfl
    · cases turns with
      | dropped | begins => rfl
      | strides leads strides =>
        obtain ⟨walk, stop, rfl, walks, stops⟩ := strides
        rw [List.filter_append, List.filter_append, leads.loud, walks.loud, List.nil_append, List.nil_append]
        cases stops with
        | @ended acts o is =>
          rw [show acts = r.closing o from is, r.closing_eq]
          exact r.loud_accounts (faultOf o)
        | shares | held | paused => rfl
  | @lost g f c unserved other =>
    have quiet : faultOf (.error g) = none := by rw [faultOf, other, if_neg Bool.false_ne_true]
    refine ⟨rfl, .page none, fun is => ?_, ?_⟩
    · change (faultOf (.error g)).isSome = true at is
      rw [quiet] at is
      cases is
    · change _ = (Request.accounts _ (faultOf (.error g))).map Deed.act
      rw [quiet]
      rfl
  | load served shared from_ loading =>
    refine ⟨rfl, .page none, fun is => (by cases is), ?_⟩
    cases loading <;> rfl

namespace Session

/-- What is loud in a chronicle. -/
def outcry (ls : List Line) : List (Entry Compiled) :=
  ls.filterMap fun
    | .deed e => if e.deed.loud then some e else none
    | .got .. | .read => none

theorem outcry_append (ls ls' : List Line) : outcry (ls ++ ls') = outcry ls ++ outcry ls' :=
  List.filterMap_append

theorem outcry_deeds (id service : Nat) (ds : List (Deed Compiled)) :
    outcry ((ds.map (Entry.mk id service)).map .deed) = (ds.filter Deed.loud).map (Entry.mk id service) := by
  induction ds with
  | nil => rfl
  | cons d ds ih =>
    have here : outcry [.deed ⟨id, service, d⟩] = ([d].filter Deed.loud).map (Entry.mk id service) := by
      cases loud : d.loud <;> simp [outcry, loud]
    rw [List.map_cons, List.map_cons, ← List.singleton_append, outcry_append, ih, here, ← List.map_append,
      ← List.filter_append, List.singleton_append]

/-- No direct use is loud. -/
theorem outcry_uses (a : Happening) (d : Deployment) : outcry (a.uses d) = [] := by
  cases a with
  | get service name =>
    rw [Happening.uses]
    split <;> rfl
  | incident | read | edit => rfl

variable {s t : Session} {e : Event Deployment Compiled Bytes}

/-- What is loud when a job takes its turn is the account of a request that ends. -/
theorem outcry_move (inService : t.InService services asked) (admits : t.Admits e) (brings : t.Brings asked e)
    {u : Session} {id service : Nat} {β : Type} {wrap : Standing Compiled β → Work Compiled Bytes}
    {st : Standing Compiled β} {c : Bool} {halt : Halt Compiled β} {d : Deployment}
    (move : t.Move host e u id service wrap st c halt d) (l : Nat) :
    (wrap st).fault? = none ∧ ∃ r : Request, ((wrap (halt.standing l)).fault?.isSome → asked id r) ∧
      outcry ((t.entries host e).map .deed) =
        (r.accounts (wrap (halt.standing l)).fault?).map fun a => ⟨id, service, .act a⟩ := by
  have stirs := inService.stirs admits brings (fun p _ _ => lacks_anyone p _) trivial move
  obtain ⟨before, r, asks, loud⟩ := stirs.loud l
  refine ⟨before, r, asks, ?_⟩
  have joined : (t.joining service halt).filter Deed.loud = [] := by
    cases halt with
    | sharing name path next =>
      rw [Scheduler.joining]
      split <;> rfl
    | ended | held | paused => rfl
  rw [move.entries, outcry_deeds, List.filter_append, loud, joined, List.append_nil, List.map_map]
  rfl

/-! ### How many failures are counted -/

/-- A request of the chosen services that has ended with a failure of the template family, of the chosen kinds. -/
def failed (chosen : Nat → Kind → Bool) (job : Job Compiled Bytes) : Bool :=
  job.work.fault?.any fun f => chosen job.service f.kind

/-- Whether a job has failed, as a number. -/
def failures (chosen : Nat → Kind → Bool) (service : Nat) (w : Work Compiled Bytes) : Nat :=
  (failed chosen ⟨service, w, false⟩).toNat

theorem measure_failures (chosen : Nat → Kind → Bool) : Scheduler.Measure (failures chosen) where
  bare := by
    intro service w w' same
    cases w with
    | request st => rw [Work.bare_eq_request.mp same]
    | load name st ws =>
      cases w' with
      | request st' => cases same
      | load name' st' ws' => rfl
  roused seat roused := by
    cases seat <;> cases roused <;> rfl
  fresh _ _ := rfl

theorem total_failures (t : Session) (chosen : Nat → Kind → Bool) :
    t.total (failures chosen) = t.jobs.countP (failed chosen) :=
  Scheduler.total_toNat (fun service w => failed chosen ⟨service, w, false⟩) t

/-- What is found once in the account of a chosen failure is found as often as chosen requests have failed. -/
theorem outcry_failures {chosen : Nat → Kind → Bool} {q : Entry Compiled → Bool}
    (once : ∀ (r : Request) (id service : Nat) (w : Work Compiled Bytes),
      ((r.accounts w.fault?).map fun a => (⟨id, service, .act a⟩ : Entry Compiled)).countP q =
        failures chosen service w)
    (inService : s.InService services fun _ _ => True) (begun : s.jobs = []) (as : List Happening) :
    (outcry (s.chronicle as)).countP q = (s.undergo as).jobs.countP (failed chosen) := by
  rw [← total_failures]
  refine (inService.undergo (Q := fun t ls => (outcry ls).countP q = t.total (failures chosen))
    (fun _ _ _ => trivial) ?_ as ?_ ?_).2
  · rw [Scheduler.total, begun]
    rfl
  · intro t ls e inService admits brings same
    rw [outcry_append, List.countP_append, same]
    obtain rests | @⟨_, id, service, _, wrap, st, _, halt, d, move⟩ := t.after_passing host e
    · rw [rests.entries, rests.total (measure_failures chosen)]
      rfl
    · obtain ⟨l, totals⟩ := move.total
      have total := totals (measure_failures chosen)
      obtain ⟨before, r, _, loud⟩ := outcry_move inService admits brings move l
      have launched : t.launched (failures chosen) host id service d halt = 0 := by
        cases halt with
        | sharing name path next =>
          rw [Scheduler.launched]
          split <;> rfl
        | ended | held | paused => rfl
      have none : failures chosen service (wrap st) = 0 := by
        rw [failures, failed, before]
        rfl
      rw [launched, none] at total
      rw [loud, once]
      exact total.symm
  · intro t ls a d _ _ same
    rw [outcry_append, outcry_uses, List.append_nil, same]
    rfl

/-- Each failure is counted once, by its kind. -/
theorem outcry_counted (inService : s.InService services fun _ _ => True) (begun : s.jobs = [])
    (as : List Happening) (service : Nat) (kind : Kind) :
    told (s.chronicle as) (· == service) (fun d => d.counted? == some (.failure kind)) =
      (s.undergo as).jobs.countP (failed fun other k => other == service && k == kind) := by
  rw [← outcry_failures (q := fun e => e.service == service && e.deed.counted? == some (.failure kind))
    (fun r id other w => ?_) inService begun as]
  · rw [told, outcry, List.countP_filterMap]
    congr 1
    funext l
    cases l with
    | got | read => rfl
    | deed e =>
      cases loud : e.deed.loud with
      | true => simp [Line.by, loud]
      | false =>
        have other : (e.deed.counted? == some (.failure kind)) = false := by
          refine beq_eq_false_iff_ne.mpr fun counted => ?_
          rw [Deed.loud_of_counted counted] at loud
          cases loud
        simp [Line.by, loud, other]
  · rw [failures, failed]
    cases w.fault? with
    | none => rfl
    | some f => simp [Request.accounts, Deed.counted?, List.countP_cons, ← ite_eq_toNat]

/-- Each failure is reported once. -/
theorem outcry_noted (inService : s.InService services fun _ _ => True) (begun : s.jobs = [])
    (as : List Happening) : ((outcry (s.chronicle as)).filterMap fun e => e.deed.noted?).length =
      (s.undergo as).jobs.countP (failed fun _ _ => true) := by
  rw [List.length_filterMap_eq_countP, outcry_failures (fun r id other w => ?_) inService begun as]
  rw [failures, failed]
  cases w.fault? <;> rfl

/-! ### What is reported -/

/-- What happens in the caches and in the storage is reported in detail only. -/
private theorem quiet_report {d : Deployment} {n : Notice} (quiet : n.loud = false) :
    (d.report n).notices.filter Notice.loud = d.notices.filter Notice.loud := by
  rw [report, List.filter_append, List.filter_cons_of_neg (by simp [quiet])]
  exact List.append_nil _

private theorem quiet_lookup (d : Deployment) (service : Nat) (name : Text) :
    (d.lookup service name).2.notices.filter Notice.loud = d.notices.filter Notice.loud := by
  rw [Deployment.lookup]
  refine (quiet_report ?_).trans (congrArg _ (notices_setCache d service _))
  split <;> rfl

private theorem quiet_serve (d : Deployment) (path : Text) :
    (d.serve path).2.notices.filter Notice.loud = d.notices.filter Notice.loud := by
  rw [serve]
  cases d.storage with
  | memory m => rfl
  | files tree =>
    change (d.fileAnswer path (LocalStorage.read tree none path)).2.notices.filter Notice.loud = _
    cases LocalStorage.read tree none path with
    | ok content => exact quiet_report rfl
    | error f => rfl

private theorem quiet_effect (service : Nat) {deed : Deed Compiled} (quiet : deed.loud = false) (d : Deployment) :
    (host.effect service deed d).notices.filter Notice.loud = d.notices.filter Notice.loud := by
  cases deed with
  | lookup name found => exact quiet_lookup d service name
  | join name => exact quiet_report (n := .joined name) rfl
  | begin path => exact congrArg _ (notices_beginRead d path)
  | serve path answer => exact quiet_serve d path
  | act a =>
    cases a with
    | note n => exact quiet_report quiet
    | count t => rfl
    | miss shown =>
      exact (quiet_report (n := .cacheMiss shown) rfl).trans (congrArg _ (notices_setCache d service _))
    | run v => rfl
    | keep name v =>
      have evicted : (((d.cacheOf service).overflow name).map Notice.evicted).filter Notice.loud = [] := by
        refine List.filter_eq_nil_iff.mpr fun n mem => ?_
        obtain ⟨name, _, rfl⟩ := List.mem_map.mp mem
        exact Bool.false_ne_true
      change (d.keep service name v).notices.filter Notice.loud = _
      rw [keep, notices_reports, List.filter_append, evicted, List.append_nil]
      exact congrArg _ (notices_setCache d service _)

/-- The log shows what is loud. -/
theorem shows_loud : host.Shows (fun _ => True) (fun d => d.notices.filter Notice.loud)
    fun _ ns deed => ns ++ if deed.loud then deed.noted?.toList else [] where
  keeps _ _ _ _ _ := trivial
  shows service deed d _ _ := by
    cases loud : deed.loud with
    | false => exact (quiet_effect service loud d).trans (List.append_nil _).symm
    | true =>
      cases deed with
      | lookup | join | begin | serve => cases loud
      | act a =>
        cases a with
        | note n =>
          have added : [n].filter Notice.loud = [n] := List.filter_eq_self.mpr (by simpa [Deed.loud, Act.loud] using loud)
          change (d.report n).notices.filter Notice.loud = _
          rw [report, List.filter_append, added]
          rfl
        | count t => exact (List.append_nil _).symm
        | keep | miss | run => cases loud

theorem Happening.Effect.quiet {a : Happening} {d d' : Deployment} (effect : a.Effect d d') :
    d'.notices.filter Notice.loud = d.notices.filter Notice.loud := by
  cases effect with
  | get service name => exact quiet_lookup d service name
  | read path => exact (quiet_serve _ path).trans (congrArg _ (notices_beginRead d path))
  | edit f =>
    rw [updateFiles]
    split <;> rfl
  | incident effect =>
    cases effect with
    | failing f => exact congrArg _ (d.notices_updateMemory _)
    | operation effect =>
      cases effect with
      | invalidate service name =>
        have same := notices_setCache d service ((d.cacheOf service).invalidate name).2
        rw [invalidate]
        dsimp only
        split
        · exact (quiet_report rfl).trans (congrArg _ same)
        · exact congrArg _ same
      | clear service => exact congrArg _ (notices_setCache d service _)
      | add | remove => exact congrArg _ (d.notices_updateMemory _)
      | hold | release => rfl

private theorem foldl_tell_loud (ls : List Line) (ns : List Notice) :
    ls.foldl (Line.tell (fun _ ns deed => ns ++ if deed.loud then deed.noted?.toList else []) fun ns _ => ns) ns =
      ns ++ (outcry ls).filterMap fun e => e.deed.noted? := by
  induction ls generalizing ns with
  | nil => exact (List.append_nil ns).symm
  | cons l ls ih =>
    rw [List.foldl_cons, ih, ← List.singleton_append (l := ls), outcry_append, List.filterMap_append, ← List.append_assoc]
    congr 1
    cases l with
    | got | read => exact (List.append_nil ns).symm
    | deed e =>
      cases loud : e.deed.loud with
      | false => simp [Line.tell, outcry, loud]
      | true => cases noted : e.deed.noted? <;> simp [Line.tell, outcry, loud, noted]

/-- **The log**, above the level of details, shows what is loud in the chronicle. -/
theorem notices_undergo (s : Session) (as : List Happening) :
    (s.undergo as).state.notices.filter Notice.loud =
      s.state.notices.filter Notice.loud ++ (outcry (s.chronicle as)).filterMap fun e => e.deed.noted? := by
  rw [← foldl_tell_loud]
  refine (chronicle_shows shows_loud trivial as fun d a d' _ effect _ => ⟨trivial, ?_⟩).2
  rw [foldl_tell_loud, outcry_uses]
  exact effect.quiet.trans (List.append_nil _).symm

/-! ### The account of a request -/

/-- What is loud in the name of one request is what it does at its end. -/
def Accounted (own : Nat) (r : Request) (t : Session) (ls : List Line) : Prop :=
  ((outcry ls).filter fun e => e.job == own).map (·.deed) =
    (r.accounts ((t.outcome? own).bind faultOf)).map .act

variable {own : Nat} {r : Request} {ls : List Line}

/-- What is used directly is no deed of a job. -/
theorem Happening.deed_not_mem_uses (a : Happening) (d : Deployment) (e : Entry Compiled) : .deed e ∉ a.uses d := by
  intro used
  cases a with
  | get service name =>
    rw [Happening.uses] at used
    split at used <;> simp at used
  | read => simp [Happening.uses] at used
  | incident | edit => cases used

/-- Jobs that are not there do nothing. -/
theorem jobs_of_lines (s : Session) (as : List Happening) :
    ∀ e, .deed e ∈ s.chronicle as → e.job < (s.undergo as).jobs.length := by
  refine chronicle_keeps (Q := fun t ls => ∀ e, .deed e ∈ ls → e.job < t.jobs.length) (fun _ => nofun) as ?_ ?_
  · intro t ls e _ old entry mem
    obtain mem | mem := List.mem_append.mp mem
    · exact (old entry mem).trans_le (Scheduler.length_le_play host t [e])
    · obtain ⟨entry', done, same⟩ := List.mem_map.mp mem
      obtain rfl := Line.deed.inj same
      obtain rests | move := t.after_passing host e
      · rw [rests.entries] at done
        cases done
      · obtain ⟨l, now⟩ := move.job?
        rw [move.entries] at done
        obtain ⟨_, _, rfl⟩ := List.mem_map.mp done
        exact Scheduler.lt_of_job? now
  · intro t ls a d _ _ old entry mem
    exact old entry ((List.mem_append.mp mem).resolve_right (a.deed_not_mem_uses t.state entry))

/-- **An event keeps the account of a request**: it has one as soon as it has ended. -/
theorem Accounted.after (inService : t.InService services fun id r' => id = own → r' = r) (admits : t.Admits e)
    (brings : t.Brings (fun id r' => id = own → r' = r) e) (accounted : Accounted own r t ls) :
    Accounted own r (t.after host e) (ls ++ (t.entries host e).map .deed) := by
  rw [Accounted, outcry_append, List.filter_append, List.map_append, accounted]
  by_cases moves : ∃ (u : Session) (service : Nat) (β : Type) (wrap : Standing Compiled β → Work Compiled Bytes)
    (st : Standing Compiled β) (c : Bool) (halt : Halt Compiled β) (d : Deployment),
    t.Move host e u own service wrap st c halt d
  · obtain ⟨u, service, β, wrap, st, c, halt, d, move⟩ := moves
    obtain ⟨l, now⟩ := move.job?
    obtain ⟨before, r', asks, loud⟩ := outcry_move inService admits brings move l
    have was : (t.outcome? own).bind faultOf = none := by
      rw [← move.summons.outcome? own, Scheduler.outcome?, move.at_]
      exact before
    have is : ((t.after host e).outcome? own).bind faultOf = (wrap (halt.standing l)).fault? := by
      rw [Scheduler.outcome?, now]
      rfl
    rw [was, is, loud]
    cases fault : (wrap (halt.standing l)).fault? with
    | none => rfl
    | some f =>
      obtain rfl := asks (by rw [fault]; rfl) rfl
      simp [Request.accounts]
  · have same : (t.after host e).outcome? own = t.outcome? own :=
      Scheduler.outcome?_of_still fun move => moves ⟨_, _, _, _, _, _, _, _, move⟩
    have others : (outcry ((t.entries host e).map .deed)).filter (fun e => e.job == own) = [] := by
      obtain rests | @⟨_, id, _, _, _, _, _, _, _, move⟩ := t.after_passing host e
      · rw [rests.entries]
        rfl
      · obtain ⟨_, r', _, loud⟩ := outcry_move inService admits brings move 0
        have apart : id ≠ own := by
          rintro rfl
          exact moves ⟨_, _, _, _, _, _, _, _, move⟩
        rw [loud]
        refine List.filter_eq_nil_iff.mpr fun entry mem => ?_
        obtain ⟨_, _, rfl⟩ := List.mem_map.mp mem
        simpa using apart
    rw [same, others]
    exact List.append_nil _

/-- **Whoever is asked for something** accounts for it at its end. -/
theorem accounted_undergo (inService : s.InService services fun _ _ => True)
    {as before after : List Happening} {op : Operation} {service : Nat} {r : Request}
    (split : as = before ++ .incident (.operation op) :: after) (asks : op.Asks service r) :
    Accounted (s.undergo before).jobs.length r (s.undergo as) (s.chronicle as) := by
  let u : Session := s.undergo before
  have reached : u.InService services fun _ _ => True := inService.lasts before
  have served : u.InService services fun id r' => id = u.jobs.length → r' = r :=
    reached.mono fun id _ lt _ is => absurd is (Nat.ne_of_lt lt)
  -- before it is asked for, the request has no job
  have silent : Accounted u.jobs.length r u (s.chronicle before) := by
    have none : u.outcome? u.jobs.length = none := by
      rw [Scheduler.outcome?, Scheduler.job?, List.getElem?_eq_none (Nat.le_refl _)]
      rfl
    have others : (outcry (s.chronicle before)).filter (fun e => e.job == u.jobs.length) = [] := by
      refine List.filter_eq_nil_iff.mpr fun entry mem => ?_
      obtain ⟨l, mem, is⟩ := List.mem_filterMap.mp mem
      cases l with
      | got | read => cases is
      | deed e =>
        have lt : e.job < u.jobs.length := jobs_of_lines s before e mem
        dsimp only at is
        split at is
        · obtain rfl := Option.some.inj is
          simpa using lt.ne
        · cases is
    rw [Accounted, others, none]
    rfl
  have only {service' : Nat} {routine : Routine Compiled Bytes}
      (is : service = service' ∧ u.routine service r = routine) :
      ∃ r', routine = u.routine service' r' ∧ (u.jobs.length = u.jobs.length → r' = r) := by
    obtain ⟨rfl, rfl⟩ := is
    exact ⟨r, rfl, fun _ => rfl⟩
  obtain ⟨e, admits, brings, events⟩ : ∃ e, u.Admits e ∧
      u.Brings (fun id r' => id = u.jobs.length → r' = r) e ∧
      (Happening.incident (.operation op)).events u = [e] := by
    obtain rfl | rfl := asks
    · refine ⟨_, .submit service r, fun service' routine is => only ?_, rfl⟩
      obtain is | is := is
      · exact Event.submit.inj is
      · cases is
    · refine ⟨_, .start service r, fun service' routine is => only ?_, rfl⟩
      obtain is | is := is
      · cases is
      · exact Event.start.inj is
  obtain ⟨happens, writes⟩ := happen_of_event events rfl
  have length : u.jobs.length < (u.happen (.incident (.operation op))).jobs.length := asks.length u
  have asked := served.after admits brings
  have accounted := silent.after served admits brings
  rw [split, undergo_append, chronicle_append, chronicle, ← List.append_assoc]
  rw [← happens, ← writes] at accounted
  rw [← happens] at asked
  refine (asked.undergo (Q := fun t ls => Accounted u.jobs.length r t (s.chronicle before ++ u.lines _ ++ ls))
    (fun id _ le is => ?_) ?_ after ?_ ?_).2
  · omega
  · rwa [List.append_nil]
  · intro t ls e' inService admits brings accounted
    rw [← List.append_assoc]
    exact accounted.after inService admits brings
  · intro t ls a d _ _ accounted
    rw [Accounted, ← List.append_assoc, outcry_append, outcry_uses, List.append_nil]
    exact accounted

/-- The services of a new deployment have counted nothing. -/
theorem metricsOf_create (pipelines : List (Pipeline × Nat)) (shared : Option Nat) (storage : Storage)
    (service : Nat) : (Deployment.create pipelines shared storage).metricsOf service = {} := by
  have none {x : Service} (at_ : (Deployment.create pipelines shared storage).services[service]? = some x) :
      x.metrics = {} := by
    cases shared with
    | some size =>
      simp only [create, List.getElem?_map, Option.map_eq_some_iff] at at_
      obtain ⟨_, _, rfl⟩ := at_
      rfl
    | none =>
      simp only [create, List.getElem?_mapIdx, Option.map_eq_some_iff] at at_
      obtain ⟨_, _, rfl⟩ := at_
      rfl
  rw [metricsOf]
  cases at_ : (Deployment.create pipelines shared storage).services[service]? with
  | none => rfl
  | some x => exact none at_

theorem metricsOf_of_at {d : Deployment} {service : Nat} {x : Service} (at_ : d.services[service]? = some x) :
    d.metricsOf service = x.metrics := by
  rw [metricsOf, at_]
  rfl

/-- **Failures are counted and reported exactly once, by what the caller saw.** Let any number of services with any
caches read from any storage, and let whatever happens happen: requests in any interleaving, joined loads, nested
templates, cancellations, direct uses, and changes of the storage. For each kind a service has counted as many failures
as requests to it have ended with a failure of just that kind, as long as it is one of the template family; it counts
no others. The log holds, above the level of details, one report for each of these requests. What a request does to
account for its outcome is to count and to report it, once, if it is a failure of that family, and nothing otherwise:
neither bytes nor a cancellation nor any other failure are accounted for, and nothing is before it has ended. The
logger is the one of the services, and the report is a warning if a file could not be read, and else an error. -/
theorem failures_counted_once (pipelines : List (Pipeline × Nat)) (shared : Option Nat) (storage : Storage)
    (as : List Happening) :
    let s : Session := start (.create pipelines shared storage)
    let t : Session := s.undergo as
    let ls : List Line := s.chronicle as
    (∀ service x, t.state.services[service]? = some x → ∀ kind : Kind, x.metrics.failureCount kind =
      t.jobs.countP (failed fun other k => other == service && k == kind)) ∧
    t.state.notices.filter Notice.loud = (outcry ls).filterMap (fun e => e.deed.noted?) ∧
    (t.state.notices.filter Notice.loud).length = t.jobs.countP (failed fun _ _ => true) ∧
    (∀ before after op service r, as = before ++ .incident (.operation op) :: after → op.Asks service r →
      let id := (s.undergo before).jobs.length
      ((outcry ls).filter fun e => e.job == id).map (·.deed) =
        (r.accounts ((t.outcome? id).bind faultOf)).map .act) ∧
    ∀ (r : Request) (f : Failure), (r.report f).logger = "templar.service" ∧
      (r.report f).level = match r with
        | .file .. => if f.kind.isStorage then Logging.warningLevel else Logging.errorLevel
        | .page _ => Logging.errorLevel := by
  intro s t ls
  have inService : s.InService _ fun _ _ => True := inService_start _
  have noted : t.state.notices.filter Notice.loud = (outcry ls).filterMap fun e => e.deed.noted? := by
    refine (notices_undergo s as).trans ?_
    cases shared <;> rfl
  refine ⟨fun service x at_ kind => ?_, noted, by rw [noted, outcry_noted inService rfl as],
    fun before after op service r split asks => accounted_undergo inService split asks, Request.report_level⟩
  have there : service < s.state.services.length := by
    have now : service < t.state.roster.length := by
      rw [roster, List.length_map]
      exact (List.getElem?_eq_some_iff.mp at_).1
    rw [(inService.lasts as).roster, roster, List.length_map] at now
    exact now
  have begun : (s.state.metricsOf service).counted (.failure kind) = 0 :=
    congrArg (Metrics.counted · (.failure kind)) (metricsOf_create pipelines shared storage service)
  have counted := counted_undergo there as (.failure kind)
  rwa [metricsOf_of_at at_, begun, outcry_counted inService rfl as, Nat.zero_add] at counted

/-- Two requests that share a load which fails are both accounted for. -/
theorem failures_counted_once_joined :
    let p : Pipeline := { templateDir := "t", singleFlight := true }
    let ask : Happening := .incident (.operation (.submit 0 (.file "x" none)))
    let as : List Happening := ask :: ask :: List.replicate 12 (.incident (.operation .step))
    let s : Session := start (.create [(p, 4)] none (.memory {}))
    let t : Session := s.undergo as
    (∃ x, t.state.services[0]? = some x ∧ x.metrics.failureCount .notFound = 2) ∧
    ((outcry (s.chronicle as)).filter fun e => e.job == 1).map (·.deed) =
      [.act (.count (.failure .notFound)), .act (.note (.loadFailed "x" (MemoryStorage.notFound "t/x")))] := by
  intro p ask as
  obtain ⟨counts, _, _, own, _⟩ := failures_counted_once [(p, 4)] none (.memory {}) as
  have account := own [ask] (List.replicate 12 (.incident (.operation .step))) (.submit 0 (.file "x" none)) 0
    (.file "x" none) rfl (.inl rfl)
  refine ⟨?_, account.trans ?_⟩
  · obtain ⟨x, at_⟩ : ∃ x, ((start (.create [(p, 4)] none (.memory {}))).undergo as).state.services[0]? = some x :=
      Option.isSome_iff_exists.mp (by decide +kernel)
    refine ⟨x, at_, (counts 0 x at_ .notFound).trans ?_⟩
    decide +kernel
  · have outcome : ((start (.create [(p, 4)] none (.memory {}))).undergo as).outcome? 1 =
        some (.error (MemoryStorage.notFound "t/x")) := by decide +kernel
    exact congrArg (fun o : Option (Except Failure Bytes) =>
      (Request.accounts (.file "x" none) (o.bind faultOf)).map Deed.act) outcome

end Session

end Stencil
