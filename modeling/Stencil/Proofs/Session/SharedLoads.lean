import Stencil.Proofs.Schedule.Gate
import Stencil.Proofs.Session.Balance

/-!
# Loads that are shared

Where loads are shared a request neither reads nor puts anything into the cache: for a name that it does not find it
joins a load, or has one started. A load reads once, and it comes to its end whatever becomes of the requests.

## Main definitions

- `Deed.Quiet` — neither a read begins nor is a template put into the cache
- `Standing.hasRead`, `Work.isReading` — a load that has begun its read, and a job in the pause of a read

## Main results

- `Standing.Turns.shared` — what a request does at its turn where loads are shared
- `Session.reads_undergo` — a load reads once
- `Session.InService.load_ends` — a load ends
-/

namespace Stencil

open Deployment

namespace Deed

/-- Neither a read begins nor is a template put into the cache. -/
def Quiet {V : Type} (d : Deed V) : Prop :=
  d.kept = false ∧ d.begun = false

theorem quiet_plain {a : Act Compiled} (plain : a.Plain) : (Deed.act a).Quiet := by
  cases a with
  | keep => exact plain.elim
  | note | count | miss | run => exact ⟨rfl, rfl⟩

end Deed

section

variable {β : Type} {p : Pipeline} {ends : List (Act Compiled) → Except Failure β → Prop} {known more : Compiled → Prop}
  {missing : Text → Prop} {ds : List (Deed Compiled)}

theorem Pipeline.Walks.quiet (walks : p.Walks known missing ds) : ∀ d ∈ ds, d.Quiet := by
  induction walks with
  | nil => exact fun _ mem => absurd mem List.not_mem_nil
  | act plain _ ih => exact List.forall_mem_cons.mpr ⟨Deed.quiet_plain plain, ih⟩
  | run _ _ ih => exact List.forall_mem_cons.mpr ⟨⟨rfl, rfl⟩, ih⟩
  | miss shown _ ih | hit name v _ ih =>
    exact List.forall_mem_cons.mpr ⟨⟨rfl, rfl⟩, List.forall_mem_cons.mpr ⟨⟨rfl, rfl⟩, ih⟩⟩
  | join _ _ _ ih =>
    refine List.forall_mem_cons.mpr ⟨⟨rfl, rfl⟩, List.forall_mem_cons.mpr ⟨⟨rfl, rfl⟩, ?_⟩⟩
    exact List.forall_mem_cons.mpr ⟨⟨rfl, rfl⟩, ih⟩

/-- Who goes on although a name was not found has joined a load. -/
theorem Pipeline.Walks.joins (walks : p.Walks known missing ds) {name : Text} (absent : .lookup name none ∈ ds) :
    .join name ∈ ds := by
  induction walks with
  | nil => cases absent
  | act _ _ ih | run _ _ ih | miss _ _ ih | hit _ _ _ ih =>
    simp only [List.mem_cons, reduceCtorEq, false_or, Deed.lookup.injEq, and_false] at absent ⊢
    exact ih absent
  | join _ _ _ ih =>
    simp only [List.mem_cons, reduceCtorEq, false_or, Deed.lookup.injEq, and_true, Deed.join.injEq] at absent ⊢
    exact absent.imp id ih

theorem Request.quiet_closing (r : Request) (o : Except Failure Bytes) :
    ∀ d ∈ (r.closing o).map Deed.act, d.Quiet ∧ ∀ name v, d ≠ .lookup name v := by
  cases o with
  | ok b => exact fun _ mem => absurd mem List.not_mem_nil
  | error f =>
    rw [closing]
    split
    · rintro d mem
      simp only [List.map_cons, List.map_nil, List.mem_cons, List.not_mem_nil, or_false] at mem
      obtain rfl | rfl := mem <;> exact ⟨⟨rfl, rfl⟩, fun _ _ is => by cases is⟩
    · exact fun _ mem => absurd mem List.not_mem_nil

/-- **What a request does at its turn where loads are shared**: a name that it does not find it has joined the load of,
or it stops to have it loaded. -/
theorem Standing.Turns.shared {st : Standing Compiled Bytes} {c : Bool} {r : Request} {halt : Halt Compiled Bytes}
    (turns : st.Turns p r.Ends known missing c ds halt) (shared : p.singleFlight = true) :
    (∀ d ∈ ds, d.Quiet) ∧
    (∀ name, .lookup name none ∈ ds → .join name ∈ ds ∨ ∃ path k, halt = .sharing name path k) ∧
    ∀ name path k, halt = .sharing name path k → .lookup name none ∈ ds ∧ missing name := by
  have apart (alone : p.singleFlight = false) : False := Bool.noConfusion (shared.symm.trans alone)
  cases turns with
  | dropped r => exact ⟨fun _ => nofun, fun _ => nofun, fun _ _ _ => nofun⟩
  | begins alone => exact (apart alone).elim
  | @strides _ _ lead _ _ _ leads strides =>
    obtain ⟨walk, stop, rfl, walks, stops⟩ := strides
    have led : ∀ d ∈ lead, d.Quiet ∧ ∀ name v, d ≠ .lookup name v := by
      cases leads with
      | lands _ _ alone => exact (apart alone).elim
      | fails path next answer =>
        intro d mem
        obtain rfl := List.mem_singleton.mp mem
        exact ⟨⟨rfl, rfl⟩, fun _ _ is => by cases is⟩
      | fresh | passed | interrupted | landed | resumed => exact fun _ => nofun
    have split {d : Deed Compiled} (mem : d ∈ lead ++ (walk ++ stop)) : d ∈ lead ∨ d ∈ walk ∨ d ∈ stop := by
      simpa only [List.mem_append] using mem
    cases stops with
    | held alone | paused alone => exact (apart alone).elim
    | @ended acts o is =>
      have closed := r.quiet_closing o
      rw [← show acts = r.closing o from is] at closed
      refine ⟨fun d mem => ?_, fun name mem => .inl ?_, fun _ _ _ => nofun⟩
      · obtain mem | mem | mem := split mem
        · exact (led d mem).1
        · exact walks.quiet d mem
        · exact (closed d mem).1
      · obtain mem | mem | mem := split mem
        · exact absurd rfl ((led _ mem).2 name none)
        · exact List.mem_append_right _ (List.mem_append_left _ (walks.joins mem))
        · exact absurd rfl ((closed _ mem).2 name none)
    | @shares other path k _ _ _ absent =>
      refine ⟨fun d mem => ?_, fun name mem => ?_, fun name path' k' is => ?_⟩
      · obtain mem | mem | mem := split mem
        · exact (led d mem).1
        · exact walks.quiet d mem
        · simp only [List.mem_cons, List.not_mem_nil, or_false] at mem
          obtain rfl | rfl := mem <;> exact ⟨rfl, rfl⟩
      · obtain mem | mem | mem := split mem
        · exact absurd rfl ((led _ mem).2 name none)
        · exact .inl (List.mem_append_right _ (List.mem_append_left _ (walks.joins mem)))
        · simp only [List.mem_cons, List.not_mem_nil, or_false, reduceCtorEq, Deed.lookup.injEq, and_true] at mem
          exact .inr ⟨path, k, by rw [mem]⟩
      · obtain ⟨rfl, -, -⟩ := Halt.sharing.inj is
        exact ⟨List.mem_append_right _ (List.mem_append_right _ List.mem_cons_self), absent⟩

end

/-! ### Reads -/

/-- A load that has begun its read. -/
def Standing.hasRead {V β : Type} : Standing V β → Bool
  | .paused .. | .ended _ => true
  | .fresh _ | .held .. | .passed .. | .waiting .. | .landed .. | .resumed _ => false

def Work.hasRead : Work Compiled Bytes → Bool
  | .request _ => false
  | .load _ st _ => st.hasRead

/-- A job that is in the pause of a read. -/
def Work.isReading : Work Compiled Bytes → Bool
  | .request (.paused ..) | .load _ (.paused ..) _ => true
  | .request _ | .load .. => false

theorem Standing.Loading.reads {p : Pipeline} {name path : Text} {st : Standing Compiled Compiled}
    {ds : List (Deed Compiled)} {halt : Halt Compiled Compiled} (loading : st.Loading p name path ds halt) (l : Nat) :
    ds.countP Deed.begun + st.hasRead.toNat = (halt.standing l).hasRead.toNat := by
  cases loading <;> rfl

theorem trait_hasRead : Scheduler.Trait (fun w : Work Compiled Bytes => w.hasRead.toNat) 0 where
  bare {w w'} same := by
    cases w with
    | request st => rw [Work.bare_eq_request.mp same]
    | load name st ws =>
      cases w' with
      | request st' => cases same
      | load name' st' ws' =>
        cases same
        rfl
  roused seat roused := by cases seat <;> cases roused <;> rfl
  fresh _ := rfl

namespace Session

variable {s t u : Session} {services : List (Pipeline × Nat)} {asked : Nat → Request → Prop} {ls : List Line}
  {e : Event Deployment Compiled Bytes}

/-- A line that tells of a deed of one job. -/
def Line.of (id : Nat) (q : Deed Compiled → Bool) : Line → Bool
  | deed e => e.job == id && q e.deed
  | got .. | read => false

theorem countP_of_deeds (id own service : Nat) (ds : List (Deed Compiled)) (q : Deed Compiled → Bool) :
    ((ds.map (Entry.mk own service)).map Line.deed).countP (Line.of id q) = if own = id then ds.countP q else 0 := by
  rw [List.countP_map, List.countP_map]
  split
  · next is => exact List.countP_congr fun d _ => by simp [Line.of, is]
  · next other => exact List.countP_eq_zero.mpr fun d _ => by simp [Line.of, other]

/-- Loads read as often as they should have. -/
def LoadsRead (t : Session) (ls : List Line) : Prop :=
  ∀ id, (∀ job, t.job? id = some job → job.work.name?.isSome) →
    ls.countP (Line.of id Deed.begun) = (t.job? id).elim 0 fun job => job.work.hasRead.toNat

/-- **An event has a load read once.** -/
theorem LoadsRead.after (inService : t.InService services asked) (admits : t.Admits e) (brings : t.Brings asked e)
    (reads : LoadsRead t ls) : LoadsRead (t.after host e) (ls ++ (t.entries host e).map .deed) := by
  intro id isLoad
  have was : ∀ job, t.job? id = some job → job.work.name?.isSome := by
    intro job at_
    obtain ⟨job', now, _, name⟩ := Scheduler.play_kind (h := host) at_ [e]
    exact name ▸ isLoad job' now
  rw [List.countP_append, reads id was]
  by_cases moves : ∃ (u : Session) (service : Nat) (β : Type) (wrap : Standing Compiled β → Work Compiled Bytes)
    (st : Standing Compiled β) (c : Bool) (halt : Halt Compiled β) (d : Deployment),
    t.Move host e u id service wrap st c halt d
  · obtain ⟨u, service, β, wrap, st, c, halt, d, move⟩ := moves
    have stirs := inService.stirs admits brings (fun p _ _ => lacks_anyone p _) trivial move
    obtain ⟨l, now⟩ := move.job?
    have loads := isLoad _ now
    rw [move.seat.name? _ st] at loads
    rw [move.entries, countP_of_deeds, if_pos rfl, move.load_at loads, now]
    generalize host.turnDeeds service _ c st _ = ds at stirs
    cases stirs with
    | request | lost => cases loads
    | @load _ _ _ _ _ _ ds halt _ _ _ loading =>
      have reads := loading.reads l
      have alone : t.joining service halt = [] := by cases loading <;> rfl
      rw [alone, List.append_nil]
      exact (Nat.add_comm ..).trans reads
  · have same : ((t.after host e).job? id).elim 0 (fun job => job.work.hasRead.toNat) =
        (t.job? id).elim 0 fun job => job.work.hasRead.toNat :=
      trait_hasRead.still (fun _ _ _ => rfl) fun move => moves ⟨_, _, _, _, _, _, _, _, move⟩
    have none : ((t.entries host e).map Line.deed).countP (Line.of id Deed.begun) = 0 := by
      obtain rests | @⟨_, own, service, _, _, _, _, _, _, move⟩ := t.after_passing host e
      · rw [rests.entries]
        rfl
      · rw [move.entries, countP_of_deeds, if_neg]
        rintro rfl
        exact moves ⟨_, _, _, _, _, _, _, _, move⟩
    rw [none]
    exact same.symm

theorem countP_of_uses (a : Happening) (d : Deployment) (id : Nat) (q : Deed Compiled → Bool) :
    (a.uses d).countP (Line.of id q) = 0 := by
  cases a with
  | get service name =>
    rw [Happening.uses]
    split <;> rfl
  | incident | read | edit => rfl

/-- **A load reads once**, when it starts. -/
theorem reads_undergo (inService : s.InService services fun _ _ => True) (begun : s.jobs = []) (as : List Happening)
    {l service : Nat} {name : Text} {st : Standing Compiled Compiled} {ws : List Nat} {c : Bool}
    (at_ : (s.undergo as).job? l = some ⟨service, .load name st ws, c⟩) :
    (s.chronicle as).countP (Line.of l Deed.begun) = st.hasRead.toNat := by
  have kept := (inService.undergo (Q := LoadsRead) (fun _ _ _ => trivial) ?_ as ?_ ?_).2
  · have reads := kept l fun job at_' => by
      obtain rfl := Option.some.inj (at_.symm.trans at_')
      rfl
    rw [at_] at reads
    exact reads
  · intro id _
    rw [Scheduler.job?, begun]
    rfl
  · exact fun t ls e inService admits brings reads => reads.after inService admits brings
  · intro t ls a d _ _ reads id isLoad
    rw [List.countP_append, countP_of_uses, Nat.add_zero]
    exact reads id isLoad

/-! ### The end of a load -/

theorem InService.steps (inService : t.InService services fun _ _ => True) (n : Nat) :
    InService services (fun _ _ => True) (t.steps host n) := by
  induction n generalizing t with
  | zero => exact inService
  | succ n ih =>
    rw [Scheduler.steps_succ]
    exact ih (inService.after .step fun _ _ is => by cases is <;> contradiction)

/-- While reads pass, they pass after any number of turns. -/
theorem passing_steps (passing : t.state.held = false) (n : Nat) :
    (Scheduler.state (t.steps host n)).held = false := by
  induction n generalizing t with
  | zero => exact passing
  | succ n ih =>
    rw [Scheduler.steps_succ]
    refine ih ?_
    obtain rests | move := t.after_passing host .step
    · obtain same | ⟨_, is, _⟩ := rests.state
      · exact (congrArg Deployment.held same).trans passing
      · cases is
    · refine (congrArg Deployment.held move.state).trans ?_
      rw [move.entries, List.foldl_map]
      exact (frame_effects _ _ _).held.trans passing

variable {l service : Nat} {name : Text} {st : Standing Compiled Compiled} {ws : List Nat} {c : Bool}

/-- A load that is ready comes to its turn. -/
private theorem load_turn (inService : t.InService services fun _ _ => True) (linked : t.Linked t.queue)
    (passing : t.state.held = false) (at_ : t.job? l = some ⟨service, .load name st ws, c⟩)
    (ready : st.phase = .ready) : ∃ n ws' l' p path ds, ∃ halt : Halt Compiled Compiled,
      st.Loading p name path ds halt ∧ (∀ path next, halt ≠ .held path next) ∧
      (t.steps host n).job? l = some ⟨service, .load name (halt.standing l') ws', false⟩ := by
  obtain ⟨n, rest, job, front, now, same⟩ := Scheduler.turn_comes (h := host) linked at_ ready
  obtain ⟨service', work, c'⟩ := job
  obtain rfl : service' = service := Job.service_of_bare same
  have bare := Job.work_of_bare same
  cases work with
  | request st' => cases bare
  | load name' st' ws' =>
    obtain ⟨rfl, rfl⟩ : name' = name ∧ st' = st := by simpa [Work.bare] using bare
    have goes : ∃ halt d, host.turn service' (Scheduler.landed? (t.steps host n) service') c' st'
        (t.steps host n).state = some (halt, d) := by
      obtain ⟨_, _, _, _, goes⟩ | ⟨_, _, _, _, goes⟩ | ⟨unready, _⟩ := host.turn_cases service'
        (Scheduler.landed? (t.steps host n) service') c' st' (t.steps host n).state
      · exact ⟨_, _, goes⟩
      · exact ⟨_, _, goes⟩
      · exact absurd ready unready
    obtain ⟨halt, d, goes⟩ := goes
    obtain ⟨l', then_⟩ := Scheduler.step_job? (.load name' ws') now front goes
    have free := calm.turn (passing_steps passing n) goes
    have holds := (inService.steps n).jobs l _ now
    cases holds with
    | load served shared from_ onLoad =>
      exact ⟨n + 1, ws', l', _, _, _, halt, onLoad.turn goes, free, Scheduler.steps_add host n 1 t ▸ then_⟩

/-- **A load ends**, whatever becomes of those who wait for it, if nobody is held at the gate. -/
theorem InService.load_ends (inService : t.InService services fun _ _ => True) (linked : t.Linked t.queue)
    (unheld : t.Unheld host) (at_ : t.job? l = some ⟨service, .load name st ws, c⟩) : t.Ends host l := by
  have after_read {u : Session} {path : Text} {next : Except Failure Bytes → Routine Compiled Compiled} {ws : List Nat}
      {c : Bool} (inService : u.InService services fun _ _ => True) (linked : u.Linked u.queue)
      (passing : u.state.held = false) (at_ : u.job? l = some ⟨service, .load name (.paused path next) ws, c⟩) :
      u.Ends host l := by
    obtain ⟨n, ws', l', p, path, ds, halt, loading, _, now⟩ := load_turn inService linked passing at_ rfl
    refine ⟨n, _, now, ?_⟩
    cases loading <;> rfl
  have before_read (ready : st.phase = .ready) (unread : ∀ path next, st ≠ .paused path next) : t.Ends host l := by
    obtain ⟨n, ws', l', p, path, ds, halt, loading, free, now⟩ := load_turn inService linked unheld.passing at_ ready
    refine Scheduler.Ends.of_steps n ?_
    have reads {path : Text} {next : Except Failure Bytes → Routine Compiled Compiled} (is : halt = .paused path next) :
        (t.steps host n).Ends host l := by
      rw [is] at now
      have linked' : Scheduler.Linked (Scheduler.queue (t.steps host n)) (t.steps host n) := linked.play
      exact after_read (inService.steps n) linked' (passing_steps unheld.passing n) now
    cases loading with
    | holds => exact absurd rfl (free _ _)
    | pauses => exact reads rfl
    | begins => exact reads rfl
    | fails | lands => exact absurd rfl (unread _ _)
  have holds := inService.jobs l _ at_
  cases holds with
  | load _ _ _ onLoad =>
    cases onLoad with
    | fresh | passed => exact before_read rfl fun _ _ => nofun
    | held => exact absurd rfl (unheld.jobs l _ at_)
    | paused => exact after_read inService linked unheld.passing at_
    | ended o => exact ⟨0, _, at_, rfl⟩

end Session

end Stencil
