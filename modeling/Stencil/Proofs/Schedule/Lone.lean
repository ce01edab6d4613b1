import Stencil.Proofs.Routine.Course
import Stencil.Proofs.Schedule.Deeds
import Stencil.Proofs.Schedule.Rest

/-!
# A request that runs alone

While one request is under way and no other, all that is done is what it does, from its beginning to its end, and
where it waits for a load, what that load does. So the deeds of such a time are those of one course of the request,
in the order of that course.

## Main definitions

- `Routine.Leaves` — what is left of a routine after some exchanges
- `Routine.Expands` — the deeds that the exchanges of a course take
- `Standing.Reached` — where a routine stands that has done certain things
- `Host.Traces` — what is known of the state by what was done for a service
- `Event.Still`, `Event.Brings` — events that leave alone what is under way, and those that bring a request in
- `Scheduler.Orderly` — loads are forgotten before their outcome is told
- `Scheduler.Vacant` — nothing is under way
- `Scheduler.Lone` — one request is under way and no other, and these deeds were done for it

## Main results

- `Scheduler.Regular.after` — schedulers stay orderly
- `Scheduler.lone_of_brings` — a request that is brought in while nothing is under way is alone
- `Scheduler.Lone.after`, `Scheduler.Lone.play` — it stays alone until another one is brought in
- `Scheduler.Lone.course` — when it has ended, what was done is what one of its courses takes
-/

namespace Stencil

variable {σ V α β : Type}

/-! ### What a routine has done -/

namespace Routine

/-- What is left of a routine after some exchanges: what it may still come to, the routine may come to after these. -/
def Leaves (r : Routine V α) (xs : List (Exchange V)) (rest : Routine V α) : Prop :=
  ∀ ys o, rest.Course ys o → r.Course (xs ++ ys) o

theorem Leaves.refl (r : Routine V α) : r.Leaves [] r := fun _ _ course => course

/-- One more exchange. -/
theorem Leaves.next {r rest rest' : Routine V α} {xs : List (Exchange V)} (leaves : r.Leaves xs rest)
    (x : Exchange V) (goes : ∀ ys o, rest'.Course ys o → rest.Course (x :: ys) o) :
    r.Leaves (xs ++ [x]) rest' := by
  intro ys o course
  rw [List.append_assoc]
  exact leaves _ o (goes ys o course)

theorem Leaves.course {r : Routine V α} {xs : List (Exchange V)} {o : Except Failure α}
    (leaves : r.Leaves xs (.finish o)) : r.Course xs o := by
  have course := leaves [] o ⟨rfl, rfl⟩
  rwa [List.append_nil] at course

/-- The deeds that some exchanges take where nothing is cancelled and nothing else is under way. A load that is shared
takes the deeds of its own course. -/
inductive Expands (load : Text → Text → Routine V V) : List (Exchange V) → List (Deed V) → Prop where
  | nil : Expands load [] []
  | lookup (name : Text) (found : Option V) {xs : List (Exchange V)} {ds : List (Deed V)}
      (rest : Expands load xs ds) : Expands load (.lookup name found :: xs) (.lookup name found :: ds)
  | act (a : Act V) {xs : List (Exchange V)} {ds : List (Deed V)} (rest : Expands load xs ds) :
      Expands load (.act a :: xs) (.act a :: ds)
  | read (path : Text) (answer : Except Failure Bytes) {xs : List (Exchange V)} {ds : List (Deed V)}
      (rest : Expands load xs ds) : Expands load (.read path answer :: xs) (.begin path :: .serve path answer :: ds)
  | share {name path : Text} {ys xs : List (Exchange V)} {es ds : List (Deed V)} {o : Except Failure V}
      (course : (load name path).Course ys o) (loads : Expands load ys es) (rest : Expands load xs ds) :
      Expands load (.share name path (toldOf o) :: xs) (es ++ ds)

variable {load : Text → Text → Routine V V} {xs ys : List (Exchange V)} {ds es : List (Deed V)}

@[simp] theorem expands_nil : Expands load [] ds ↔ ds = [] := by
  constructor
  · rintro ⟨⟩
    rfl
  · rintro rfl
    exact .nil

@[simp] theorem expands_lookup {name : Text} {found : Option V} :
    Expands load (.lookup name found :: xs) ds ↔ ∃ ds', ds = .lookup name found :: ds' ∧ Expands load xs ds' := by
  constructor
  · rintro ⟨⟩
    exact ⟨_, rfl, ‹_›⟩
  · rintro ⟨ds', rfl, rest⟩
    exact .lookup name found rest

@[simp] theorem expands_act {a : Act V} :
    Expands load (.act a :: xs) ds ↔ ∃ ds', ds = .act a :: ds' ∧ Expands load xs ds' := by
  constructor
  · rintro ⟨⟩
    exact ⟨_, rfl, ‹_›⟩
  · rintro ⟨ds', rfl, rest⟩
    exact .act a rest

@[simp] theorem expands_read {path : Text} {answer : Except Failure Bytes} :
    Expands load (.read path answer :: xs) ds ↔
      ∃ ds', ds = .begin path :: .serve path answer :: ds' ∧ Expands load xs ds' := by
  constructor
  · rintro ⟨⟩
    exact ⟨_, rfl, ‹_›⟩
  · rintro ⟨ds', rfl, rest⟩
    exact .read path answer rest

theorem Expands.append (expands : Expands load xs ds) (expands' : Expands load ys es) :
    Expands load (xs ++ ys) (ds ++ es) := by
  induction expands with
  | nil => exact expands'
  | lookup name found _ ih => exact .lookup name found ih
  | act a _ ih => exact .act a ih
  | read path answer _ ih => exact .read path answer ih
  | share course loads _ _ ih =>
    rw [List.append_assoc]
    exact .share course loads ih

/-- What a sequence of exchanges takes, its parts take one after the other. -/
theorem Expands.split (expands : Expands load (xs ++ ys) ds) :
    ∃ ds₁ ds₂, ds = ds₁ ++ ds₂ ∧ Expands load xs ds₁ ∧ Expands load ys ds₂ := by
  induction xs generalizing ds with
  | nil => exact ⟨[], ds, rfl, .nil, expands⟩
  | cons x xs ih =>
    cases expands with
    | lookup name found rest =>
      obtain ⟨ds₁, ds₂, rfl, first, second⟩ := ih rest
      exact ⟨_, ds₂, rfl, .lookup name found first, second⟩
    | act a rest =>
      obtain ⟨ds₁, ds₂, rfl, first, second⟩ := ih rest
      exact ⟨_, ds₂, rfl, .act a first, second⟩
    | read path answer rest =>
      obtain ⟨ds₁, ds₂, rfl, first, second⟩ := ih rest
      exact ⟨_, ds₂, rfl, .read path answer first, second⟩
    | @share _ _ _ _ es _ _ course loads rest =>
      obtain ⟨ds₁, ds₂, rfl, first, second⟩ := ih rest
      exact ⟨es ++ ds₁, ds₂, (List.append_assoc ..).symm, .share course loads first, second⟩

end Routine

open Routine (Expands)

/-- Where a routine stands that has done certain things since it began, unless it waits for a load. -/
inductive Standing.Reached (load : Text → Text → Routine V V) (r : Routine V β) :
    List (Deed V) → Standing V β → Prop where
  | fresh : Reached load r [] (.fresh r)
  | held {path : Text} {next : Except Failure Bytes → Routine V β} {xs : List (Exchange V)} {ds : List (Deed V)}
      (expands : Expands load xs ds) (leaves : r.Leaves xs (.read path next)) : Reached load r ds (.held path next)
  | passed {path : Text} {next : Except Failure Bytes → Routine V β} {xs : List (Exchange V)} {ds : List (Deed V)}
      (expands : Expands load xs ds) (leaves : r.Leaves xs (.read path next)) : Reached load r ds (.passed path next)
  | paused {path : Text} {next : Except Failure Bytes → Routine V β} {xs : List (Exchange V)} {ds : List (Deed V)}
      (expands : Expands load xs ds) (leaves : r.Leaves xs (.read path next)) :
      Reached load r (ds ++ [.begin path]) (.paused path next)
  | landed {o : Except Failure V} {next : Except Failure V → Routine V β} {xs : List (Exchange V)}
      {ds : List (Deed V)} (expands : Expands load xs ds) (leaves : r.Leaves xs (next o)) :
      Reached load r ds (.landed o next)
  | ended {o : Except Failure β} {xs : List (Exchange V)} {ds : List (Deed V)} (expands : Expands load xs ds)
      (course : r.Course xs o) : Reached load r ds (.ended o)

/-- Where a routine stops that has done certain things since it began. -/
def Halt.Reached (load : Text → Text → Routine V V) (r : Routine V β) (ds : List (Deed V)) : Halt V β → Prop
  | .sharing name path next => ∃ xs, Expands load xs ds ∧ r.Leaves xs (.share name path next)
  | .ended o => (Standing.ended o).Reached load r ds
  | .held path next => (Standing.held path next).Reached load r ds
  | .paused path next => (Standing.paused path next).Reached load r ds

/-- Something about the state that the jobs of a service work on and what was done to it so far. -/
structure Host.Traces (h : Host σ V) (service : Nat) (R : List (Deed V) → σ → Prop) : Prop where
  deed : ∀ ds d x, R ds x → h.Answers service x d → R (ds ++ [d]) (h.effect service d x)

/-- What was done before may be left out. -/
theorem Host.Traces.since {h : Host σ V} {service : Nat} {R : List (Deed V) → σ → Prop} (traces : h.Traces service R)
    (before : List (Deed V)) : h.Traces service fun ds x => R (before ++ ds) x where
  deed ds d x now answers := by
    rw [← List.append_assoc]
    exact traces.deed _ d x now answers

/-- An event leaves alone what is under way: an entry of the queue is performed, the gate is opened, or the state is
changed in a way that keeps what is known of it. -/
inductive Event.Still (R : List (Deed V) → σ → Prop) : Event σ V α → Prop where
  | step : Still R .step
  | openGate : Still R .openGate
  | update {f : σ → σ} (keeps : ∀ ds x, R ds x → R ds (f x)) : Still R (.update f)

/-- An event brings a request in. -/
inductive Event.Brings (service : Nat) (r : Routine V α) : Event σ V α → Prop where
  | submit : Brings service r (.submit service r)
  | start : Brings service r (.start service r)

section

variable {h : Host σ V} {service : Nat} {R : List (Deed V) → σ → Prop} {load : Text → Text → Routine V V}
  {landed : Text → Option (Except Failure V)} {r rest : Routine V β} {xs : List (Exchange V)} {ds : List (Deed V)}
  {x y : σ} {halt : Halt V β}

/-- A routine that goes on until it stops. -/
theorem Host.Traces.advance (traces : h.Traces service R) (loose : ∀ name, landed name = none)
    (expands : Expands load xs ds) (leaves : r.Leaves xs rest) (now : R ds x) :
    (h.advance service landed rest x).1.Reached load r (ds ++ h.deeds service landed rest x) ∧
      R (ds ++ h.deeds service landed rest x) (h.advance service landed rest x).2 := by
  induction rest generalizing xs ds x with
  | finish o =>
    rw [Host.deeds, List.append_nil]
    exact ⟨.ended expands leaves.course, now⟩
  | lookup name next ih =>
    have more := expands.append (.lookup name (h.lookup service name x).1 .nil)
    have left := leaves.next (.lookup name (h.lookup service name x).1) fun ys o course => ⟨_, ys, rfl, course⟩
    have on := ih _ more left (traces.deed ds _ x now rfl)
    rwa [List.append_assoc] at on
  | act a next ih =>
    have more := expands.append (.act a .nil)
    have left := leaves.next (.act a) fun ys o course => ⟨ys, rfl, course⟩
    have on := ih more left (traces.deed ds (.act a) x now trivial)
    rwa [List.append_assoc] at on
  | read path next ih =>
    rw [Host.advance, Host.deeds]
    split
    · rw [List.append_nil]
      exact ⟨.held expands leaves, now⟩
    · exact ⟨.paused expands leaves, traces.deed ds (.begin path) x now trivial⟩
  | share name path next ih =>
    simp only [Host.advance, Host.deeds, loose]
    rw [List.append_nil]
    exact ⟨⟨xs, expands, leaves⟩, now⟩

/-- A routine that takes its turn. -/
theorem Standing.Reached.turn {st : Standing V β} (reached : st.Reached load r ds) (traces : h.Traces service R)
    (loose : ∀ name, landed name = none) (now : R ds x)
    (goes : h.turn service landed false st x = some (halt, y)) :
    halt.Reached load r (ds ++ h.turnDeeds service landed false st x) ∧
      R (ds ++ h.turnDeeds service landed false st x) y := by
  cases reached with
  | fresh =>
    have on := traces.advance loose (.nil : Expands load [] []) (.refl r) now
    rwa [Option.some.inj goes] at on
  | held | ended => cases goes
  | passed expands leaves =>
    cases goes
    exact ⟨.paused expands leaves, traces.deed ds (.begin _) x now trivial⟩
  | @paused path next xs ds expands leaves =>
    have more := expands.append (.read path (h.serve path x).1 .nil)
    have left := leaves.next (.read path (h.serve path x).1) fun ys o course => ⟨_, ys, rfl, course⟩
    have served := traces.deed _ (.serve path (h.serve path x).1) x now rfl
    rw [List.append_assoc] at served
    have on := traces.advance loose more left served
    rw [show h.advance service landed (next (h.serve path x).1) (h.effect service (.serve path _) x) = (halt, y) from
      Option.some.inj goes] at on
    rw [List.append_assoc] at on ⊢
    exact on
  | @landed o next xs ds expands leaves =>
    have on := traces.advance loose expands leaves now
    rwa [show h.advance service landed (next o) x = (halt, y) from Option.some.inj goes] at on

end

namespace Scheduler

variable {h : Host σ V} {s t : Scheduler σ V α}

/-! ### Loads are forgotten in time -/

/-- Whoever is told the outcome of a load is told it after the load has ended and was forgotten. -/
def Orderly (s : Scheduler σ V α) : Prop :=
  ∀ l k pre post, s.queue = pre ++ .relay l k :: post →
    (∃ job, s.job? l = some job ∧ job.work.phase = .ended) ∧ (.forget l ∈ pre ∨ ∀ key, (key, l) ∉ s.flights)

/-- What comes to the queue: nobody is told anything, or a load has ended that is forgotten first. -/
def Comes (s : Scheduler σ V α) (new : List Handle) : Prop :=
  (∀ l k, Handle.relay l k ∉ new) ∨ ∃ (l : Nat) (waiters : List Nat), new = .forget l :: waiters.map (Handle.relay l) ∧
    ∃ job, s.job? l = some job ∧ job.work.phase = .ended

theorem Turns.comes {id : Nat} (turns : s.Turns h id t) : ∃ new, t.queue = s.queue ++ new ∧ t.Comes new := by
  cases turns with
  | idle => exact ⟨[], (List.append_nil _).symm, .inl fun _ _ => List.not_mem_nil⟩
  | @ended _ service wrap o x acting =>
    refine ⟨_, rfl, ?_⟩
    obtain ⟨job, at_, _, _, same⟩ := acting.exists_job
    have now := s.job?_reseat id service id (wrap (.ended o)) x
    rw [if_pos rfl, at_] at now
    have phase := (same (.ended o)).2.2
    generalize wrap (.ended o) = w at now phase ⊢
    cases w with
    | request st => exact .inl (by simp [Work.endHandles])
    | load name st waiters => exact .inr ⟨id, waiters, rfl, _, now, phase⟩
  | held => exact ⟨[], (List.append_nil _).symm, .inl fun _ _ => List.not_mem_nil⟩
  | paused => exact ⟨_, rfl, .inl (by simp)⟩
  | joined => exact ⟨[], (List.append_nil _).symm, .inl fun _ _ => List.not_mem_nil⟩
  | started => exact ⟨_, rfl, .inl (by simp)⟩

theorem wake_comes (s : Scheduler σ V α) (id : Nat) (f : {β : Type} → Standing V β → Option (Standing V β)) :
    ∃ new, (s.wake id f).queue = s.queue ++ new ∧ ∀ l k, Handle.relay l k ∉ new := by
  obtain wakes | ⟨_, e⟩ := s.wake_cases id f
  · exact ⟨_, wakes.queue, by simp⟩
  · exact ⟨[], by rw [e, List.append_nil], fun _ _ => List.not_mem_nil⟩

theorem openGate_comes (s : Scheduler σ V α) :
    ∃ new, s.openGate.queue = s.queue ++ new ∧ ∀ l k, Handle.relay l k ∉ new := by
  refine openGate_keeps (P := fun t => ∃ new, t.queue = s.queue ++ new ∧ ∀ l k, Handle.relay l k ∉ new)
    (fun t id kept => ?_) (fun _ kept => kept) ⟨[], (List.append_nil _).symm, fun _ _ => List.not_mem_nil⟩
  obtain ⟨new, e, none⟩ := kept
  obtain ⟨new', e', none'⟩ := wake_comes t id fun st => st.pass?
  refine ⟨new ++ new', by rw [e', e, List.append_assoc], fun l k mem => ?_⟩
  exact (List.mem_append.mp mem).elim (none l k) (none' l k)

/-- **What an event adds to the queue.** A step takes the first entry away. -/
theorem after_comes (h : Host σ V) (s : Scheduler σ V α) (e : Event σ V α) :
    ∃ new, (s.after h e).Comes new ∧ ((s.after h e).queue = s.queue ++ new ∨
      ∃ x rest, e = .step ∧ s.queue = x :: rest ∧ (s.after h e).queue = rest ++ new) := by
  cases e with
  | step =>
    cases queue : s.queue with
    | nil =>
      rw [after, step_of_empty queue]
      exact ⟨[], .inl fun _ _ => List.not_mem_nil, .inl (by rw [queue, List.append_nil])⟩
    | cons x rest =>
      rw [after, step_of_queue queue]
      obtain ⟨new, e, comes⟩ : ∃ new, (perform h { s with queue := rest } x).queue = rest ++ new ∧
          (perform h { s with queue := rest } x).Comes new := by
        cases x with
        | turn id => exact (takeTurn_turns h { s with queue := rest } id).comes
        | forget l => exact ⟨[], (List.append_nil _).symm, .inl fun _ _ => List.not_mem_nil⟩
        | report id => exact ⟨[], (List.append_nil _).symm, .inl fun _ _ => List.not_mem_nil⟩
        | relay l id =>
          rw [perform]
          split
          · exact ⟨[], (List.append_nil _).symm, .inl fun _ _ => List.not_mem_nil⟩
          · obtain ⟨new, e, none⟩ := wake_comes { s with queue := rest } id fun st => st.land? l _
            exact ⟨new, e, .inl none⟩
      exact ⟨new, comes, .inr ⟨x, rest, rfl, rfl, e⟩⟩
  | submit service r => exact ⟨_, .inl (by simp), .inl rfl⟩
  | start service r =>
    obtain ⟨new, e, comes⟩ := (takeTurn_turns h
      { s with jobs := s.jobs ++ [{ service, work := .request (.fresh r) }] } s.jobs.length).comes
    exact ⟨new, comes, .inl e⟩
  | cancel id =>
    obtain ⟨e, _⟩ | wakes | ⟨job, _, _, e⟩ := s.cancel_cases id
    · exact ⟨[], .inl fun _ _ => List.not_mem_nil, .inl (by rw [after, e, List.append_nil])⟩
    · exact ⟨_, .inl (by simp), .inl wakes.queue⟩
    · exact ⟨[], .inl fun _ _ => List.not_mem_nil, .inl (by rw [after, e, List.append_nil]; rfl)⟩
  | openGate =>
    obtain ⟨new, e, none⟩ := s.openGate_comes
    exact ⟨new, .inl none, .inl e⟩
  | answer id a =>
    obtain ⟨new, e, none⟩ := s.wake_comes id fun st => st.answer? a
    exact ⟨new, .inl none, .inl e⟩
  | update f => exact ⟨[], .inl fun _ _ => List.not_mem_nil, .inl (List.append_nil _).symm⟩

theorem Orderly.after (orderly : s.Orderly) (e : Event σ V α) : (s.after h e).Orderly := by
  intro l k pre post queue
  -- what is still queued was so before, and who is told a load has ended
  have old {front : List Handle} (before : ∃ post, s.queue = front ++ .relay l k :: post)
      (forgotten : .forget l ∈ front → .forget l ∈ pre ∨ ∀ key, (key, l) ∉ (s.after h e).flights) :
      (∃ job, (s.after h e).job? l = some job ∧ job.work.phase = .ended) ∧
        (.forget l ∈ pre ∨ ∀ key, (key, l) ∉ (s.after h e).flights) := by
    obtain ⟨post, before⟩ := before
    obtain ⟨⟨job, at_, ended⟩, mem | grounded⟩ := orderly l k front post before
    all_goals
      obtain ⟨job', now, same⟩ := after_ended (h := h) at_ ended e
      refine ⟨⟨job', now, (Job.phase_of_bare same).trans ended⟩, ?_⟩
    · exact forgotten mem
    · refine .inr fun key flying => ?_
      obtain flying | new := after_flights flying
      · exact grounded key flying
      · exact Nat.not_lt.mpr new (lt_of_job? at_)
  obtain ⟨new, comes, added⟩ := after_comes h s e
  have last {kept : List Handle} (is : (s.after h e).queue = kept ++ new) :
      (∃ post, kept = pre ++ .relay l k :: post) ∨
        (∃ job, (s.after h e).job? l = some job ∧ job.work.phase = .ended) ∧ .forget l ∈ pre := by
    rw [is] at queue
    obtain ⟨between, rfl, is⟩ | ⟨between, is, rest⟩ := List.append_eq_append_iff.mp queue
    · obtain none | ⟨l', waiters, rfl, ended⟩ := comes
      · exact absurd (is ▸ List.mem_append_right _ List.mem_cons_self) (none l k)
      · cases between with
        | nil => cases is
        | cons y between =>
          obtain ⟨rfl, rest⟩ := List.cons.inj is
          have told : Handle.relay l k ∈ waiters.map (Handle.relay l') := by
            rw [rest]
            exact List.mem_append_right _ List.mem_cons_self
          obtain ⟨_, _, same⟩ := List.mem_map.mp told
          obtain ⟨rfl, -⟩ := Handle.relay.inj same
          exact .inr ⟨ended, List.mem_append_right _ List.mem_cons_self⟩
    · cases between with
      | nil =>
        obtain none | ⟨l', waiters, rfl, ended⟩ := comes
        · refine absurd ?_ (none l k)
          rw [← List.nil_append new, ← rest]
          exact List.mem_cons_self
        · cases rest
      | cons y between =>
        obtain ⟨rfl, -⟩ := List.cons.inj rest
        exact .inl ⟨between, is⟩
  obtain is | ⟨x, rest, rfl, before, is⟩ := added
  · obtain kept | ⟨ended, first⟩ := last is
    · exact old kept .inl
    · exact ⟨ended, .inl first⟩
  · obtain ⟨post, kept⟩ | ⟨ended, first⟩ := last is
    · refine @old (x :: pre) ⟨post, by rw [before, kept]; rfl⟩ fun mem => ?_
      obtain rfl | mem := List.mem_cons.mp mem
      · refine .inr fun key flying => ?_
        rw [Scheduler.after, step_of_queue before] at flying
        simp [perform] at flying
      · exact .inl mem
    · exact ⟨ended, .inl first⟩

/-- What holds of all schedulers that a run comes to. -/
structure Regular (s : Scheduler σ V α) : Prop where
  linked : s.Linked s.queue
  orderly : s.Orderly
  solo : s.Solo

theorem regular_start (x : σ) : Regular ({ state := x } : Scheduler σ V α) where
  linked := linked_empty x
  orderly l k pre post queue := by
    change [] = pre ++ _ at queue
    simp at queue
  solo id job at_ := by
    rw [job?, List.getElem?_nil] at at_
    cases at_

/-- **Schedulers stay regular.** -/
theorem Regular.after (alone : ∀ service name path x, (h.load service name path x).Alone) (regular : s.Regular)
    (e : Event σ V α) : (s.after h e).Regular :=
  ⟨regular.linked.after e, regular.orderly.after e, regular.solo.after alone e⟩

theorem Regular.play (alone : ∀ service name path x, (h.load service name path x).Alone) (regular : s.Regular)
    (es : List (Event σ V α)) : (s.play h es).Regular := by
  induction es generalizing s with
  | nil => exact regular
  | cons e es ih => exact ih (regular.after alone e)

/-! ### The turn of a job -/

section

variable {id service : Nat} {wrap : Standing V β → Work V α} {st : Standing V β} {c : Bool} {y : σ}

/-- Nothing happens at the turn of a job that is not ready. -/
theorem takeTurn_idle (h : Host σ V) {job : Job V α} (at_ : s.job? id = some job) (unready : job.work.phase ≠ .ready) :
    s.takeTurn h id = s ∧ s.entriesOf h id = [] := by
  obtain ⟨service, work, c⟩ := job
  obtain ⟨β, wrap, st, seat, rfl⟩ := work.exists_seat
  rw [seat.phase] at unready
  obtain ⟨_, _, _, ready, _⟩ | ⟨_, _, rfl, _⟩ | ⟨_, stays⟩ :=
    h.turn_cases service (s.landed? service) c st s.state
  · exact absurd ready unready
  · exact absurd rfl unready
  · refine ⟨takeTurn_of_none seat at_ stays, ?_⟩
    rw [entriesOf_seat seat at_, deedsAt, stays, List.map_nil]

/-- Who has ended comes to no other end. -/
theorem job?_ending (s : Scheduler σ V α) (id k : Nat) : (s.ending id).job? k = s.job? k := by
  rw [ending]
  split <;> rfl

/-- What else a turn leaves as it is, if the job does not stop for a load. -/
theorem takeTurn_of_stop {halt : Halt V β} (seat : Seat V α β wrap)
    (at_ : s.job? id = some ⟨service, wrap st, c⟩)
    (goes : h.turn service (s.landed? service) c st s.state = some (halt, y))
    (stops : ∀ name path next, halt ≠ .sharing name path next) :
    (∀ k, (s.takeTurn h id).job? k =
      if k = id then some ⟨service, wrap (halt.standing 0), false⟩ else s.job? k) ∧
    (s.takeTurn h id).flights = s.flights ∧ (s.takeTurn h id).state = y := by
  have seated (w w' : Work V α) (k : Nat) : ((s.reseat id service w y).setWork id w').job? k =
      if k = id then some ⟨service, w', false⟩ else s.job? k := by
    rw [job?_setWork, job?_reseat]
    split
    · next is => rw [is, at_]; rfl
    · rfl
  rw [takeTurn_of_some seat at_ goes]
  cases halt with
  | ended o =>
    refine ⟨fun k => ?_, ?_, ?_⟩
    · rw [settle, job?_ending, seated]
      rfl
    all_goals
      rw [settle, ending]
      split <;> rfl
  | held path next => exact ⟨seated _ _, rfl, rfl⟩
  | paused path next => exact ⟨seated _ _, rfl, rfl⟩
  | sharing name path next => exact absurd rfl (stops name path next)

/-- The turn of a job that stops for a load which is started for it. -/
theorem takeTurn_of_start {name path : Text} {next : Except Failure V → Routine V β} (seat : Seat V α β wrap)
    (at_ : s.job? id = some ⟨service, wrap st, c⟩)
    (goes : h.turn service (s.landed? service) c st s.state = some (.sharing name path next, y))
    (grounded : s.flights.lookup (service, name) = none) :
    (∀ k, (s.takeTurn h id).job? k = if k = id then some ⟨service, wrap (.waiting s.jobs.length next), false⟩
      else if k = s.jobs.length then
        some ⟨service, .load name (.fresh (h.load service name path y)) [id], false⟩ else s.job? k) ∧
    (s.takeTurn h id).flights = s.flights ++ [((service, name), s.jobs.length)] ∧
    (s.takeTurn h id).state = y := by
  have lt := lt_of_job? at_
  have flights : (s.reseat id service (wrap st) y).flights.lookup (service, name) = none := grounded
  have length : (s.reseat id service (wrap st) y).jobs.length = s.jobs.length := List.length_set
  rw [takeTurn_of_some seat at_ goes, settle, join, flights]
  dsimp only
  rw [length]
  refine ⟨fun k => ?_, rfl, rfl⟩
  have apart : s.jobs.length ≠ id := Nat.ne_of_gt lt
  rw [job?_setWork]
  simp only [job?, spawn, push, reseat, List.getElem?_append, List.getElem?_set, List.length_set]
  grind

end

/-! ### A request that is alone -/

/-- Nothing is under way: all jobs have ended, and no load has an outcome that may still be told. -/
structure Vacant (s : Scheduler σ V α) : Prop where
  ended : ∀ id job, s.job? id = some job → job.work.phase = .ended
  grounded : s.flights = []

/-- One request is under way and no other: its job stands where it has come to by what was done so far, or it waits for
a load that stands where that has come to. -/
inductive Lone (load : Text → Text → Routine V V) (service id : Nat) (r : Routine V α) (s : Scheduler σ V α) :
    List (Deed V) → Prop where
  | own {st : Standing V α} {ds : List (Deed V)} (at_ : s.job? id = some ⟨service, .request st, false⟩)
      (reached : st.Reached load r ds)
      (others : ∀ k job, s.job? k = some job → k ≠ id → job.work.phase = .ended) (grounded : s.flights = []) :
      Lone load service id r s ds
  | loading {l : Nat} {name path : Text} {next : Except Failure V → Routine V α} {st : Standing V V}
      {waiters : List Nat} {xs : List (Exchange V)} {ds es : List (Deed V)}
      (at_ : s.job? id = some ⟨service, .request (.waiting l next), false⟩) (expands : Expands load xs ds)
      (leaves : r.Leaves xs (.share name path next))
      (at_l : s.job? l = some ⟨service, .load name st waiters, false⟩) (reached : st.Reached load (load name path) es)
      (others : ∀ k job, s.job? k = some job → k ≠ id → k ≠ l → job.work.phase = .ended)
      (flights : ∀ key m, (key, m) ∈ s.flights → m = l) : Lone load service id r s (ds ++ es)

section

variable {load : Text → Text → Routine V V} {service id : Nat} {r : Routine V α} {R : List (Deed V) → σ → Prop}
  {ds : List (Deed V)}

/-- What the jobs are and what is in flight is all that this speaks of. -/
theorem Lone.congr (lone : s.Lone load service id r ds) (jobs : t.jobs = s.jobs) (flights : t.flights = s.flights) :
    t.Lone load service id r ds := by
  have same (k : Nat) : t.job? k = s.job? k := congrArg (·[k]?) jobs
  cases lone with
  | own at_ reached others grounded =>
    exact .own ((same id).trans at_) reached (fun k job at_ => others k job ((same k).symm.trans at_))
      (flights.trans grounded)
  | loading at_ expands leaves at_l reached others aloft =>
    exact .loading ((same id).trans at_) expands leaves ((same _).trans at_l) reached
      (fun k job at_ => others k job ((same k).symm.trans at_)) (flights ▸ aloft)

/-- A load that has not ended has no outcome. -/
theorem landed?_of_live {l : Nat} {job : Job V α} (aloft : ∀ key m, (key, m) ∈ s.flights → m = l)
    (at_l : s.job? l = some job) (live : job.work.phase ≠ .ended) (service : Nat) (name : Text) :
    s.landed? service name = none := by
  rw [landed?]
  cases flying : s.flights.lookup (service, name) with
  | none => rfl
  | some m =>
    obtain rfl := aloft _ m (mem_of_lookup flying)
    simp only [Option.bind_eq_bind, Option.bind_some, at_l]
    cases landed : job.work.landed? with
    | none => rfl
    | some o => exact absurd ((Work.landed?_isSome job.work).mp (by rw [landed]; rfl)).2 live

/-- What a turn does that runs. -/
theorem entriesOf_of_goes {wrap : Standing V β → Work V α} {st : Standing V β} {halt : Halt V β} {y : σ} {k : Nat}
    (seat : Seat V α β wrap) (at_ : s.job? k = some ⟨service, wrap st, false⟩)
    (goes : h.turn service (s.landed? service) false st s.state = some (halt, y))
    (alone : ∀ name path next, halt = .sharing name path next → s.flights.lookup (service, name) = none) :
    (s.entriesOf h k).map Entry.deed = h.turnDeeds service (s.landed? service) false st s.state := by
  have joins : s.joining service halt = [] := by
    cases halt with
    | sharing name path next => simp [joining, alone name path next rfl]
    | ended | held | paused => rfl
  rw [entriesOf_seat seat at_, deedsAt, goes]
  dsimp only
  rw [joins, List.append_nil, List.map_map]
  exact List.map_id _

/-- Who does not stop for a load stands where it stops. -/
theorem reached_of_stop {halt : Halt V β} {q : Routine V β} (reached : halt.Reached load q ds)
    (stops : ∀ name path next, halt ≠ .sharing name path next) : (halt.standing 0).Reached load q ds := by
  cases halt with
  | sharing name path next => exact absurd rfl (stops name path next)
  | ended | held | paused => exact reached

/-- **The turn of a job** while one request is alone. -/
theorem Lone.turn (lone : s.Lone load service id r ds) (solo : s.Solo) (traces : h.Traces service R)
    (loads : ∀ ds x, R ds x → ∀ name path, h.load service name path x = load name path) (now : R ds s.state)
    (k : Nat) : (s.takeTurn h k).Lone load service id r (ds ++ (s.entriesOf h k).map Entry.deed) ∧
      R (ds ++ (s.entriesOf h k).map Entry.deed) (s.takeTurn h k).state := by
  have idle (rests : s.takeTurn h k = s ∧ s.entriesOf h k = []) :
      (s.takeTurn h k).Lone load service id r (ds ++ (s.entriesOf h k).map Entry.deed) ∧
        R (ds ++ (s.entriesOf h k).map Entry.deed) (s.takeTurn h k).state := by
    rw [rests.1, rests.2, List.map_nil, List.append_nil]
    exact ⟨lone, now⟩
  have ended {job : Job V α} (at_ : s.job? k = some job) (phase : job.work.phase = .ended) :=
    idle (takeTurn_idle h at_ (by simp [phase]))
  cases at_k : s.job? k with
  | none => exact idle ⟨by rw [takeTurn, at_k], by rw [entriesOf, at_k]⟩
  | some job =>
    cases lone with
    | @own st ds at_ reached others grounded =>
      by_cases is : k = id
      · subst is
        cases goes : h.turn service (s.landed? service) false st s.state with
        | none =>
          exact idle ⟨takeTurn_of_none .request at_ goes,
            by rw [entriesOf_seat .request at_, deedsAt, goes, List.map_nil]⟩
        | some stop =>
          obtain ⟨halt, y⟩ := stop
          have loose (name : Text) : s.landed? service name = none := by rw [landed?, grounded]; rfl
          have alone (name : Text) : s.flights.lookup (service, name) = none := by rw [grounded]; rfl
          obtain ⟨stands, now'⟩ := reached.turn traces loose now goes
          rw [← entriesOf_of_goes .request at_ goes fun name _ _ _ => alone name] at stands now'
          by_cases stops : ∀ name path next, halt ≠ .sharing name path next
          · obtain ⟨jobs, flights, rfl⟩ := takeTurn_of_stop .request at_ goes stops
            refine ⟨.own (by rw [jobs, if_pos rfl]) (reached_of_stop stands stops) (fun m job at_m other => ?_)
              (flights.trans grounded), now'⟩
            rw [jobs, if_neg other] at at_m
            exact others m job at_m other
          · push Not at stops
            obtain ⟨name, path, next, rfl⟩ := stops
            obtain ⟨xs, expands, leaves⟩ := stands
            obtain ⟨jobs, flights, rfl⟩ := takeTurn_of_start .request at_ goes (alone name)
            have apart : s.jobs.length ≠ k := Nat.ne_of_gt (lt_of_job? at_)
            have waits := jobs k
            have new := jobs s.jobs.length
            rw [if_pos rfl] at waits
            rw [if_neg apart, if_pos rfl, loads _ _ now'] at new
            rw [grounded] at flights
            refine ⟨?_, now'⟩
            rw [← List.append_nil (_ ++ _)]
            refine .loading waits expands leaves new .fresh (fun m job at_m other other' => ?_) (by simp [flights])
            rw [jobs, if_neg other, if_neg other'] at at_m
            exact others m job at_m other
      · exact ended at_k (others k job at_k is)
    | @loading l name path next st waiters xs ds es at_ expands leaves at_l reached others aloft =>
      by_cases is : k = id
      · subst is
        exact idle (takeTurn_idle h at_ (by simp [Work.phase, Standing.phase]))
      by_cases own : k = l
      · subst own
        have seat : Seat V α V fun st => .load name st waiters := .load name waiters
        cases goes : h.turn service (s.landed? service) false st s.state with
        | none =>
          exact idle ⟨takeTurn_of_none seat at_l goes,
            by rw [entriesOf_seat seat at_l, deedsAt, goes, List.map_nil]⟩
        | some stop =>
          obtain ⟨halt, y⟩ := stop
          have live : (Work.load name st waiters : Work V α).phase ≠ .ended := fun phase => by
            have unready : (Work.load name st waiters : Work V α).phase ≠ .ready := by simp [phase]
            obtain ⟨_, _, _, ready, _⟩ | ⟨_, _, rfl, _⟩ | ⟨_, stays⟩ :=
              h.turn_cases service (s.landed? service) false st s.state
            · exact unready ready
            · exact unready rfl
            · cases stays.symm.trans goes
          obtain ⟨stands, now'⟩ := reached.turn (traces.since ds) (landed?_of_live aloft at_l live service) now goes
          -- a load asks for no other load
          have stops : ∀ name path next, halt ≠ .sharing name path next := by
            rintro name' path' next' rfl
            have alone := Host.turn_all Routine.hereditary_alone (solo k _ at_l) (fun _ => trivial) goes 0
            obtain ⟨_, _, shares⟩ := alone
            exact shares
          obtain ⟨jobs, flights, rfl⟩ := takeTurn_of_stop seat at_l goes stops
          rw [entriesOf_of_goes seat at_l goes fun name path next is => absurd is (stops name path next),
            List.append_assoc]
          refine ⟨.loading (by rwa [jobs, if_neg (Ne.symm is)]) expands leaves (by rw [jobs, if_pos rfl])
            (reached_of_stop stands stops) (fun m job at_m other other' => ?_) (by rwa [flights]), now'⟩
          rw [jobs, if_neg other'] at at_m
          exact others m job at_m other other'
      · exact ended at_k (others k job at_k is own)

/-- Who has ended is not woken. -/
theorem Wakes.live {f : {β : Type} → Standing V β → Option (Standing V β)} {k : Nat} {job : Job V α} (rouses : Rouses f)
    (wakes : s.Wakes f t k) (at_ : s.job? k = some job) : job.work.phase ≠ .ended := by
  obtain ⟨β, wrap, st, st', _, _, seat, at_', roused, _⟩ := wakes.seat
  obtain rfl := Option.some.inj (at_'.symm.trans at_)
  intro ended
  rw [seat.phase] at ended
  obtain ⟨_, held | ⟨l, waits⟩⟩ := rouses st st' roused
  · cases held.symm.trans ended
  · cases waits.symm.trans ended

theorem wake_state (s : Scheduler σ V α) (id : Nat) (f : {β : Type} → Standing V β → Option (Standing V β)) :
    (s.wake id f).state = s.state := by
  obtain wakes | ⟨_, e⟩ := s.wake_cases id f
  · exact wakes.state
  · rw [e]

/-- **A job passes the gate** while one request is alone. -/
theorem Lone.pass (lone : s.Lone load service id r ds) (k : Nat) :
    (s.wake k fun st => st.pass?).Lone load service id r ds := by
  obtain wakes | ⟨_, stays⟩ := s.wake_cases k fun st => st.pass?
  · obtain ⟨job, work, at_k, goes, jobs⟩ := wakes.job
    have live := wakes.live rouses_pass at_k
    cases lone with
    | own at_ reached others grounded =>
      obtain rfl : k = id := Decidable.byContradiction fun other => live (others k job at_k other)
      obtain rfl := Option.some.inj (at_.symm.trans at_k)
      cases reached with
      | held expands leaves =>
        cases goes
        refine .own (by rw [jobs, if_pos rfl]) (.passed expands leaves) (fun m job at_m other => ?_)
          (wakes.flights.trans grounded)
        rw [jobs, if_neg other] at at_m
        exact others m job at_m other
      | _ => cases goes
    | @loading l _ _ _ _ _ _ _ _ at_ expands leaves at_l reached others aloft =>
      have apart : k ≠ id := by
        rintro rfl
        obtain rfl := Option.some.inj (at_.symm.trans at_k)
        cases goes
      obtain rfl : k = l := Decidable.byContradiction fun other => live (others k job at_k apart other)
      obtain rfl := Option.some.inj (at_l.symm.trans at_k)
      cases reached with
      | held expands' leaves' =>
        cases goes
        refine .loading (by rwa [jobs, if_neg (Ne.symm apart)]) expands leaves (by rw [jobs, if_pos rfl])
          (.passed expands' leaves') (fun m job at_m other other' => ?_) (by rwa [wakes.flights])
        rw [jobs, if_neg other'] at at_m
        exact others m job at_m other other'
      | _ => cases goes
  · rwa [stays]

/-- **A job is told the outcome of a load** that was forgotten, while one request is alone. -/
theorem Lone.land (lone : s.Lone load service id r ds) {l : Nat} {loaded : Job V α} {o : Except Failure V}
    (at_l : s.job? l = some loaded) (landed : loaded.work.landed? = some o) (forgotten : ∀ key, (key, l) ∉ s.flights)
    (k : Nat) : (s.wake k fun st => st.land? l o).Lone load service id r ds := by
  obtain wakes | ⟨_, stays⟩ := s.wake_cases k fun st => st.land? l o
  · obtain ⟨job, work, at_k, goes, jobs⟩ := wakes.job
    have live := wakes.live (rouses_land l o) at_k
    cases lone with
    | own at_ reached others grounded =>
      obtain rfl : k = id := Decidable.byContradiction fun other => live (others k job at_k other)
      obtain rfl := Option.some.inj (at_.symm.trans at_k)
      cases reached <;> cases goes
    | @loading l' name path next st waiters xs ds es at_ expands leaves at_l' reached others aloft =>
      by_cases is : k = id
      · subst is
        obtain rfl := Option.some.inj (at_.symm.trans at_k)
        by_cases same : l' = l
        · subst same
          obtain rfl := Option.some.inj (at_l'.symm.trans at_l)
          obtain rfl : work = .request (.landed o next) := by
            simpa [Work.restand?, Standing.land?, eq_comm] using goes
          cases reached with
          | ended expands' course =>
            rw [Work.landed?_ended] at landed
            obtain rfl := Option.some.inj landed
            have more := expands.append (.share course expands' .nil)
            rw [List.append_nil] at more
            refine .own (by rw [jobs, if_pos rfl])
              (.landed more (leaves.next _ fun ys o course => ⟨_, ys, rfl, course⟩)) (fun m job at_m other => ?_) ?_
            · rw [jobs, if_neg other] at at_m
              by_cases own : m = l'
              · subst own
                obtain rfl := Option.some.inj (at_l.symm.trans at_m)
                rfl
              · exact others m job at_m other own
            · rw [wakes.flights, List.eq_nil_iff_forall_not_mem]
              rintro ⟨key, m⟩ flying
              exact forgotten key (aloft key m flying ▸ flying)
          | _ => cases landed
        · simp [Work.restand?, Standing.land?, same] at goes
      · obtain rfl : k = l' := Decidable.byContradiction fun other => live (others k job at_k is other)
        obtain rfl := Option.some.inj (at_l'.symm.trans at_k)
        cases reached <;> cases goes
  · rwa [stays]

/-- **One event** while one request is alone. -/
theorem Lone.after (lone : s.Lone load service id r ds) (regular : s.Regular) (traces : h.Traces service R)
    (loads : ∀ ds x, R ds x → ∀ name path, h.load service name path x = load name path) (now : R ds s.state)
    {e : Event σ V α} (still : e.Still R) :
    (s.after h e).Lone load service id r (ds ++ (s.entries h e).map Entry.deed) ∧
      R (ds ++ (s.entries h e).map Entry.deed) (s.after h e).state := by
  have silent {t : Scheduler σ V α} (none : s.entries h e = []) (lone : t.Lone load service id r ds)
      (now : R ds t.state) : t.Lone load service id r (ds ++ (s.entries h e).map Entry.deed) ∧
        R (ds ++ (s.entries h e).map Entry.deed) t.state := by
    rw [none, List.map_nil, List.append_nil]
    exact ⟨lone, now⟩
  cases still with
  | update keeps => exact silent rfl (lone.congr rfl rfl) (keeps _ _ now)
  | openGate =>
    obtain ⟨lone, now⟩ := openGate_keeps (P := fun t => t.Lone load service id r ds ∧ R ds t.state)
      (fun t k kept => ⟨kept.1.pass k, by rw [wake_state]; exact kept.2⟩)
      (fun t kept => ⟨kept.1.congr rfl rfl, kept.2⟩) ⟨lone, now⟩
    exact silent rfl lone now
  | step =>
    cases queue : s.queue with
    | nil =>
      rw [Scheduler.after, step_of_empty queue]
      exact silent (by rw [entries, queue]) lone now
    | cons x rest =>
      have lone' : ({ s with queue := rest } : Scheduler σ V α).Lone load service id r ds := lone.congr rfl rfl
      cases x with
      | turn k =>
        have summons : s.Summons .step { s with queue := rest } k := .step queue
        rw [summons.after, summons.entries]
        exact lone'.turn regular.solo traces loads now k
      | report k =>
        rw [Scheduler.after, step_of_queue queue]
        exact silent (by rw [entries, queue]) (lone.congr rfl rfl) now
      | forget m =>
        rw [Scheduler.after, step_of_queue queue]
        refine silent (by rw [entries, queue]) ?_ now
        cases lone with
        | own at_ reached others grounded => exact .own at_ reached others (by simp [perform, grounded])
        | loading at_ expands leaves at_l reached others aloft =>
          exact .loading at_ expands leaves at_l reached others fun key k flying =>
            aloft key k (List.mem_filter.mp flying).1
      | relay l k =>
        obtain ⟨⟨loaded, at_l, _⟩, mem | forgotten⟩ := regular.orderly l k [] rest queue
        · cases mem
        have told : (({ s with queue := rest } : Scheduler σ V α).job? l).bind (fun job => job.work.landed?) =
            loaded.work.landed? := by
          rw [show ({ s with queue := rest } : Scheduler σ V α).job? l = some loaded from at_l, Option.bind_some]
        rw [Scheduler.after, step_of_queue queue, perform, told]
        cases landed : loaded.work.landed? with
        | none => exact silent (by rw [entries, queue]) lone' now
        | some o =>
          refine silent (by rw [entries, queue]) (lone'.land at_l landed forgotten k) ?_
          rw [wake_state]
          exact now

/-- **A request that is brought in** while nothing is under way is alone. -/
theorem lone_of_brings {e : Event σ V α} (brings : e.Brings service r) (vacant : s.Vacant) (traces : h.Traces service R)
    (loads : ∀ ds x, R ds x → ∀ name path, h.load service name path x = load name path) (now : R [] s.state) :
    (s.after h e).Lone load service s.jobs.length r ((s.entries h e).map Entry.deed) ∧
      R ((s.entries h e).map Entry.deed) (s.after h e).state := by
  let t : Scheduler σ V α := { s with jobs := s.jobs ++ [{ service, work := .request (.fresh r) }] }
  have jobs (k : Nat) (job : Job V α) (at_ : t.job? k = some job) (other : k ≠ s.jobs.length) :
      s.job? k = some job := by
    rw [job?, List.getElem?_append] at at_
    split at at_
    · exact at_
    · rw [List.getElem?_singleton, if_neg (by omega)] at at_
      cases at_
  have lone : t.Lone load service s.jobs.length r [] :=
    .own List.getElem?_concat_length .fresh (fun k job at_ other => vacant.ended k job (jobs k job at_ other))
      vacant.grounded
  cases brings with
  | submit => exact ⟨lone.congr rfl rfl, now⟩
  | start =>
    refine lone.turn (fun k job at_ => ?_) traces loads now s.jobs.length
    by_cases is : k = s.jobs.length
    · subst is
      obtain rfl := Option.some.inj (List.getElem?_concat_length.symm.trans at_)
      trivial
    · -- a load that has ended asks for nothing
      have ended := vacant.ended k job (jobs k job at_ is)
      obtain ⟨service', work, c⟩ := job
      cases work with
      | request st => trivial
      | load name st waiters =>
        cases st with
        | ended o => trivial
        | _ => cases ended

/-- **A request that runs alone** does what its course takes. -/
theorem Lone.play (alone : ∀ service name path x, (h.load service name path x).Alone)
    (lone : s.Lone load service id r ds) (regular : s.Regular) (traces : h.Traces service R)
    (loads : ∀ ds x, R ds x → ∀ name path, h.load service name path x = load name path) (now : R ds s.state)
    {es : List (Event σ V α)} (still : ∀ e ∈ es, e.Still R) :
    (s.play h es).Lone load service id r (ds ++ (s.record h es).map Entry.deed) ∧
      R (ds ++ (s.record h es).map Entry.deed) (s.play h es).state := by
  induction es generalizing s ds with
  | nil =>
    rw [record, List.map_nil, List.append_nil]
    exact ⟨lone, now⟩
  | cons e es ih =>
    obtain ⟨lone', now'⟩ := lone.after regular traces loads now (still e List.mem_cons_self)
    rw [record, List.map_append, ← List.append_assoc]
    exact ih lone' (regular.after alone e) now' fun e mem => still e (List.mem_cons_of_mem _ mem)

/-- When a request that was alone has ended, nothing is under way. -/
theorem Lone.vacant {o : Except Failure α} (lone : s.Lone load service id r ds) (ended : s.outcome? id = some o) :
    s.Vacant := by
  cases lone with
  | @own st _ at_ reached others grounded =>
    refine ⟨fun k job at_k => ?_, grounded⟩
    by_cases is : k = id
    · subst is
      obtain rfl := Option.some.inj (at_.symm.trans at_k)
      rw [outcome?, at_] at ended
      cases st with
      | ended o => rfl
      | _ => cases ended
    · exact others k job at_k is
  | loading at_ =>
    rw [outcome?, at_] at ended
    cases ended

/-- A request that has ended has done what one of its courses takes. -/
theorem Lone.course {o : Except Failure α} (lone : s.Lone load service id r ds) (ended : s.outcome? id = some o) :
    ∃ xs, r.Course xs o ∧ Expands load xs ds := by
  cases lone with
  | own at_ reached =>
    rw [outcome?, at_] at ended
    cases reached with
    | ended expands course =>
      cases ended
      exact ⟨_, course, expands⟩
    | _ => cases ended
  | loading at_ =>
    rw [outcome?, at_] at ended
    cases ended

end

end Scheduler

end Stencil
