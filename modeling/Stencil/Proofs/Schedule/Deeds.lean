import Stencil.Proofs.Schedule.Acts

/-!
# The record of a run

Whatever happens to the state that all jobs work on is done by a job at its turn, or from outside. Here the
deeds of the jobs are put on record, each with the job that does it. The state is what these deeds make of it, so
what can be counted in the state is the sum over the record.

## Main definitions

- `Deed` — one thing that is done to the state, and `Entry` — a deed with its job
- `Scheduler.entries` — what is done at an event, and `Scheduler.record` — what is done in a run
- `Scheduler.Move` — a job takes its turn at an event
- `Host.Shows` — something that the state shows, and what each deed makes of it

## Main results

- `Scheduler.after_passing` — at an event at most one job takes its turn
- `Scheduler.Move.state` — its deeds make the state
- `Host.Shows.after` — what the state shows after an event
-/

namespace Stencil

variable {σ V α β : Type}

/-- One thing that is done to the state that all jobs work on. -/
inductive Deed (V : Type) where
  | lookup (name : Text) (found : Option V)
  | act (a : Act V)
  /-- It is reported that a load was joined. -/
  | join (name : Text)
  /-- A read begins. -/
  | begin (path : Text)
  /-- A read is answered. -/
  | serve (path : Text) (answer : Except Failure Bytes)

/-- A deed with the job that does it, and the service of that job. -/
structure Entry (V : Type) where
  job : Nat
  service : Nat
  deed : Deed V

namespace Host

variable (h : Host σ V)

/-- What a deed does to the state. -/
def effect (service : Nat) : Deed V → σ → σ
  | .lookup name _, x => (h.lookup service name x).2
  | .act a, x => h.act service a x
  | .join name, x => h.act service (.note (.joined name)) x
  | .begin path, x => h.beginRead path x
  | .serve path _, x => (h.serve path x).2

/-- What a routine does until it stops. -/
def deeds (service : Nat) (landed : Text → Option (Except Failure V)) : Routine V β → σ → List (Deed V)
  | .finish _, _ => []
  | .lookup name next, x =>
    let found := h.lookup service name x
    .lookup name found.1 :: deeds service landed (next found.1) found.2
  | .act a next, x => .act a :: deeds service landed next (h.act service a x)
  | .read path _, x => if h.holding x then [] else [.begin path]
  | .share name _ next, x =>
    match landed name with
    | some o => .join name :: deeds service landed (next o) (h.act service (.note (.joined name)) x)
    | none => []

/-- What a routine does when it gets its turn. -/
def turnDeeds (service : Nat) (landed : Text → Option (Except Failure V)) (cancelling : Bool)
    (standing : Standing V β) (x : σ) : List (Deed V) :=
  match standing with
  | .fresh r => if cancelling then [] else h.deeds service landed r x
  | .passed path next =>
    if cancelling then h.deeds service landed (next (.error .cancelled)) x else [.begin path]
  | .paused path next =>
    if cancelling then h.deeds service landed (next (.error .cancelled)) x
    else
      let served := h.serve path x
      .serve path served.1 :: h.deeds service landed (next served.1) served.2
  | .landed o next => h.deeds service landed (next (if cancelling then .error .cancelled else o)) x
  | .resumed r => h.deeds service landed r x
  | .held .. | .waiting .. | .ended _ => []

variable {h}

theorem advance_deeds (service : Nat) (landed : Text → Option (Except Failure V)) (r : Routine V β) (x : σ) :
    (h.advance service landed r x).2 =
      (h.deeds service landed r x).foldl (fun x d => h.effect service d x) x := by
  induction r generalizing x with
  | finish o => rfl
  | lookup name next ih => exact ih _ _
  | act a next ih => exact ih _
  | read path next ih =>
    rw [advance, deeds]
    split <;> rfl
  | share name path next ih =>
    simp only [advance, deeds]
    cases landed name with
    | some o => exact ih o _
    | none => rfl

/-- **A turn leaves what its deeds make of the state.** -/
theorem turn_deeds {service : Nat} {landed : Text → Option (Except Failure V)} {cancelling : Bool}
    {st : Standing V β} {x y : σ} {halt : Halt V β}
    (goes : h.turn service landed cancelling st x = some (halt, y)) :
    y = (h.turnDeeds service landed cancelling st x).foldl (fun x d => h.effect service d x) x := by
  have runs {r : Routine V β} {z : σ} (goes : some (h.advance service landed r z) = some (halt, y)) :
      y = (h.deeds service landed r z).foldl (fun x d => h.effect service d x) z := by
    rw [← advance_deeds, Option.some.inj goes]
  cases st with
  | fresh r => cases cancelling with
    | true =>
      cases goes
      rfl
    | false => exact runs goes
  | passed path next => cases cancelling with
    | true => exact runs goes
    | false =>
      cases goes
      rfl
  | paused path next => cases cancelling with
    | true => exact runs goes
    | false => exact runs goes
  | landed o next => exact runs goes
  | resumed r => exact runs goes
  | held | waiting | ended => cases goes

/-- Who stops to have a name loaded was not told the outcome of a load of it. -/
theorem landed_of_sharing {service : Nat} {landed : Text → Option (Except Failure V)} {r : Routine V β} {x : σ}
    {name path : Text} {next : Except Failure V → Routine V β}
    (stops : (h.advance service landed r x).1 = .sharing name path next) : landed name = none := by
  induction r generalizing x with
  | finish o => cases stops
  | lookup other next' ih => exact ih _ stops
  | act a next' ih => exact ih stops
  | read other next' ih =>
    rw [advance] at stops
    split at stops <;> cases stops
  | share other path' next' ih =>
    simp only [advance] at stops
    cases told : landed other with
    | none =>
      rw [told] at stops
      cases stops
      exact told
    | some o =>
      rw [told] at stops
      exact ih o stops

theorem landed_of_sharing_turn {service : Nat} {landed : Text → Option (Except Failure V)} {c : Bool}
    {st : Standing V β} {x y : σ} {name path : Text} {next : Except Failure V → Routine V β}
    (goes : h.turn service landed c st x = some (.sharing name path next, y)) : landed name = none := by
  have runs {r : Routine V β} {x : σ} (goes : some (h.advance service landed r x) = some (.sharing name path next, y)) :
      landed name = none := landed_of_sharing (congrArg Prod.fst (Option.some.inj goes))
  cases st with
  | fresh r => cases c with
    | true => cases goes
    | false => exact runs goes
  | passed other next' => cases c with
    | true => exact runs goes
    | false => cases goes
  | paused other next' => cases c with
    | true => exact runs goes
    | false => exact runs goes
  | landed o next' => exact runs goes
  | resumed r => exact runs goes
  | held | waiting | ended => cases goes

/-- Who reports that it has joined a load was told the outcome of that load. -/
theorem landed_of_join {service : Nat} {landed : Text → Option (Except Failure V)} {r : Routine V β} {x : σ}
    {name : Text} (joins : .join name ∈ h.deeds service landed r x) : (landed name).isSome := by
  induction r generalizing x with
  | finish o => cases joins
  | lookup other next ih =>
    obtain ⟨⟩ | ⟨_, joins⟩ := joins
    exact ih _ joins
  | act a next ih =>
    obtain ⟨⟩ | ⟨_, joins⟩ := joins
    exact ih joins
  | read path next ih =>
    rw [deeds] at joins
    split at joins <;> simp at joins
  | share other path next ih =>
    simp only [deeds] at joins
    cases told : landed other with
    | none =>
      rw [told] at joins
      cases joins
    | some o =>
      rw [told] at joins
      obtain ⟨⟩ | ⟨_, joins⟩ := joins
      · rw [told]
        rfl
      · exact ih o joins

theorem landed_of_join_turn {service : Nat} {landed : Text → Option (Except Failure V)} {c : Bool}
    {st : Standing V β} {x : σ} {name : Text} (joins : .join name ∈ h.turnDeeds service landed c st x) :
    (landed name).isSome := by
  cases st with
  | fresh r => cases c with
    | true => cases joins
    | false => exact landed_of_join joins
  | passed path next => cases c with
    | true => exact landed_of_join joins
    | false => simp [turnDeeds] at joins
  | paused path next => cases c with
    | true => exact landed_of_join joins
    | false =>
      obtain ⟨⟩ | ⟨_, joins⟩ := joins
      exact landed_of_join joins
  | landed o next => exact landed_of_join joins
  | resumed r => exact landed_of_join joins
  | held | waiting | ended => cases joins

end Host

namespace Scheduler

/-- The report of a job that stops to wait for a load in flight. -/
def joining (s : Scheduler σ V α) (service : Nat) : Halt V β → List (Deed V)
  | .sharing name _ _ => if (s.flights.lookup (service, name)).isSome then [.join name] else []
  | .ended _ | .held .. | .paused .. => []

/-- What a job does that takes its turn, where its routine stands. -/
def deedsAt (h : Host σ V) (s : Scheduler σ V α) (service : Nat) (cancelling : Bool) (st : Standing V β) :
    List (Deed V) :=
  match h.turn service (s.landed? service) cancelling st s.state with
  | none => []
  | some (halt, _) =>
    h.turnDeeds service (s.landed? service) cancelling st s.state ++ s.joining service halt

/-- What the job of a number does that takes its turn. -/
def entriesOf (h : Host σ V) (s : Scheduler σ V α) (id : Nat) : List (Entry V) :=
  match s.job? id with
  | none => []
  | some { service, work := .request st, cancelling } =>
    (s.deedsAt h service cancelling st).map (Entry.mk id service)
  | some { service, work := .load _ st _, cancelling } =>
    (s.deedsAt h service cancelling st).map (Entry.mk id service)

/-- Whose turn it is at an event: the job of a number, in a scheduler without that entry of the queue, or with
that job as a new one. -/
inductive Summons (s : Scheduler σ V α) : Event σ V α → Scheduler σ V α → Nat → Prop where
  | step {id : Nat} {rest : List Handle} (front : s.queue = .turn id :: rest) :
      Summons s .step { s with queue := rest } id
  | start (service : Nat) (r : Routine V α) :
      Summons s (.start service r) { s with jobs := s.jobs ++ [{ service, work := .request (.fresh r) }] }
        s.jobs.length

/-- What is done at an event. -/
def entries (h : Host σ V) (s : Scheduler σ V α) : Event σ V α → List (Entry V)
  | .step =>
    match s.queue with
    | .turn id :: _ => s.entriesOf h id
    | _ => []
  | .start service r =>
    let job : Job V α := { service, work := .request (.fresh r) }
    let t := { s with jobs := s.jobs ++ [job] }
    t.entriesOf h s.jobs.length
  | _ => []

/-- What is done in a run. -/
def record (h : Host σ V) (s : Scheduler σ V α) : List (Event σ V α) → List (Entry V)
  | [] => []
  | e :: es => s.entries h e ++ (s.after h e).record h es

variable {h : Host σ V} {s t : Scheduler σ V α} {e : Event σ V α} {id : Nat}

theorem record_append (s : Scheduler σ V α) (es es' : List (Event σ V α)) :
    s.record h (es ++ es') = s.record h es ++ (s.play h es).record h es' := by
  induction es generalizing s with
  | nil => rfl
  | cons e es ih => rw [List.cons_append, record, record, ih, play_cons, List.append_assoc]

theorem entriesOf_seat {service : Nat} {wrap : Standing V β → Work V α} {st : Standing V β} {c : Bool}
    (seat : Seat V α β wrap) (at_ : s.job? id = some ⟨service, wrap st, c⟩) :
    s.entriesOf h id = (s.deedsAt h service c st).map (Entry.mk id service) := by
  cases seat <;> rw [entriesOf, at_]

namespace Summons

theorem unique {t' : Scheduler σ V α} {id' : Nat} (summons : s.Summons e t id) (summons' : s.Summons e t' id') :
    t' = t ∧ id' = id := by
  cases summons with
  | step front =>
    cases summons' with
    | step front' =>
      cases front.symm.trans front'
      exact ⟨rfl, rfl⟩
  | start service r =>
    cases summons'
    exact ⟨rfl, rfl⟩

theorem state (summons : s.Summons e t id) : t.state = s.state := by
  cases summons <;> rfl

theorem flights (summons : s.Summons e t id) : t.flights = s.flights := by
  cases summons <;> rfl

theorem length_le (summons : s.Summons e t id) : s.jobs.length ≤ t.jobs.length := by
  cases summons with
  | step front => exact Nat.le_refl _
  | start service r => simp

theorem after (summons : s.Summons e t id) : s.after h e = t.takeTurn h id := by
  cases summons with
  | step front => exact step_of_queue front
  | start service r => rfl

theorem entries (summons : s.Summons e t id) : s.entries h e = t.entriesOf h id := by
  cases summons with
  | step front =>
    simp only [Scheduler.entries, front]
    rfl
  | start service r => rfl

/-- A new request tells no outcome of a load. -/
theorem landed? (summons : s.Summons e t id) : t.landed? = s.landed? := by
  cases summons with
  | step front => rfl
  | start service r =>
    funext service' name
    rw [Scheduler.landed?, Scheduler.landed?]
    cases s.flights.lookup (service', name) with
    | none => rfl
    | some l =>
      simp only [Option.bind_eq_bind, Option.bind_some, job?]
      obtain lt | eq | gt := Nat.lt_trichotomy l s.jobs.length
      · rw [List.getElem?_append_left lt]
      · rw [eq, List.getElem?_concat_length, List.getElem?_eq_none (Nat.le_refl _)]
        rfl
      · rw [List.getElem?_eq_none (Nat.le_of_lt gt),
          List.getElem?_eq_none (by rw [List.length_append, List.length_singleton]; exact gt)]

/-- A new request has come to no outcome. -/
theorem outcome? (summons : s.Summons e t id) (k : Nat) : t.outcome? k = s.outcome? k := by
  cases summons with
  | step front => rfl
  | start service r =>
    rw [Scheduler.outcome?, Scheduler.outcome?, job?, job?]
    obtain lt | le := Nat.lt_or_ge k s.jobs.length
    · rw [List.getElem?_append_left lt]
    · rw [List.getElem?_append_right le, List.getElem?_eq_none le]
      cases k - s.jobs.length <;> rfl

theorem plays (summons : s.Summons e t id) {job : Job V α} (at_ : t.job? id = some job) : s.Plays e job := by
  cases summons with
  | step front => exact .step front at_
  | start service r =>
    obtain rfl : ⟨service, .request (.fresh r), false⟩ = job := by simpa [job?] using at_
    exact .start service r

end Summons

/-- A job of number `id` takes its turn at an event, and its routine stops at `halt`. -/
structure Move (h : Host σ V) (s : Scheduler σ V α) (e : Event σ V α) (t : Scheduler σ V α) (id service : Nat)
    (wrap : Standing V β → Work V α) (st : Standing V β) (c : Bool) (halt : Halt V β) (y : σ) : Prop where
  summons : s.Summons e t id
  seat : Seat V α β wrap
  at_ : t.job? id = some ⟨service, wrap st, c⟩
  goes : h.turn service (s.landed? service) c st s.state = some (halt, y)

/-- No job takes its turn at an event: either none is called, or the one that is called is not ready. -/
structure Rests (h : Host σ V) (s : Scheduler σ V α) (e : Event σ V α) : Prop where
  idle : ∀ t id, s.Summons e t id → t.takeTurn h id = t ∧ t.entriesOf h id = []

namespace Rests

variable (rests : s.Rests h e)

include rests

theorem entries : s.entries h e = [] := by
  cases e with
  | step =>
    cases queue : s.queue with
    | nil => rw [Scheduler.entries, queue]
    | cons x rest =>
      cases x with
      | turn id =>
        have summons : s.Summons .step { s with queue := rest } id := .step queue
        rw [summons.entries, (rests.idle _ _ summons).2]
      | forget | report | relay => simp only [Scheduler.entries, queue]
  | start service r => exact (rests.idle _ _ (.start service r)).2
  | submit | cancel | openGate | answer | update => rfl

/-- Nothing happens to the state but what comes from outside. -/
theorem state : (s.after h e).state = s.state ∨ ∃ f, e = .update f ∧ (s.after h e).state = f s.state := by
  have idle {t : Scheduler σ V α} {id : Nat} (summons : s.Summons e t id) : (s.after h e).state = s.state := by
    rw [summons.after, (rests.idle t id summons).1, summons.state]
  obtain same | update | ⟨job, plays, _⟩ := s.after_state h e
  · exact .inl same
  · exact .inr update
  · cases plays with
    | step front _ => exact .inl (idle (.step front))
    | start service r => exact .inl (idle (.start service r))

end Rests

/-- An event passes: no job takes its turn, or one does. -/
inductive Passing (h : Host σ V) (s : Scheduler σ V α) (e : Event σ V α) : Prop where
  | rests (rests : s.Rests h e)
  | moves {t : Scheduler σ V α} {id service : Nat} {β : Type} {wrap : Standing V β → Work V α}
      {st : Standing V β} {c : Bool} {halt : Halt V β} {y : σ} (move : s.Move h e t id service wrap st c halt y)

/-- **At an event at most one job takes its turn.** -/
theorem after_passing (h : Host σ V) (s : Scheduler σ V α) (e : Event σ V α) : s.Passing h e := by
  by_cases summoned : ∃ t id, s.Summons e t id
  · obtain ⟨t, id, summons⟩ := summoned
    have rests (idle : t.takeTurn h id = t ∧ t.entriesOf h id = []) : s.Rests h e := ⟨fun t' id' summons' => by
      obtain ⟨rfl, rfl⟩ := summons.unique summons'
      exact idle⟩
    cases at_ : t.job? id with
    | none => exact .rests (rests ⟨by rw [takeTurn, at_], by rw [entriesOf, at_]⟩)
    | some job =>
      obtain ⟨service, work, c⟩ := job
      obtain ⟨β, wrap, st, seat, rfl⟩ := work.exists_seat
      cases goes : h.turn service (s.landed? service) c st s.state with
      | some stop => exact .moves ⟨summons, seat, at_, goes⟩
      | none =>
        rw [← summons.landed?, ← summons.state] at goes
        refine .rests (rests ⟨takeTurn_of_none seat at_ goes, ?_⟩)
        rw [entriesOf_seat seat at_, deedsAt, goes, List.map_nil]
  · exact .rests ⟨fun t id summons => absurd ⟨t, id, summons⟩ summoned⟩

namespace Move

variable {service : Nat} {wrap : Standing V β → Work V α} {st : Standing V β} {c : Bool} {halt : Halt V β} {y : σ}

theorem goes' (move : s.Move h e t id service wrap st c halt y) :
    h.turn service (t.landed? service) c st t.state = some (halt, y) := by
  rw [move.summons.landed?, move.summons.state, move.goes]

theorem entries (move : s.Move h e t id service wrap st c halt y) :
    s.entries h e = (h.turnDeeds service (s.landed? service) c st s.state ++ s.joining service halt).map
      (Entry.mk id service) := by
  rw [move.summons.entries, entriesOf_seat move.seat move.at_, deedsAt, move.goes', move.summons.landed?,
    move.summons.state]
  congr 2
  cases halt <;> simp only [joining, move.summons.flights]

/-- What is done at the turn of a job is done at that event, and nothing else. -/
theorem state (move : s.Move h e t id service wrap st c halt y) :
    (s.after h e).state = (s.entries h e).foldl (fun x d => h.effect d.service d.deed x) s.state := by
  have stops : (s.after h e).state = (s.joining service halt).foldl (fun x d => h.effect service d x) y := by
    rw [move.summons.after, takeTurn_of_some move.seat move.at_ move.goes']
    cases halt with
    | ended o =>
      rw [settle, ending]
      split <;> rfl
    | held | paused => rfl
    | sharing name path next =>
      have flights : (t.reseat id service (wrap st) y).flights = s.flights := move.summons.flights
      rw [settle, join, joining, flights]
      cases s.flights.lookup (service, name) <;> rfl
  rw [stops, move.entries, List.foldl_map, List.foldl_append, ← Host.turn_deeds move.goes]

/-- The job stands where its routine has stopped. -/
theorem job? (move : s.Move h e t id service wrap st c halt y) :
    ∃ l, (s.after h e).job? id = some ⟨service, wrap (halt.standing l), false⟩ := by
  rw [move.summons.after]
  exact ⟨_, takeTurn_job? move.seat move.at_ move.goes'⟩

/-- A load that takes its turn was there before. -/
theorem load_at (move : s.Move h e t id service wrap st c halt y) (isLoad : (wrap st).name?.isSome) :
    s.job? id = some ⟨service, wrap st, c⟩ := by
  obtain ⟨summons, seat, at_, _⟩ := move
  cases summons with
  | step front => exact at_
  | start service' r =>
    have new := Option.some.inj (List.getElem?_concat_length.symm.trans at_)
    have work : _ = wrap st := congrArg Job.work new
    rw [← work] at isLoad
    cases isLoad

/-- Whoever stops to have a name loaded waits for a load of that name, which is in flight or new. -/
theorem shares {name path : Text} {next : Except Failure V → Routine V β} (linked : s.Linked s.queue)
    (move : s.Move h e t id service wrap st c (.sharing name path next) y) :
    ∃ l load, (s.after h e).job? id = some ⟨service, wrap (.waiting l next), false⟩ ∧
      (s.after h e).job? l = some load ∧ load.key? = some (service, name) ∧
      (s.flights.lookup (service, name) = some l ∨ s.job? l = none) := by
  have now := takeTurn_job? move.seat move.at_ move.goes'
  rw [← move.summons.after, loadOf, move.summons.flights] at now
  cases flying : s.flights.lookup (service, name) with
  | some l =>
    rw [flying] at now
    obtain ⟨load, at_l, isLoad⟩ := linked.flight _ l (mem_of_lookup flying)
    obtain ⟨load', now', service', name'⟩ := play_kind (h := h) at_l [e]
    rw [Job.key?_eq_some] at isLoad
    exact ⟨l, load', now, now', Job.key?_eq_some.mpr ⟨service'.trans isLoad.1, name'.trans isLoad.2⟩, .inl rfl⟩
  | none =>
    rw [flying] at now
    have flights : (t.reseat id service (wrap st) y).flights.lookup (service, name) = none :=
      (congrArg _ move.summons.flights).trans flying
    have length : t.jobs.length = (t.reseat id service (wrap st) y).jobs.length := List.length_set.symm
    have apart : t.jobs.length ≠ id := Nat.ne_of_gt (lt_of_job? move.at_)
    let load : Job V α := ⟨service, .load name (.fresh (h.load service name path y)) [id], false⟩
    refine ⟨t.jobs.length, load, now, ?_, rfl, .inr (List.getElem?_eq_none move.summons.length_le)⟩
    rw [move.summons.after, takeTurn_of_some move.seat move.at_ move.goes', settle, join, flights]
    dsimp only
    rw [job?_setWork, if_neg apart, length]
    exact List.getElem?_concat_length

end Move

end Scheduler

/-! ### What the state shows of its record -/

namespace Host

/-- The answer of a deed is the one that the state gives. -/
def Answers (h : Host σ V) (service : Nat) (x : σ) : Deed V → Prop
  | .lookup name found => found = (h.lookup service name x).1
  | .serve path answer => answer = (h.serve path x).1
  | .act _ | .join _ | .begin _ => True

/-- Something that the state shows, as long as it is as it should be: each deed changes it in a certain way. -/
structure Shows {τ : Type} (h : Host σ V) (I : σ → Prop) (X : σ → τ) (f : Nat → τ → Deed V → τ) : Prop where
  keeps : ∀ service d x, I x → h.Answers service x d → I (h.effect service d x)
  shows : ∀ service d x, I x → h.Answers service x d → X (h.effect service d x) = f service (X x) d

variable {τ : Type} {h : Host σ V} {I : σ → Prop} {X : σ → τ} {f : Nat → τ → Deed V → τ} {x y : σ} {service : Nat}

/-- What is shown after some deeds is what they make of what was shown before. -/
def Follows (h : Host σ V) (I : σ → Prop) (X : σ → τ) (f : Nat → τ → Deed V → τ) (service : Nat) (x : σ)
    (ds : List (Deed V)) : Prop :=
  let y := ds.foldl (fun x d => h.effect service d x) x
  I y ∧ X y = ds.foldl (f service) (X x)

namespace Shows

variable (shows : h.Shows I X f)

include shows

theorem one (d : Deed V) (ok : I x) (answers : h.Answers service x d) {ds : List (Deed V)}
    (rest : I (h.effect service d x) → h.Follows I X f service (h.effect service d x) ds) :
    h.Follows I X f service x (d :: ds) := by
  obtain ⟨ok', same⟩ := rest (shows.keeps service d x ok answers)
  exact ⟨ok', by rw [List.foldl_cons, same, shows.shows service d x ok answers, List.foldl_cons]⟩

theorem deeds (landed : Text → Option (Except Failure V)) (r : Routine V β) (ok : I x) :
    h.Follows I X f service x (h.deeds service landed r x) := by
  induction r generalizing x with
  | finish o => exact ⟨ok, rfl⟩
  | lookup name next ih => exact shows.one (.lookup name _) ok rfl (ih _)
  | act a next ih => exact shows.one (.act a) ok trivial ih
  | read path next ih =>
    rw [Host.deeds]
    split
    · exact ⟨ok, rfl⟩
    · exact shows.one (.begin path) ok trivial fun ok => ⟨ok, rfl⟩
  | share name path next ih =>
    simp only [Host.deeds]
    cases landed name with
    | none => exact ⟨ok, rfl⟩
    | some o => exact shows.one (.join name) ok trivial (ih o)

theorem turnDeeds (service : Nat) (landed : Text → Option (Except Failure V)) (c : Bool) (st : Standing V β) (ok : I x) :
    h.Follows I X f service x (h.turnDeeds service landed c st x) := by
  cases st with
  | fresh r => cases c with
    | true => exact ⟨ok, rfl⟩
    | false => exact shows.deeds landed r ok
  | passed path next => cases c with
    | true => exact shows.deeds landed _ ok
    | false => exact shows.one (.begin path) ok trivial fun ok => ⟨ok, rfl⟩
  | paused path next => cases c with
    | true => exact shows.deeds landed _ ok
    | false => exact shows.one (.serve path _) ok rfl (shows.deeds landed _)
  | landed o next => exact shows.deeds landed _ ok
  | resumed r => exact shows.deeds landed r ok
  | held | waiting | ended => exact ⟨ok, rfl⟩

theorem joining (service : Nat) (s : Scheduler σ V α) (halt : Halt V β) (ok : I x) :
    h.Follows I X f service x (s.joining service halt) := by
  cases halt with
  | sharing name path next =>
    rw [Scheduler.joining]
    split
    · exact shows.one (.join name) ok trivial fun ok => ⟨ok, rfl⟩
    · exact ⟨ok, rfl⟩
  | _ => exact ⟨ok, rfl⟩

/-- **What the state shows** after an event is what the deeds make of what it showed before, unless the state is
changed from outside. -/
theorem after {s : Scheduler σ V α} {e : Event σ V α} (inside : ∀ g, e ≠ .update g) (ok : I s.state) :
    I (s.after h e).state ∧ X (s.after h e).state =
      (s.entries h e).foldl (fun a entry => f entry.service a entry.deed) (X s.state) := by
  obtain rests | @⟨_, _, service, _, _, st, c, halt, _, move⟩ := s.after_passing h e
  · obtain same | ⟨g, is, _⟩ := rests.state
    · rw [same, rests.entries]
      exact ⟨ok, rfl⟩
    · exact absurd is (inside g)
  · obtain ⟨ok', first⟩ := shows.turnDeeds service (s.landed? service) c st ok
    obtain ⟨ok'', second⟩ := shows.joining service s halt ok'
    rw [move.state, move.entries, List.foldl_map, List.foldl_append, List.foldl_map, List.foldl_append]
    exact ⟨ok'', second.trans (congrArg (fun a => (s.joining service halt).foldl (f service) a) first)⟩

end Shows

end Host

/-! ### The record and the list of what is done -/

/-- What is listed of a deed. -/
def Deed.act? : Deed V → Option (Act V)
  | act a => some a
  | join name => some (.note (.joined name))
  | lookup .. | begin _ | serve .. => none

namespace Host

variable {h : Host σ V}

/-- Whoever lists what is done does the same. -/
theorem deeds_recording (service : Nat) (landed : Text → Option (Except Failure V)) (r : Routine V β)
    (x : σ × List (Act V)) : h.recording.deeds service landed r x = h.deeds service landed r x.1 := by
  induction r generalizing x with
  | finish o => rfl
  | lookup name next ih => exact congrArg (_ :: ·) (ih _ _)
  | act a next ih => exact congrArg (_ :: ·) (ih _)
  | read path next ih => rfl
  | share name path next ih =>
    simp only [deeds]
    cases landed name with
    | some o => exact congrArg (_ :: ·) (ih o _)
    | none => rfl

theorem turnDeeds_recording (service : Nat) (landed : Text → Option (Except Failure V)) (c : Bool)
    (st : Standing V β) (x : σ × List (Act V)) :
    h.recording.turnDeeds service landed c st x = h.turnDeeds service landed c st x.1 := by
  cases st with
  | fresh r => cases c with
    | true => rfl
    | false => exact deeds_recording service landed r x
  | passed path next => cases c with
    | true => exact deeds_recording service landed _ x
    | false => rfl
  | paused path next => cases c with
    | true => exact deeds_recording service landed _ x
    | false => exact congrArg (_ :: ·) (deeds_recording service landed _ _)
  | landed o next => exact deeds_recording service landed _ x
  | resumed r => exact deeds_recording service landed r x
  | held | waiting | ended => rfl

/-- The list shows what is done. -/
theorem shows_recording (h : Host σ V) : h.recording.Shows (fun _ => True) Prod.snd
    fun _ acts d => acts ++ d.act?.toList where
  keeps _ _ _ _ _ := trivial
  shows _ d x _ _ := by
    cases d with
    | act a => rfl
    | join name => rfl
    | lookup | begin | serve => exact (List.append_nil x.2).symm

end Host

namespace Scheduler

variable {h : Host σ V}

theorem entriesOf_recording (s : Scheduler σ V α) (id : Nat) :
    s.unrecorded.entriesOf h.recording id = s.entriesOf h id := by
  have deeds {β : Type} (service : Nat) (c : Bool) (st : Standing V β) :
      s.unrecorded.deedsAt h.recording service c st = s.deedsAt h service c st := by
    have landed : s.unrecorded.landed? service = s.landed? service := rfl
    have state : s.unrecorded.state = (s.state, []) := rfl
    have joining (halt : Halt V β) : s.unrecorded.joining service halt = s.joining service halt := by
      cases halt <;> rfl
    have goes := Host.turn_recording (h := h) service (s.landed? service) c st (s.state, [])
    rw [deedsAt, deedsAt, landed, state, ← goes]
    cases h.recording.turn service (s.landed? service) c st (s.state, []) with
    | none => rfl
    | some stop =>
      simp only [Option.map_some, Host.turnDeeds_recording, joining]
      rfl
  cases at_ : s.job? id with
  | none =>
    have at_' : s.unrecorded.job? id = none := at_
    rw [entriesOf, entriesOf, at_, at_']
  | some job =>
    obtain ⟨service, work, c⟩ := job
    obtain ⟨β, wrap, st, seat, rfl⟩ := work.exists_seat
    rw [entriesOf_seat seat at_, entriesOf_seat (s := s.unrecorded) seat at_, deeds]

theorem entries_recording (s : Scheduler σ V α) (e : Event σ V α) :
    s.unrecorded.entries h.recording e.listed = s.entries h e := by
  cases e with
  | step =>
    have queue : s.unrecorded.queue = s.queue := rfl
    simp only [entries, Event.listed, queue]
    split
    · exact s.entriesOf_recording _
    · rfl
  | start service r =>
    let job : Job V α := { service, work := .request (.fresh r) }
    exact entriesOf_recording { s with jobs := s.jobs ++ [job] } s.jobs.length
  | submit | cancel | openGate | answer | update => rfl

/-- **What is listed at an event is what is on record.** -/
theorem actsAt_eq (s : Scheduler σ V α) (e : Event σ V α) (inside : ∀ f, e ≠ .update f) :
    s.actsAt h e = (s.entries h e).filterMap fun x => x.deed.act? := by
  have inside' : ∀ g, e.listed ≠ .update g := by
    intro g is
    cases e with
    | update f => exact inside f rfl
    | _ => cases is
  have shown := (h.shows_recording.after (s := s.unrecorded) inside' trivial).2
  rw [entries_recording] at shown
  have lists (acts : List (Act V)) (es : List (Entry V)) :
      es.foldl (fun acts x => acts ++ x.deed.act?.toList) acts = acts ++ es.filterMap fun x => x.deed.act? := by
    induction es generalizing acts with
    | nil => exact (List.append_nil acts).symm
    | cons x es ih =>
      rw [List.foldl_cons, ih, List.append_assoc]
      congr 1
      cases listed : x.deed.act? with
      | none => exact (List.filterMap_cons_none (f := fun x : Entry V => x.deed.act?) listed).symm
      | some a => exact (List.filterMap_cons_some (f := fun x : Entry V => x.deed.act?) listed).symm
  exact shown.trans (lists [] _)

end Scheduler

end Stencil
