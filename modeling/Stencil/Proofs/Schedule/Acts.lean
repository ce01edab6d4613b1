import Stencil.Proofs.Schedule.Contract

/-!
# What a job does at its turn

A host can list what is done to its state. Under a contract, whatever a job does at its turn is what its
terms allow.

## Main definitions

- `Host.recording` — a host that lists what is done
- `Scheduler.acts` — what is done at the next step
- `Scheduler.Plays` — the job that takes its turn at an event
- `Scheduler.actsAt` — what is done at an event
-/

namespace Stencil

variable {σ V α β : Type} {h : Host σ V}

namespace Host

/-- A host that also lists what is done. -/
def recording (h : Host σ V) : Host (σ × List (Act V)) V where
  lookup service name x := ((h.lookup service name x.1).1, (h.lookup service name x.1).2, x.2)
  act service a x := (h.act service a x.1, x.2 ++ [a])
  holding x := h.holding x.1
  beginRead path x := (h.beginRead path x.1, x.2)
  serve path x := ((h.serve path x.1).1, (h.serve path x.1).2, x.2)
  load service name path x := h.load service name path x.1

/-- A routine runs as far when what it does is listed. -/
theorem advance_recording (service : Nat) (landed : Text → Option (Except Failure V))
    (r : Routine V β) (x : σ × List (Act V)) :
    (h.recording.advance service landed r x).map id Prod.fst = h.advance service landed r x.1 := by
  induction r generalizing x with
  | finish o => rfl
  | lookup name next ih => exact ih _ _
  | act a next ih => exact ih _
  | read path next ih =>
    cases held : h.holding x.1 <;> simp [advance, recording, held]
  | share name path next ih =>
    simp only [advance]
    cases landed name with
    | some o => exact ih o _
    | none => rfl

theorem turn_recording (service : Nat) (landed : Text → Option (Except Failure V)) (cancelling : Bool)
    (st : Standing V β) (x : σ × List (Act V)) :
    (h.recording.turn service landed cancelling st x).map (Prod.map id Prod.fst) =
      h.turn service landed cancelling st x.1 := by
  have go (r : Routine V β) (x : σ × List (Act V)) :
      (some (h.recording.advance service landed r x)).map (Prod.map id Prod.fst) =
        some (h.advance service landed r x.1) := congrArg some (advance_recording service landed r x)
  cases st with
  | fresh r => cases cancelling with
    | true => rfl
    | false => exact go r x
  | passed path next => cases cancelling with
    | true => exact go _ x
    | false => rfl
  | paused path next => cases cancelling with
    | true => exact go _ x
    | false => exact go _ _
  | landed o next => exact go _ x
  | resumed r => exact go r x
  | _ => rfl

/-- What is done at a turn can be listed. -/
theorem exists_recording {service : Nat} {landed : Text → Option (Except Failure V)} {cancelling : Bool}
    {st : Standing V β} {x y : σ} {halt : Halt V β}
    (goes : h.turn service landed cancelling st x = some (halt, y)) :
    ∃ acts, h.recording.turn service landed cancelling st (x, []) = some (halt, y, acts) := by
  rw [← turn_recording service landed cancelling st (x, []), Option.map_eq_some_iff] at goes
  obtain ⟨⟨_, _, acts⟩, goes, same⟩ := goes
  obtain ⟨rfl, rfl⟩ := Prod.mk.inj same
  exact ⟨acts, goes⟩

/-- What is listed is what the terms allow. -/
theorem Honors.recording {inv : σ → Prop} {service : Nat} {t : Terms V}
    (honors : h.Honors inv service t) : h.recording.Honors
      (fun x => inv x.1 ∧ ∀ a ∈ x.2, ∃ c, t.contents c ∧ t.allowed c a) service t where
  contents x ok := honors.contents x.1 ok.1
  lookup x name ok := by
    obtain ⟨inv', same, finds⟩ := honors.lookup x.1 name ok.1
    exact ⟨⟨inv', ok.2⟩, same, finds⟩
  act x a ok allowed := by
    obtain ⟨inv', same⟩ := honors.act x.1 a ok.1 allowed
    refine ⟨⟨inv', fun b mem => ?_⟩, same⟩
    obtain old | new := List.mem_append.mp mem
    · exact ok.2 b old
    · obtain rfl := List.mem_singleton.mp new
      exact ⟨_, honors.contents x.1 ok.1, allowed⟩
  joined := honors.joined
  beginRead x path ok := by
    obtain ⟨inv', same⟩ := honors.beginRead x.1 path ok.1
    exact ⟨⟨inv', ok.2⟩, same⟩
  serve x path ok := by
    obtain ⟨inv', same⟩ := honors.serve x.1 path ok.1
    exact ⟨⟨inv', ok.2⟩, same⟩
  holding x ok := honors.holding x.1 ok.1

end Host

/-- An event for a scheduler that lists what is done. -/
def Event.listed : Event σ V α → Event (σ × List (Act V)) V α
  | .step => .step
  | .submit service r => .submit service r
  | .start service r => .start service r
  | .cancel id => .cancel id
  | .openGate => .openGate
  | .answer id a => .answer id a
  | .update f => .update (Prod.map f id)

namespace Scheduler

/-- A scheduler with an empty list of what is done. -/
def unrecorded (s : Scheduler σ V α) : Scheduler (σ × List (Act V)) V α where
  state := (s.state, [])
  jobs := s.jobs
  queue := s.queue
  flights := s.flights
  gate := s.gate
  reported := s.reported

/-- What is done at the next step. -/
def acts (h : Host σ V) (s : Scheduler σ V α) : List (Act V) :=
  (s.unrecorded.step h.recording).state.2

/-- A scheduler without the list of what is done. -/
def unlisted (s : Scheduler (σ × List (Act V)) V α) : Scheduler σ V α where
  state := s.state.1
  jobs := s.jobs
  queue := s.queue
  flights := s.flights
  gate := s.gate
  reported := s.reported

theorem unlisted_job? (s : Scheduler (σ × List (Act V)) V α) (id : Nat) :
    s.unlisted.job? id = s.job? id := rfl

theorem unlisted_ending (s : Scheduler (σ × List (Act V)) V α) (id : Nat) :
    (s.ending id).unlisted = s.unlisted.ending id := by
  rw [ending, ending, unlisted_job?]
  split <;> rfl

theorem unlisted_join (s : Scheduler (σ × List (Act V)) V α) (id service : Nat) (name path : Text)
    (wait : Nat → Work V α) :
    (s.join h.recording id service name path wait).unlisted =
      s.unlisted.join h id service name path wait := by
  have flights : s.unlisted.flights = s.flights := rfl
  rw [join, join, flights]
  cases s.flights.lookup (service, name) <;> rfl

theorem unlisted_settle (s : Scheduler (σ × List (Act V)) V α) (id service : Nat)
    (wrap : Standing V β → Work V α) (halt : Halt V β) :
    (settle h.recording s id service wrap halt).unlisted = settle h s.unlisted id service wrap halt := by
  cases halt with
  | ended o => exact unlisted_ending _ id
  | sharing name path next => exact unlisted_join s id service name path _
  | _ => rfl

theorem unlisted_wake (s : Scheduler (σ × List (Act V)) V α) (id : Nat)
    (f : {β : Type} → Standing V β → Option (Standing V β)) :
    (s.wake id f).unlisted = s.unlisted.wake id f := by
  rw [wake, wake, unlisted_job?]
  cases (s.job? id).bind fun job => job.work.restand? f <;> rfl

theorem unlisted_takeTurn (s : Scheduler (σ × List (Act V)) V α) (id : Nat) :
    (s.takeTurn h.recording id).unlisted = s.unlisted.takeTurn h id := by
  cases at_ : s.job? id with
  | none => rw [takeTurn, takeTurn, unlisted_job?, at_]
  | some job =>
    obtain ⟨service, work, cancelling⟩ := job
    obtain ⟨β, wrap, st, seat, rfl⟩ := work.exists_seat
    have goes := Host.turn_recording (h := h) service (s.landed? service) cancelling st s.state
    cases turn : h.recording.turn service (s.landed? service) cancelling st s.state with
    | none =>
      rw [turn] at goes
      rw [takeTurn_of_none seat at_ turn, takeTurn_of_none (s := s.unlisted) seat at_ goes.symm]
    | some stop =>
      rw [turn] at goes
      rw [takeTurn_of_some seat at_ turn, takeTurn_of_some (s := s.unlisted) seat at_ goes.symm]
      exact unlisted_settle _ id service wrap stop.1

theorem unlisted_perform (s : Scheduler (σ × List (Act V)) V α) (handle : Handle) :
    (s.perform h.recording handle).unlisted = s.unlisted.perform h handle := by
  cases handle with
  | turn id => exact unlisted_takeTurn s id
  | relay load id =>
    rw [perform, perform, unlisted_job?]
    cases (s.job? load).bind fun job => job.work.landed? with
    | none => rfl
    | some o => exact unlisted_wake s id _
  | _ => rfl

/-- A step lists what is done and changes nothing else. -/
theorem unlisted_step (s : Scheduler (σ × List (Act V)) V α) :
    (s.step h.recording).unlisted = s.unlisted.step h := by
  have queue : s.unlisted.queue = s.queue := rfl
  rw [step, step, queue]
  cases s.queue with
  | nil => rfl
  | cons handle rest => exact unlisted_perform { s with queue := rest } handle

/-- What is listed is what is done at the step itself. -/
theorem step_unrecorded (s : Scheduler σ V α) : (s.unrecorded.step h.recording).unlisted = s.step h :=
  unlisted_step s.unrecorded

/-- A turn leaves the state as the routine of the job does, except that it is reported who joins. -/
theorem Turns.state {s s' : Scheduler σ V α} {id : Nat} (turns : s.Turns h id s') :
    s'.state = s.state ∨ ∃ (β : Type) (service : Nat) (wrap : Standing V β → Work V α)
      (halt : Halt V β) (x : σ), s.Acting h id service wrap halt x ∧
      (s'.state = x ∨ ∃ name, s'.state = h.act service (.note (.joined name)) x) := by
  cases turns with
  | idle => exact .inl rfl
  | ended acting => exact .inr ⟨_, _, _, _, _, acting, .inl rfl⟩
  | held acting => exact .inr ⟨_, _, _, _, _, acting, .inl rfl⟩
  | paused acting => exact .inr ⟨_, _, _, _, _, acting, .inl rfl⟩
  | joined acting => exact .inr ⟨_, _, _, _, _, acting, .inr ⟨_, rfl⟩⟩
  | started acting => exact .inr ⟨_, _, _, _, _, acting, .inl rfl⟩

/-! ### Events -/

/-- The job that takes its turn at an event, as it stands then. -/
inductive Plays (s : Scheduler σ V α) : Event σ V α → Job V α → Prop where
  | step {id : Nat} {rest : List Handle} {job : Job V α} (front : s.queue = .turn id :: rest)
      (at_ : s.job? id = some job) : Plays s .step job
  | start (service : Nat) (r : Routine V α) :
      Plays s (.start service r) ⟨service, .request (.fresh r), false⟩

theorem Plays.unique {s : Scheduler σ V α} {e : Event σ V α} {job job' : Job V α} (plays : s.Plays e job)
    (plays' : s.Plays e job') : job' = job := by
  cases plays with
  | step front at_ =>
    cases plays' with
    | step front' at_' =>
      cases front.symm.trans front'
      exact Option.some.inj (at_'.symm.trans at_)
  | start service r =>
    cases plays'
    rfl

/-- The state that a job leaves at its turn. If it joins a load, this is reported. -/
inductive Leaves (h : Host σ V) (s : Scheduler σ V α) (job : Job V α) : σ → Prop where
  | stopped {β : Type} {wrap : Standing V β → Work V α} {st : Standing V β} {halt : Halt V β} {x : σ}
      {landed : Text → Option (Except Failure V)} (seat : Seat V α β wrap) (is : job.work = wrap st)
      (goes : h.turn job.service landed job.cancelling st s.state = some (halt, x)) : Leaves h s job x
  | joined {β : Type} {wrap : Standing V β → Work V α} {st : Standing V β} {halt : Halt V β} {x : σ}
      {landed : Text → Option (Except Failure V)} (seat : Seat V α β wrap) (is : job.work = wrap st)
      (name : Text) (goes : h.turn job.service landed job.cancelling st s.state = some (halt, x)) :
      Leaves h s job (h.act job.service (.note (.joined name)) x)

private theorem state_wake (s : Scheduler σ V α) (id : Nat)
    (f : {β : Type} → Standing V β → Option (Standing V β)) : (s.wake id f).state = s.state := by
  obtain wakes | ⟨_, e⟩ := s.wake_cases id f
  · exact wakes.state
  · rw [e]

theorem state_openGate (s : Scheduler σ V α) : s.openGate.state = s.state :=
  openGate_keeps (P := fun t => t.state = s.state) (fun t id same => (t.state_wake id _).trans same)
    (fun _ same => same) rfl

theorem state_cancel (s : Scheduler σ V α) (id : Nat) : (s.cancel id).2.state = s.state := by
  obtain ⟨e, _⟩ | wakes | ⟨_, _, _, e⟩ := s.cancel_cases id
  · rw [e]
  · exact wakes.state
  · rw [e]
    rfl

private theorem leaves_takeTurn {s t : Scheduler σ V α} (id : Nat) (same : t.state = s.state) :
    (t.takeTurn h id).state = s.state ∨ ∃ job, t.job? id = some job ∧ s.Leaves h job (t.takeTurn h id).state := by
  obtain e | ⟨β, service, wrap, halt, x, ⟨seat, st, cancelling, at_, goes⟩, e⟩ := (takeTurn_turns h t id).state
  · exact .inl (e.trans same)
  · refine .inr ⟨_, at_, ?_⟩
    rw [same] at goes
    obtain e | ⟨name, e⟩ := e
    · rw [e]
      exact .stopped seat rfl goes
    · rw [e]
      exact .joined seat rfl name goes

/-- **What an event does to the state**: nothing, or what it is meant to, or what a job does at its turn. -/
theorem after_state (h : Host σ V) (s : Scheduler σ V α) (e : Event σ V α) :
    (s.after h e).state = s.state ∨ (∃ f, e = .update f ∧ (s.after h e).state = f s.state) ∨
      ∃ job, s.Plays e job ∧ s.Leaves h job (s.after h e).state := by
  cases e with
  | step =>
    cases queue : s.queue with
    | nil => exact .inl (by rw [after, step_of_empty queue])
    | cons x rest =>
      rw [after, step_of_queue queue]
      cases x with
      | turn id =>
        obtain same | ⟨job, at_, leaves⟩ :=
          leaves_takeTurn (h := h) (s := s) (t := { s with queue := rest }) id rfl
        · exact .inl same
        · exact .inr (.inr ⟨job, .step queue at_, leaves⟩)
      | forget l => exact .inl rfl
      | report id => exact .inl rfl
      | relay l id =>
        rw [perform]
        split
        · exact .inl rfl
        · exact .inl (state_wake _ id _)
  | submit service r => exact .inl rfl
  | start service r =>
    let t : Scheduler σ V α := { s with jobs := s.jobs ++ [{ service, work := .request (.fresh r) }] }
    obtain same | ⟨job, at_, leaves⟩ := leaves_takeTurn (h := h) (s := s) (t := t) s.jobs.length rfl
    · exact .inl same
    · obtain rfl : ⟨service, .request (.fresh r), false⟩ = job := by simpa [t, job?] using at_
      exact .inr (.inr ⟨_, .start service r, leaves⟩)
  | cancel id => exact .inl (s.state_cancel id)
  | openGate => exact .inl s.state_openGate
  | answer id a => exact .inl (s.state_wake id _)
  | update f => exact .inr (.inl ⟨f, rfl, rfl⟩)

/-- What is done at an event. -/
def actsAt (h : Host σ V) (s : Scheduler σ V α) (e : Event σ V α) : List (Act V) :=
  (s.unrecorded.after h.recording e.listed).state.2

theorem actsAt_step (h : Host σ V) (s : Scheduler σ V α) : s.actsAt h .step = s.acts h := rfl

/-- What is listed at an event is what is done there. -/
theorem unlisted_state (h : Host σ V) (s : Scheduler σ V α) (e : Event σ V α) :
    (s.unrecorded.after h.recording e.listed).state.1 = (s.after h e).state := by
  cases e with
  | step => exact congrArg Scheduler.state (s.step_unrecorded (h := h))
  | start service r =>
    let t : Scheduler σ V α := { s with jobs := s.jobs ++ [{ service, work := .request (.fresh r) }] }
    exact congrArg Scheduler.state (unlisted_takeTurn (h := h) t.unrecorded s.jobs.length)
  | submit | update => rfl
  | cancel id => exact (congrArg Prod.fst (s.unrecorded.state_cancel id)).trans (s.state_cancel id).symm
  | openGate => exact (congrArg Prod.fst s.unrecorded.state_openGate).trans s.state_openGate.symm
  | answer id a => exact (congrArg Prod.fst (state_wake _ id _)).trans (state_wake s id _).symm

/-- **What is done at an event**: nothing, or what a job does at its turn. -/
theorem actsAt_cases (h : Host σ V) (s : Scheduler σ V α) (e : Event σ V α) :
    s.actsAt h e = [] ∧ ((s.after h e).state = s.state ∨ ∃ f, e = .update f ∧ (s.after h e).state = f s.state) ∨
      ∃ job, s.Plays e job ∧ s.unrecorded.Leaves h.recording job ((s.after h e).state, s.actsAt h e) := by
  have state := unlisted_state h s e
  obtain same | ⟨f, is, same⟩ | ⟨job, plays, leaves⟩ := s.unrecorded.after_state h.recording e.listed
  · refine .inl ⟨congrArg Prod.snd same, .inl ?_⟩
    rw [← state, same]
    rfl
  · cases e with
    | update g => exact .inl ⟨rfl, .inr ⟨g, rfl, rfl⟩⟩
    | _ => cases is
  · refine .inr ⟨job, ?_, ?_⟩
    · cases e with
      | step =>
        cases plays with
        | step front at_ => exact .step front at_
      | start service r =>
        cases plays with
        | start => exact .start service r
      | _ => cases plays
    · rw [← state]
      exact leaves

end Scheduler

namespace Contract

variable {K : Contract h α} {s : Scheduler σ V α} {id : Nat}

/-- Whose turn it is knows all that it relies on. -/
theorem Sound.informed_at_turn (sound : K.Sound s) {job : Job V α} {rest : List Handle}
    (at_ : s.job? id = some job) (isRequest : job.key? = none) (front : s.queue = .turn id :: rest) :
    K.Informed s id :=
  fun service name l flying => (sound.informed id job at_ isRequest service name l flying).resolve_right
    fun precedes => precedes.forgotten front _ flying

/-- **A job does what its terms allow** at its turn. -/
theorem Sound.acts_allowed (sound : K.Sound s) {service : Nat} {st : Standing V α} {cancelling : Bool}
    {rest : List Handle} (at_ : s.job? id = some ⟨service, .request st, cancelling⟩)
    (front : s.queue = .turn id :: rest) : ∀ a ∈ s.acts h,
      ∃ c, (K.terms id service).contents c ∧ (K.terms id service).allowed c a := by
  have informed := sound.informed_at_turn at_ rfl front
  obtain ⟨keeps, may⟩ := (sound.holds.jobs id _ at_).request
  have honors := (K.honors id service).recording
  have nothing : ∀ a ∈ ([] : List (Act V)), ∃ c, (K.terms id service).contents c ∧
      (K.terms id service).allowed c a := fun a mem => absurd mem List.not_mem_nil
  have front' : s.unrecorded.queue = .turn id :: rest := front
  rw [Scheduler.acts, Scheduler.step_of_queue front', Scheduler.perform]
  obtain same | ⟨β, service', wrap, halt, x, acting, same⟩ :=
    (Scheduler.takeTurn_turns h.recording { s.unrecorded with queue := rest } id).state
  · rw [same]
    exact nothing
  · obtain ⟨seat, st', cancelling', at_', goes⟩ := acting
    obtain ⟨rfl, is, rfl⟩ := Job.mk.inj (Option.some.inj (at_'.symm.trans at_))
    cases seat with
    | load => cases is
    | request =>
      obtain rfl := Work.request.inj is
      have tells : ∀ name path o, (K.terms id service').sharable name path →
          s.landed? service' name = some o → (K.terms id service').shared name o :=
        fun name path o _ landed => sound.holds.shared sound.linked.flight informed landed
      obtain ⟨⟨inv, allowed⟩, _⟩ :=
        Host.turn_keeps honors tells ⟨sound.holds.inv, nothing⟩ keeps may goes
      obtain e | ⟨name, e⟩ := same
      · rwa [e]
      · rw [e]
        exact (honors.act x _ ⟨inv, allowed⟩ (honors.joined _ name)).1.2

end Contract

end Stencil
