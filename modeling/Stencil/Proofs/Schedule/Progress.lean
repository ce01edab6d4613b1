import Stencil.Proofs.Schedule.Contract

/-!
# Progress

If no job is held at the gate, every job ends after finitely many turns: its routine is finite, its turn
comes whenever it is ready, and the loads that it waits for end since they wait for nothing.

## Main definitions

- `Scheduler.Ends` — a job ends after finitely many entries of the queue
- `Scheduler.Settles` — a request has an outcome from some moment on
- `Contract.Free` — no job is held
-/

namespace Stencil

variable {σ V α β : Type} {h : Host σ V}

/-- A job with the same work but for those who wait for it has the same seat but for them. -/
theorem Seat.exists_of_bare {wrap : Standing V β → Work V α} {st : Standing V β} {w : Work V α}
    (seat : Seat V α β wrap) (same : w.bare = (wrap st).bare) :
    ∃ wrap', Seat V α β wrap' ∧ w = wrap' st := by
  cases seat with
  | request => exact ⟨_, .request, Work.bare_eq_request.mp same⟩
  | load name waiters =>
    cases w with
    | request st' => cases same
    | load name' st' waiters' =>
      simp only [Work.bare, Work.load.injEq, and_true] at same
      obtain ⟨rfl, rfl⟩ := same
      exact ⟨_, .load _ waiters', rfl⟩

namespace Scheduler

variable {s : Scheduler σ V α} {id : Nat}

/-- A job ends after finitely many entries. -/
def Ends (h : Host σ V) (s : Scheduler σ V α) (id : Nat) : Prop :=
  ∃ n job, (s.steps h n).job? id = some job ∧ job.work.phase = .ended

/-- From some moment on a request has this outcome. -/
def Settles (h : Host σ V) (s : Scheduler σ V α) (id : Nat) (o : Except Failure α) : Prop :=
  ∃ n, ∀ k, (s.steps h (n + k)).outcome? id = some o

theorem Ends.of_steps (n : Nat) (ends : (s.steps h n).Ends h id) : s.Ends h id := by
  obtain ⟨m, job, at_, ended⟩ := ends
  exact ⟨n + m, job, steps_add h n m s ▸ at_, ended⟩

theorem outcome?_of_at {service : Nat} {o : Except Failure α} {cancelling : Bool}
    (at_ : s.job? id = some ⟨service, .request (.ended o), cancelling⟩) : s.outcome? id = some o := by
  simp [outcome?, at_, Work.outcome?]

theorem at_of_outcome? {o : Except Failure α} (outcome : s.outcome? id = some o) :
    ∃ service cancelling, s.job? id = some ⟨service, .request (.ended o), cancelling⟩ := by
  obtain ⟨⟨service, work, cancelling⟩, at_, is⟩ := Option.bind_eq_some_iff.mp outcome
  cases work with
  | load name st waiters => cases is
  | request st =>
    cases st with
    | ended o' =>
      obtain rfl := Option.some.inj is
      exact ⟨service, cancelling, at_⟩
    | _ => cases is

/-- An outcome stays. -/
theorem play_outcome? {o : Except Failure α} (es : List (Event σ V α))
    (outcome : s.outcome? id = some o) : (s.play h es).outcome? id = some o := by
  induction es generalizing s with
  | nil => exact outcome
  | cons e es ih =>
    obtain ⟨service, cancelling, at_⟩ := at_of_outcome? outcome
    obtain ⟨job, now, same⟩ := after_ended (h := h) at_ rfl e
    rw [Job.eq_of_bare same rfl] at now
    exact ih (outcome?_of_at now)

theorem Settles.of_outcome? {o : Except Failure α} (outcome : s.outcome? id = some o) :
    s.Settles h id o :=
  ⟨0, fun _ => play_outcome? _ outcome⟩

theorem Settles.of_steps (n : Nat) {o : Except Failure α} (settles : (s.steps h n).Settles h id o) :
    s.Settles h id o := by
  obtain ⟨m, settled⟩ := settles
  refine ⟨n + m, fun k => ?_⟩
  rw [Nat.add_assoc, steps_add]
  exact settled k

/-- A request has one outcome. -/
theorem Settles.unique {o o' : Except Failure α} (settles : s.Settles h id o)
    (settles' : s.Settles h id o') : o = o' := by
  obtain ⟨n, settled⟩ := settles
  obtain ⟨n', settled'⟩ := settles'
  have outcome := settled n'
  rw [Nat.add_comm] at outcome
  exact Option.some.inj (outcome.symm.trans (settled' n))

/-- A job stands where its routine has stopped at its turn. -/
theorem step_job? {wrap : Standing V β → Work V α} {st : Standing V β} {service : Nat}
    {cancelling : Bool} {halt : Halt V β} {x : σ} {rest : List Handle} (seat : Seat V α β wrap)
    (at_ : s.job? id = some ⟨service, wrap st, cancelling⟩) (head : s.queue = .turn id :: rest)
    (goes : h.turn service (s.landed? service) cancelling st s.state = some (halt, x)) :
    ∃ l, (s.step h).job? id = some ⟨service, wrap (halt.standing l), false⟩ := by
  rw [step_of_queue head]
  exact ⟨_, takeTurn_job? (s := { s with queue := rest }) seat at_ goes⟩

/-- A request that waits for a load that ends is told the outcome. -/
theorem Linked.told_of_ends {service l : Nat} {next : Except Failure V → Routine V α}
    {cancelling : Bool} (linked : s.Linked s.queue)
    (at_ : s.job? id = some ⟨service, .request (.waiting l next), cancelling⟩)
    (ends : s.Ends h l) :
    ∃ n o c, (s.steps h n).job? id = some ⟨service, .request (.landed o next), c⟩ := by
  obtain ⟨n, job, at_l, ended⟩ := ends
  induction n generalizing s cancelling with
  | zero =>
    obtain ⟨load, at_load, _, isLoad, _⟩ := linked.waiting id _ l at_ rfl rfl
    obtain rfl := Option.some.inj (at_load.symm.trans at_l)
    have lands := (Work.landed?_isSome load.work).mpr ⟨isLoad, ended⟩
    obtain ⟨o, landed⟩ := Option.isSome_iff_exists.mp lands
    obtain ⟨n, told⟩ := news_comes (h := h) linked at_ at_load landed
    exact ⟨n, o, _, told⟩
  | succ n ih =>
    obtain ⟨job', now, does⟩ := after_does (h := h) at_ .step
    have later : ∀ c, (s.step h).job? id = some ⟨service, .request (.waiting l next), c⟩ →
        ∃ n o c, (s.steps h n).job? id = some ⟨service, .request (.landed o next), c⟩ := by
      intro c still
      obtain ⟨m, o, c, told⟩ := ih (linked.after .step) still at_l
      exact ⟨m + 1, o, c, told⟩
    cases does with
    | rests same =>
      rw [Job.eq_of_bare same rfl] at now
      exact later _ now
    | acts _ head seat is goes =>
      cases seat <;> simp at is
      obtain ⟨rfl, rfl, rfl⟩ := is
      simp [Host.turn] at goes
    | told head seat is _ _ =>
      cases seat <;> simp at is
      obtain ⟨rfl, ⟨rfl, rfl⟩, rfl⟩ := is
      exact ⟨1, _, _, now⟩
    | addressed own => simp at own

end Scheduler

namespace Contract

variable {K : Contract h α} {s : Scheduler σ V α} {id : Nat}

variable (K) in
/-- No job is held under a contract. -/
structure Free : Prop where
  requests : ∀ id service, ¬(K.terms id service).gated
  loads : ∀ service, ¬(K.loadTerms service).gated

variable (K) in
/-- All loads end. -/
def LoadsEnd : Prop :=
  ∀ s, K.Sound s → ∀ l job, s.job? l = some job → job.work.name?.isSome → s.Ends h l

theorem Sound.not_held {wrap : Standing V β → Work V α} {path : Text}
    {next : Except Failure Bytes → Routine V β} {service : Nat} {cancelling : Bool} (free : K.Free)
    (seat : Seat V α β wrap) (sound : K.Sound s) :
    s.job? id ≠ some ⟨service, wrap (.held path next), cancelling⟩ := by
  intro at_
  have keeps := sound.holds.jobs id _ at_
  cases seat with
  | request => exact free.requests _ _ keeps.request.1.1
  | load => exact free.loads _ keeps.load.1.1

variable (K id) in
/-- A job ends that goes on with a routine, if all loads end that it may wait for. -/
def Runs (r : Routine V β) : Prop :=
  ∀ (s : Scheduler σ V α) (wrap : Standing V β → Work V α) (st : Standing V β) (service : Nat)
    (cancelling : Bool) (rest : List Handle) (x : σ), K.Sound s → Seat V α β wrap →
    s.job? id = some ⟨service, wrap st, cancelling⟩ → s.queue = .turn id :: rest →
    h.turn service (s.landed? service) cancelling st s.state =
      some (h.advance service (s.landed? service) r x) →
    ((wrap st).name? = none → K.LoadsEnd) → s.Ends h id

section

variable {wrap : Standing V β → Work V α} {service : Nat} {cancelling : Bool}

/-- A job that is ready ends if it does from its turn on. -/
theorem Sound.ends_of_turn {st : Standing V β} (sound : K.Sound s) (seat : Seat V α β wrap)
    (at_ : s.job? id = some ⟨service, wrap st, cancelling⟩) (ready : st.phase = .ready)
    (turn : ∀ s wrap' cancelling rest, K.Sound s → Seat V α β wrap' →
      (wrap' st).name? = (wrap st).name? → s.job? id = some ⟨service, wrap' st, cancelling⟩ →
      s.queue = .turn id :: rest → s.Ends h id) : s.Ends h id := by
  obtain ⟨n, rest, job, front, now, same⟩ :=
    Scheduler.turn_comes (h := h) sound.linked at_ ((seat.phase st).trans ready)
  obtain ⟨service', work, cancelling'⟩ := job
  obtain ⟨wrap', seat', rfl⟩ := seat.exists_of_bare (Job.work_of_bare same)
  obtain rfl : service' = service := Job.service_of_bare same
  have name := Job.name?_of_bare same
  exact (turn _ wrap' _ rest (sound.steps n) seat' name now front).of_steps n

theorem Sound.ends_of_paused {path : Text} {next : Except Failure Bytes → Routine V β}
    (sound : K.Sound s) (seat : Seat V α β wrap)
    (at_ : s.job? id = some ⟨service, wrap (.paused path next), cancelling⟩)
    (loads : (wrap (.paused path next)).name? = none → K.LoadsEnd)
    (runs : ∀ a, K.Runs id (next a)) : s.Ends h id := by
  refine sound.ends_of_turn seat at_ rfl fun s wrap' cancelling rest sound seat' name at_ front => ?_
  have loads' : (wrap' (.paused path next)).name? = none → K.LoadsEnd :=
    fun isRequest => loads (name.symm.trans isRequest)
  cases cancelling with
  | false => exact runs _ s _ _ _ _ _ _ sound seat' at_ front rfl loads'
  | true => exact runs _ s _ _ _ _ _ _ sound seat' at_ front rfl loads'

theorem Sound.ends_of_waiting {l : Nat} {next : Except Failure V → Routine V β} (sound : K.Sound s)
    (seat : Seat V α β wrap) (at_ : s.job? id = some ⟨service, wrap (.waiting l next), cancelling⟩)
    (loads : (wrap (.waiting l next)).name? = none → K.LoadsEnd)
    (runs : ∀ o, K.Runs id (next o)) : s.Ends h id := by
  cases seat with
  | load name waiters =>
    -- a load waits for no load
    obtain ⟨_, tied, _⟩ := (sound.holds.jobs id _ at_).load.1
    exact tied.elim
  | request =>
    obtain ⟨load, at_l, _, isLoad, _⟩ := sound.linked.waiting id _ l at_ rfl rfl
    have ends := loads rfl s sound l load at_l isLoad
    obtain ⟨n, o, c, told⟩ := sound.linked.told_of_ends at_ ends
    refine Scheduler.Ends.of_steps n ?_
    refine (sound.steps n).ends_of_turn .request told rfl
      fun s wrap' c rest sound seat' name at_ front => ?_
    exact runs _ s _ _ _ _ _ _ sound seat' at_ front rfl fun _ => loads rfl

/-- **A routine ends**, since it is finite. -/
theorem Free.runs (free : K.Free) (r : Routine V β) : K.Runs id r := by
  induction r with
  | finish o =>
    intro s wrap st service cancelling rest x _ seat at_ front goes _
    obtain ⟨l, now⟩ := Scheduler.step_job? seat at_ front goes
    exact ⟨1, _, now, seat.phase (.ended o)⟩
  | lookup name next ih =>
    intro s wrap st service cancelling rest x sound seat at_ front goes loads
    exact ih _ s wrap st service cancelling rest _ sound seat at_ front goes loads
  | act a next ih =>
    intro s wrap st service cancelling rest x sound seat at_ front goes loads
    exact ih s wrap st service cancelling rest _ sound seat at_ front goes loads
  | read path next ih =>
    intro s wrap st service cancelling rest x sound seat at_ front goes loads
    rw [Host.advance] at goes
    split at goes
    · obtain ⟨l, now⟩ := Scheduler.step_job? seat at_ front goes
      exact absurd now ((sound.steps 1).not_held free seat)
    · obtain ⟨l, now⟩ := Scheduler.step_job? seat at_ front goes
      refine Scheduler.Ends.of_steps 1 ((sound.steps 1).ends_of_paused seat now ?_ ih)
      exact fun isRequest => loads ((seat.name? _ _).trans isRequest)
  | share name path next ih =>
    intro s wrap st service cancelling rest x sound seat at_ front goes loads
    rw [Host.advance] at goes
    split at goes
    · next o _ => exact ih o s wrap st service cancelling rest _ sound seat at_ front goes loads
    · obtain ⟨l, now⟩ := Scheduler.step_job? seat at_ front goes
      refine Scheduler.Ends.of_steps 1 ((sound.steps 1).ends_of_waiting seat now ?_ ih)
      exact fun isRequest => loads ((seat.name? _ _).trans isRequest)

/-- A job ends if all loads end that it may wait for. -/
theorem Sound.ends_of_loads {job : Job V α} (free : K.Free) (sound : K.Sound s)
    (at_ : s.job? id = some job) (loads : job.work.name? = none → K.LoadsEnd) : s.Ends h id := by
  obtain ⟨service, work, cancelling⟩ := job
  obtain ⟨β, wrap, st, seat, rfl⟩ := work.exists_seat
  have ofReady : st.phase = .ready → s.Ends h id := by
    intro ready
    refine sound.ends_of_turn seat at_ ready fun s wrap' cancelling rest sound seat' name at_ front => ?_
    have loads' : (wrap' st).name? = none → K.LoadsEnd :=
      fun isRequest => loads (name.symm.trans isRequest)
    obtain ⟨r, y, _, _, goes⟩ | ⟨path, next, rfl, rfl, goes⟩ | ⟨unready, _⟩ :=
      h.turn_cases service (s.landed? service) cancelling st s.state
    · exact free.runs r s wrap' st service cancelling rest y sound seat' at_ front goes loads'
    · obtain ⟨l, now⟩ := Scheduler.step_job? seat' at_ front goes
      refine Scheduler.Ends.of_steps 1 ((sound.steps 1).ends_of_paused seat' now ?_ fun a => free.runs _)
      exact fun isRequest => loads' ((seat'.name? _ _).trans isRequest)
    · exact absurd ready unready
  cases st with
  | ended o => exact ⟨0, _, at_, seat.phase _⟩
  | held path next => exact absurd at_ (sound.not_held free seat)
  | waiting l next => exact sound.ends_of_waiting seat at_ loads fun o => free.runs _
  | _ => exact ofReady rfl

end

theorem Free.loadsEnd (free : K.Free) : K.LoadsEnd := by
  intro s sound l job at_ isLoad
  refine sound.ends_of_loads free at_ fun isRequest => ?_
  rw [isRequest] at isLoad
  cases isLoad

/-- **Every job ends** if none is held. -/
theorem Sound.ends {job : Job V α} (free : K.Free) (sound : K.Sound s)
    (at_ : s.job? id = some job) : s.Ends h id :=
  sound.ends_of_loads free at_ fun _ => free.loadsEnd

/-- An outcome is one that the terms of its request ensure. -/
theorem Sound.post_of_outcome? {service : Nat} {st : Standing V α} {cancelling : Bool}
    {o : Except Failure α} (sound : K.Sound s)
    (at_ : s.job? id = some ⟨service, .request st, cancelling⟩) (outcome : s.outcome? id = some o) :
    ∃ c, (K.terms id service).contents c ∧ K.post id service c o := by
  obtain ⟨_, _, ended⟩ := Scheduler.at_of_outcome? outcome
  cases at_.symm.trans ended
  exact (sound.holds.jobs id _ at_).request.1

/-- **A request comes to an outcome** that its terms ensure. -/
theorem Sound.settles {service : Nat} {st : Standing V α} {cancelling : Bool} (free : K.Free)
    (sound : K.Sound s) (at_ : s.job? id = some ⟨service, .request st, cancelling⟩) :
    ∃ o c, s.Settles h id o ∧ (K.terms id service).contents c ∧ K.post id service c o := by
  obtain ⟨n, job, now, ended⟩ := sound.ends free at_
  obtain ⟨job', at_', same, kind⟩ := Scheduler.play_kind (h := h) at_ (List.replicate n .step)
  obtain rfl := Option.some.inj (now.symm.trans at_')
  obtain ⟨service', work, cancelling'⟩ := job
  obtain rfl : service' = service := same
  have keeps := (sound.steps n).holds.jobs id _ now
  cases work with
  | load name st waiters => cases kind
  | request st =>
    cases st with
    | ended o =>
      obtain ⟨c, met, post⟩ := keeps.request.1
      exact ⟨o, c, (Scheduler.Settles.of_outcome? (Scheduler.outcome?_of_at now)).of_steps n, met, post⟩
    | _ => cases ended

end Contract

end Stencil
