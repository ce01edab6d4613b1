import Stencil.Proofs.Schedule.Progress

/-!
# Once the gate is open

What was held before does not matter once the gate is open and the jobs have passed it: from then on no
job is held, and every job ends as its contract says.

## Main definitions

- `Scheduler.Unheld` — no job is held, and none will be
- `Host.Calm` — a host at which jobs leave the gate as it is
- `Contract.ungated` — a contract from the moment on at which no job is held

## Main results

- `Scheduler.Linked.unheld_openGate` — no job is held after the gate was opened
- `Contract.Sound.settles_unheld` — requests come to an outcome that their contract allows
-/

namespace Stencil

variable {σ V α β : Type} {h : Host σ V}

/-- A host at which jobs leave the gate as it is. -/
structure Host.Calm (h : Host σ V) : Prop where
  lookup : ∀ service name x, h.holding (h.lookup service name x).2 = h.holding x
  act : ∀ service a x, h.holding (h.act service a x) = h.holding x
  beginRead : ∀ path x, h.holding (h.beginRead path x) = h.holding x
  serve : ∀ path x, h.holding (h.serve path x).2 = h.holding x

/-- While the gate is open nobody stops there. -/
theorem Host.Calm.advance (calm : h.Calm) (service : Nat) (landed : Text → Option (Except Failure V))
    (r : Routine V β) {x : σ} (passing : h.holding x = false) (path : Text)
    (next : Except Failure Bytes → Routine V β) : (h.advance service landed r x).1 ≠ .held path next := by
  induction r generalizing x with
  | finish o =>
    intro is
    cases is
  | lookup name k ih => exact ih _ ((calm.lookup service name x).trans passing)
  | act a k ih => exact ih ((calm.act service a x).trans passing)
  | read path' k ih =>
    rw [Host.advance, passing, if_neg Bool.false_ne_true]
    intro is
    cases is
  | share name path' k ih =>
    rw [Host.advance]
    cases landed name with
    | some o => exact ih o ((calm.act service _ x).trans passing)
    | none =>
      intro is
      cases is

theorem Host.Calm.turn (calm : h.Calm) {service : Nat} {landed : Text → Option (Except Failure V)} {c : Bool}
    {st : Standing V β} {x y : σ} {halt : Halt V β} (passing : h.holding x = false)
    (goes : h.turn service landed c st x = some (halt, y)) (path : Text)
    (next : Except Failure Bytes → Routine V β) : halt ≠ .held path next := by
  have runs {r : Routine V β} {z : σ} (passing : h.holding z = false)
      (goes : some (h.advance service landed r z) = some (halt, y)) : halt ≠ .held path next := by
    have free := calm.advance service landed r passing path next
    rwa [Option.some.inj goes] at free
  cases st with
  | fresh r => cases c with
    | true =>
      cases goes
      intro is
      cases is
    | false => exact runs passing goes
  | passed path' k => cases c with
    | true => exact runs passing goes
    | false =>
      cases goes
      intro is
      cases is
  | paused path' k => cases c with
    | true => exact runs passing goes
    | false => exact runs ((calm.serve path' x).trans passing) goes
  | landed o k => exact runs passing goes
  | resumed r => exact runs passing goes
  | held | waiting | ended => cases goes

/-- A host that honors terms honors them without a gate while it is open. -/
theorem Host.Honors.ungated {inv : σ → Prop} {service : Nat} {t : Terms V}
    (honors : h.Honors inv service t) (calm : h.Calm) :
    h.Honors (fun x => inv x ∧ h.holding x = false) service { t with gated := False } where
  contents x inv := honors.contents x inv.1
  lookup x name inv := by
    obtain ⟨inv', same, finds⟩ := honors.lookup x name inv.1
    exact ⟨⟨inv', (calm.lookup service name x).trans inv.2⟩, same, finds⟩
  act x a inv allowed := by
    obtain ⟨inv', same⟩ := honors.act x a inv.1 allowed
    exact ⟨⟨inv', (calm.act service a x).trans inv.2⟩, same⟩
  joined := honors.joined
  beginRead x path inv := by
    obtain ⟨inv', same⟩ := honors.beginRead x path inv.1
    exact ⟨⟨inv', (calm.beginRead path x).trans inv.2⟩, same⟩
  serve x path inv := by
    obtain ⟨inv', same⟩ := honors.serve x path inv.1
    exact ⟨⟨inv', (calm.serve path x).trans inv.2⟩, same⟩
  holding x inv holds := Bool.false_ne_true (inv.2.symm.trans holds)

/-- To keep its terms a routine need not know whether there is a gate. -/
theorem Routine.Ensures.ungated {t : Terms V} {post : Contents → Except Failure β → Prop}
    {r : Routine V β} {c : Contents} (ensures : r.Ensures t post c) :
    r.Ensures { t with gated := False } post c := by
  induction r generalizing c with
  | finish o => exact ensures
  | lookup name next ih => exact ⟨ih none ensures.1, fun v found => ih (some v) (ensures.2 v found)⟩
  | act a next ih => exact ⟨ensures.1, ih ensures.2⟩
  | read path next ih =>
    exact ⟨fun c met => ih _ (ensures.1 c met), fun may c met => ih _ (ensures.2 may c met)⟩
  | share name path next ih =>
    exact ⟨ensures.1, fun c o met shared => ih o (ensures.2.1 c o met shared),
      fun may c met => ih _ (ensures.2.2 may c met)⟩

/-- A job that is not held keeps its terms without a gate. -/
theorem Standing.Keeps.ungated {t : Terms V} {post : Contents → Except Failure β → Prop}
    {tie : Nat → Text → Prop} {st : Standing V β} (keeps : st.Keeps t post tie)
    (unheld : st.phase ≠ .held) : st.Keeps { t with gated := False } post tie := by
  cases st with
  | fresh r => exact ⟨fun c met => (keeps.1 c met).ungated, keeps.2⟩
  | held path next => exact absurd rfl unheld
  | passed path next | paused path next =>
    exact ⟨fun c met => (keeps.1 c met).ungated, fun may c met => (keeps.2 may c met).ungated⟩
  | waiting l next =>
    obtain ⟨name, tied, shares⟩ := keeps
    exact ⟨name, tied, fun c o met shared => (shares.1 c o met shared).ungated,
      fun may c met => (shares.2 may c met).ungated⟩
  | landed o next =>
    exact ⟨fun c met => (keeps.1 c met).ungated, fun may c met => (keeps.2 may c met).ungated⟩
  | resumed r => exact fun c met => (keeps c met).ungated
  | ended o => exact keeps

namespace Scheduler

variable {s : Scheduler σ V α}

/-- No job is held, and none will be. -/
structure Unheld (h : Host σ V) (s : Scheduler σ V α) : Prop where
  passing : h.holding s.state = false
  jobs : ∀ id job, s.job? id = some job → job.work.phase ≠ .held

/-- **Opening the gate** leaves no job held. -/
theorem Linked.unheld_openGate (linked : s.Linked s.queue) {id : Nat} {job : Job V α}
    (at_ : s.openGate.job? id = some job) : job.work.phase ≠ .held := by
  intro held
  have gate := linked.opened.held id job at_ held
  exact List.not_mem_nil gate

end Scheduler

namespace Contract

variable {s : Scheduler σ V α}

/-- A contract from the moment on at which no job is held. -/
def ungated (K : Contract h α) (calm : h.Calm) : Contract h α where
  inv x := K.inv x ∧ h.holding x = false
  first := K.first
  terms id service := { K.terms id service with gated := False }
  post := K.post
  loadTerms service := { K.loadTerms service with gated := False }
  loadPost := K.loadPost
  honors id service := (K.honors id service).ungated calm
  loadHonors service := (K.loadHonors service).ungated calm
  solo := K.solo
  steady := K.steady
  starts id service name path x inv sharable l c met :=
    (K.starts id service name path x inv.1 sharable l c met).ungated
  tells := K.tells

theorem ungated_free (K : Contract h α) (calm : h.Calm) : (K.ungated calm).Free where
  requests _ _ := not_false
  loads _ := not_false

variable {K : Contract h α}

/-- **A contract goes on without a gate** once no job is held. -/
theorem Sound.ungated (sound : K.Sound s) (unheld : s.Unheld h) (calm : h.Calm) :
    (K.ungated calm).Sound s where
  linked := sound.linked
  holds := {
    inv := ⟨sound.holds.inv, unheld.passing⟩
    first := sound.holds.first
    jobs := fun id job at_ => by
      have keeps := sound.holds.jobs id job at_
      have free := unheld.jobs id job at_
      obtain ⟨service, work, cancelling⟩ := job
      cases work with
      | request st =>
        obtain ⟨keeps, may⟩ := keeps.request
        exact ⟨_, _, _, _, _, _, .request, rfl, keeps.ungated free, may⟩
      | load name st waiters =>
        obtain ⟨keeps, steady⟩ := keeps.load
        refine ⟨_, _, _, _, _, _, .load name waiters, rfl, keeps.ungated free, fun may => ?_⟩
        exact absurd (steady.symm.trans may) Bool.false_ne_true }
  informed := sound.informed

/-- **Every request comes to an outcome** that its contract allows, once no job is held. -/
theorem Sound.settles_unheld (sound : K.Sound s) (unheld : s.Unheld h) (calm : h.Calm)
    {id service : Nat} {st : Standing V α} {cancelling : Bool}
    (at_ : s.job? id = some ⟨service, .request st, cancelling⟩) :
    ∃ o c, s.Settles h id o ∧ (K.terms id service).contents c ∧ K.post id service c o := by
  have free : (K.ungated calm).Sound s := sound.ungated unheld calm
  obtain ⟨o, c, settles, met, post⟩ := free.settles (K.ungated_free calm) at_
  exact ⟨o, c, settles, met, post⟩

end Contract

end Stencil
