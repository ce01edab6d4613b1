import Stencil.Proofs.Routine.Terms
import Stencil.Proofs.Schedule.Turn

/-!
# Hosts that honor terms

A routine that keeps its terms goes on keeping them at every turn, if the host gives it what they
promise.

## Main definitions

- `Host.Honors` — a host gives a routine what its terms promise
- `Halt.Keeps`, `Standing.Keeps` — a routine keeps its terms where it stops, and between two turns
-/

namespace Stencil

namespace Terms

variable {V β : Type}

/-- A routine keeps its terms that waits for a read. -/
def Reads (t : Terms V) (post : Contents → Except Failure β → Prop) (path : Text)
    (next : Except Failure Bytes → Routine V β) : Prop :=
  (∀ c, t.contents c → (next (c path)).Ensures t post c) ∧
    (t.cancellable → ∀ c, t.contents c → (next (.error .cancelled)).Ensures t post c)

/-- A routine keeps its terms that waits for a load. -/
def Shares (t : Terms V) (post : Contents → Except Failure β → Prop) (name : Text)
    (next : Except Failure V → Routine V β) : Prop :=
  (∀ c o, t.contents c → t.shared name o → (next o).Ensures t post c) ∧
    (t.cancellable → ∀ c, t.contents c → (next (.error .cancelled)).Ensures t post c)

end Terms

/-- A routine keeps its terms where it stops. -/
def Halt.Keeps {V β : Type} (t : Terms V) (post : Contents → Except Failure β → Prop) (c : Contents) :
    Halt V β → Prop
  | ended o => post c o
  | held path next => t.gated ∧ t.Reads post path next
  | paused path next => t.Reads post path next
  | sharing name path next => t.sharable name path ∧ t.Shares post name next

/-- A job keeps its terms between two turns. It may wait for a load only if `tie` connects the load to
the name for which it was asked. -/
def Standing.Keeps {V β : Type} (t : Terms V) (post : Contents → Except Failure β → Prop)
    (tie : Nat → Text → Prop) : Standing V β → Prop
  | fresh r => (∀ c, t.contents c → r.Ensures t post c) ∧
      (t.cancellable → ∀ c, t.contents c → post c (.error .cancelled))
  | held path next => t.gated ∧ t.Reads post path next
  | passed path next => t.Reads post path next
  | paused path next => t.Reads post path next
  | waiting l next => ∃ name, tie l name ∧ t.Shares post name next
  | landed o next => (∀ c, t.contents c → (next o).Ensures t post c) ∧
      (t.cancellable → ∀ c, t.contents c → (next (.error .cancelled)).Ensures t post c)
  | resumed r => ∀ c, t.contents c → r.Ensures t post c
  | ended o => ∃ c, t.contents c ∧ post c o

/-- A job that keeps some terms keeps those that promise no less and demand no more. -/
theorem Standing.Keeps.within {V β : Type} {t t' : Terms V}
    {post post' : Contents → Except Failure β → Prop} {tie tie' : Nat → Text → Prop}
    {st : Standing V β} (keeps : st.Keeps t post tie) (within : t'.Within t)
    (weaker : ∀ c o, t'.contents c → post c o → post' c o) (tied : ∀ l name, tie l name → tie' l name)
    (past : ∀ o, st = .ended o → ∃ c, t'.contents c ∧ post' c o) : st.Keeps t' post' tie' := by
  have ensures : ∀ {r : Routine V β} {c : Contents}, t'.contents c → r.Ensures t post c →
      r.Ensures t' post' c := fun met ensures => ensures.within within weaker met
  have reads : ∀ {path next}, t.Reads post path next → t'.Reads post' path next :=
    fun reads => ⟨fun c met => ensures met (reads.1 c (within.contents c met)),
      fun may c met => ensures met (reads.2 (within.cancellable may) c (within.contents c met))⟩
  cases st with
  | fresh r =>
    exact ⟨fun c met => ensures met (keeps.1 c (within.contents c met)),
      fun may c met => weaker c _ met (keeps.2 (within.cancellable may) c (within.contents c met))⟩
  | held path next => exact ⟨within.gated keeps.1, reads keeps.2⟩
  | passed path next => exact reads keeps
  | paused path next => exact reads keeps
  | waiting l next =>
    obtain ⟨name, tie, shares⟩ := keeps
    refine ⟨name, tied l name tie, fun c o met shared => ?_, fun may c met => ?_⟩
    · exact ensures met (shares.1 c o (within.contents c met) (within.shared name o shared))
    · exact ensures met (shares.2 (within.cancellable may) c (within.contents c met))
  | landed o next =>
    exact ⟨fun c met => ensures met (keeps.1 c (within.contents c met)),
      fun may c met => ensures met (keeps.2 (within.cancellable may) c (within.contents c met))⟩
  | resumed r => exact fun c met => ensures met (keeps c (within.contents c met))
  | ended o => exact past o rfl

namespace Host

variable {σ V β : Type} {h : Host σ V} {inv : σ → Prop} {service : Nat} {t : Terms V}

/-- What reads are answered with in a state. -/
def contents (h : Host σ V) (x : σ) : Contents :=
  fun path => (h.serve path x).1

/-- A host gives the routines of a service what their terms promise, as long as they keep them. -/
structure Honors (h : Host σ V) (inv : σ → Prop) (service : Nat) (t : Terms V) : Prop where
  contents : ∀ x, inv x → t.contents (h.contents x)
  lookup : ∀ x name, inv x → inv (h.lookup service name x).2 ∧
    h.contents (h.lookup service name x).2 = h.contents x ∧
    ∀ v, (h.lookup service name x).1 = some v → t.found name v
  act : ∀ x a, inv x → t.allowed (h.contents x) a →
    inv (h.act service a x) ∧ h.contents (h.act service a x) = h.contents x
  joined : ∀ c name, t.allowed c (.note (.joined name))
  beginRead : ∀ x path, inv x →
    inv (h.beginRead path x) ∧ h.contents (h.beginRead path x) = h.contents x
  serve : ∀ x path, inv x →
    inv (h.serve path x).2 ∧ h.contents (h.serve path x).2 = h.contents x
  holding : ∀ x, inv x → h.holding x = true → t.gated

variable {post : Contents → Except Failure β → Prop} {landed : Text → Option (Except Failure V)}

/-- A routine keeps its terms as far as it runs. -/
theorem advance_keeps (honors : h.Honors inv service t)
    (tells : ∀ name path o, t.sharable name path → landed name = some o → t.shared name o)
    {r : Routine V β} {x y : σ}
    {halt : Halt V β} (start : inv x) (ensures : r.Ensures t post (h.contents x))
    (stops : h.advance service landed r x = (halt, y)) :
    inv y ∧ h.contents y = h.contents x ∧ halt.Keeps t post (h.contents x) := by
  induction r generalizing x with
  | finish o =>
    cases stops
    exact ⟨start, rfl, ensures⟩
  | lookup name next ih =>
    obtain ⟨inv', same, finds⟩ := honors.lookup x name start
    change h.advance service landed (next (h.lookup service name x).1) _ = _ at stops
    cases found : (h.lookup service name x).1 with
    | none =>
      have ensures' := ensures.1
      rw [← same] at ensures' ⊢
      rw [found] at stops
      exact ih none inv' ensures' stops
    | some v =>
      have ensures' := ensures.2 v (finds v found)
      rw [← same] at ensures' ⊢
      rw [found] at stops
      exact ih (some v) inv' ensures' stops
  | act a next ih =>
    obtain ⟨inv', same⟩ := honors.act x a start ensures.1
    have ensures' := ensures.2
    rw [← same] at ensures' ⊢
    exact ih inv' ensures' stops
  | read path next ih =>
    rw [advance] at stops
    split at stops
    · next holds =>
      have gated := honors.holding x start holds
      cases stops
      exact ⟨start, rfl, gated, ensures⟩
    · obtain ⟨inv', same⟩ := honors.beginRead x path start
      cases stops
      exact ⟨inv', same, ensures⟩
  | share name path next ih =>
    rw [advance] at stops
    split at stops
    · next o lands =>
      obtain ⟨inv', same⟩ := honors.act x _ start (honors.joined _ name)
      have ensures' := ensures.2.1 _ o (honors.contents x start) (tells name path o ensures.1 lands)
      rw [← same] at ensures' ⊢
      exact ih o inv' ensures' stops
    · cases stops
      exact ⟨start, rfl, ensures⟩

/-- A job goes on with a routine that keeps its terms. -/
private theorem entry?_keeps (honors : h.Honors inv service t) {tie : Nat → Text → Prop}
    {st : Standing V β} {cancelling : Bool} {x y : σ} {r : Routine V β} (start : inv x)
    (keeps : st.Keeps t post tie) (may : cancelling = true → t.cancellable)
    (enters : h.entry? cancelling st x = some (r, y)) :
    inv y ∧ h.contents y = h.contents x ∧ r.Ensures t post (h.contents x) := by
  have met := honors.contents x start
  cases st with
  | fresh r =>
    cases enters
    refine ⟨start, rfl, ?_⟩
    cases cancelling with
    | false => exact keeps.1 _ met
    | true => exact keeps.2 (may rfl) _ met
  | passed path next =>
    cases cancelling with
    | false => cases enters
    | true =>
      cases enters
      exact ⟨start, rfl, keeps.2 (may rfl) _ met⟩
  | paused path next =>
    cases cancelling with
    | false =>
      cases enters
      obtain ⟨inv', same⟩ := honors.serve x path start
      exact ⟨inv', same, keeps.1 _ met⟩
    | true =>
      cases enters
      exact ⟨start, rfl, keeps.2 (may rfl) _ met⟩
  | landed o next =>
    cases enters
    refine ⟨start, rfl, ?_⟩
    cases cancelling with
    | false => exact keeps.1 _ met
    | true => exact keeps.2 (may rfl) _ met
  | resumed r =>
    cases enters
    exact ⟨start, rfl, keeps _ met⟩
  | held path next => cases enters
  | waiting l next => cases enters
  | ended o => cases enters

/-- A job keeps its terms at its turn. -/
theorem turn_keeps (honors : h.Honors inv service t) {tie : Nat → Text → Prop}
    (tells : ∀ name path o, t.sharable name path → landed name = some o → t.shared name o)
    {st : Standing V β}
    {cancelling : Bool} {x y : σ} {halt : Halt V β} (start : inv x) (keeps : st.Keeps t post tie)
    (may : cancelling = true → t.cancellable)
    (goes : h.turn service landed cancelling st x = some (halt, y)) :
    inv y ∧ h.contents y = h.contents x ∧ halt.Keeps t post (h.contents x) := by
  obtain ⟨r, z, enters, _, runs⟩ | ⟨path, next, rfl, _, pauses⟩ | ⟨_, stays⟩ :=
    h.turn_cases service landed cancelling st x
  · obtain ⟨inv', same, ensures⟩ := entry?_keeps honors start keeps may enters
    rw [← same] at ensures
    obtain ⟨inv'', same', halts⟩ :=
      advance_keeps honors tells inv' ensures (Option.some.inj (runs.symm.trans goes))
    exact ⟨inv'', same'.trans same, same ▸ halts⟩
  · cases pauses.symm.trans goes
    obtain ⟨inv', same⟩ := honors.beginRead x path start
    exact ⟨inv', same, keeps⟩
  · cases stays.symm.trans goes

end Host

/-- Where a routine has stopped, its job keeps its terms. -/
theorem Halt.Keeps.standing {V β : Type} {t : Terms V} {post : Contents → Except Failure β → Prop}
    {tie : Nat → Text → Prop} {c : Contents} {halt : Halt V β} (keeps : halt.Keeps t post c)
    (met : t.contents c) {l : Nat}
    (tied : ∀ name path next, halt = .sharing name path next → tie l name) :
    (halt.standing l).Keeps t post tie := by
  cases halt with
  | ended o => exact ⟨c, met, keeps⟩
  | held path next => exact keeps
  | paused path next => exact keeps
  | sharing name path next => exact ⟨name, tied name path next rfl, keeps.2⟩

end Stencil
