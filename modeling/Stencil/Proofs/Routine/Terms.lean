import Mathlib.Tactic.Common
import Stencil.Routine

/-!
# The terms of a routine

A routine runs among others that change what it finds. Its terms say what answers it may rely on and
what it may do in turn; on these terms it ensures something about its outcome.

## Main definitions

- `Contents` — what all paths hold at one moment
- `Terms` — what a routine relies on and what it may do
- `Terms.Within` — terms that promise no less than others and demand no more
- `Routine.Ensures` — a routine keeps its terms and ends as it should
- `Routine.Ends` — an outcome that the terms of a routine leave
- `EndsAlike` — two routines keep their terms and end alike, and what they result in is as it should be

## Design notes

What a routine does between two waits happens at one moment. So what it may do depends on the contents
that its last read has met, and each wait may bring other contents.

Two ways to do the same thing, one with single flight and one without, end with the same outcome. `sure`
says whether there is at most one: if answers may differ from run to run, there are several, and only the
terms are kept.
-/

namespace Stencil

/-- What reads are answered with at one moment. -/
abbrev Contents := Text → Except Failure Bytes

/-- What a routine relies on and what it may do. -/
structure Terms (V : Type) where
  /-- The contents that a turn may meet. -/
  contents : Contents → Prop
  /-- What a lookup of a name may find. -/
  found : Text → V → Prop
  /-- What the load of a name may come to. -/
  shared : Text → Except Failure V → Prop
  /-- What it may do, given the contents of the moment. -/
  allowed : Contents → Act V → Prop
  /-- The loads that it may ask for, by name and path. -/
  sharable : Text → Text → Prop
  /-- Whether it may be cancelled. -/
  cancellable : Prop
  /-- Whether it may be held at the gate. -/
  gated : Prop

/-- Who keeps the terms `t` keeps the terms `t'` too, since these promise no less and demand no more. -/
structure Terms.Within {V : Type} (t' t : Terms V) : Prop where
  contents : ∀ c, t'.contents c → t.contents c
  found : ∀ name v, t'.found name v → t.found name v
  shared : ∀ name o, t'.shared name o → t.shared name o
  allowed : ∀ c a, t'.contents c → t.allowed c a → t'.allowed c a
  sharable : ∀ name path, t.sharable name path → t'.sharable name path
  cancellable : t'.cancellable → t.cancellable
  gated : t.gated → t'.gated

namespace Routine

variable {V α β : Type} {t : Terms V}

/-- A routine keeps its terms from a moment on and ends with an outcome of which `post` holds at the
moment of its end. -/
def Ensures (t : Terms V) (post : Contents → Except Failure α → Prop) :
    Routine V α → Contents → Prop
  | finish r, c => post c r
  | lookup name next, c =>
    (next none).Ensures t post c ∧ ∀ v, t.found name v → (next (some v)).Ensures t post c
  | act a next, c => t.allowed c a ∧ next.Ensures t post c
  | read path next, _ =>
    (∀ c, t.contents c → (next (c path)).Ensures t post c) ∧
      (t.cancellable → ∀ c, t.contents c → (next (.error .cancelled)).Ensures t post c)
  | share name path next, _ =>
    t.sharable name path ∧
      (∀ c o, t.contents c → t.shared name o → (next o).Ensures t post c) ∧
      (t.cancellable → ∀ c, t.contents c → (next (.error .cancelled)).Ensures t post c)

theorem Ensures.mono {post post' : Contents → Except Failure α → Prop}
    (weaker : ∀ c o, post c o → post' c o) {r : Routine V α} {c : Contents}
    (ensures : r.Ensures t post c) : r.Ensures t post' c := by
  induction r generalizing c with
  | finish o => exact weaker c o ensures
  | lookup name next ih => exact ⟨ih none ensures.1, fun v found => ih (some v) (ensures.2 v found)⟩
  | act a next ih => exact ⟨ensures.1, ih ensures.2⟩
  | read path next ih =>
    exact ⟨fun c met => ih _ (ensures.1 c met), fun may c met => ih _ (ensures.2 may c met)⟩
  | share name path next ih =>
    exact ⟨ensures.1, fun c o met shared => ih _ (ensures.2.1 c o met shared),
      fun may c met => ih _ (ensures.2.2 may c met)⟩

/-- A routine that keeps some terms keeps those that promise no less and demand no more. -/
theorem Ensures.within {t' : Terms V} {post post' : Contents → Except Failure α → Prop}
    {r : Routine V α} {c : Contents} (ensures : r.Ensures t post c) (within : t'.Within t)
    (weaker : ∀ c o, t'.contents c → post c o → post' c o) (met : t'.contents c) :
    r.Ensures t' post' c := by
  induction r generalizing c with
  | finish o => exact weaker c o met ensures
  | lookup name next ih =>
    exact ⟨ih none ensures.1 met,
      fun v found => ih (some v) (ensures.2 v (within.found name v found)) met⟩
  | act a next ih => exact ⟨within.allowed c a met ensures.1, ih ensures.2 met⟩
  | read path next ih =>
    refine ⟨fun c met => ih _ (ensures.1 c (within.contents c met)) met, fun may c met => ?_⟩
    exact ih _ (ensures.2 (within.cancellable may) c (within.contents c met)) met
  | share name path next ih =>
    refine ⟨within.sharable name path ensures.1, fun c o met shared => ?_, fun may c met => ?_⟩
    · exact ih _ (ensures.2.1 c o (within.contents c met) (within.shared name o shared)) met
    · exact ih _ (ensures.2.2 (within.cancellable may) c (within.contents c met)) met

/-- An outcome that a routine may end with when it is answered on these terms. -/
def Ends (t : Terms V) (o : Except Failure α) : Routine V α → Prop
  | finish r => r = o
  | lookup name next => (next none).Ends t o ∨ ∃ v, t.found name v ∧ (next (some v)).Ends t o
  | act _ next => next.Ends t o
  | read path next =>
    (∃ c, t.contents c ∧ (next (c path)).Ends t o) ∨ t.cancellable ∧ (next (.error .cancelled)).Ends t o
  | share name _ next =>
    (∃ told, t.shared name told ∧ (next told).Ends t o) ∨
      t.cancellable ∧ (next (.error .cancelled)).Ends t o

/-- Terms that promise no less leave no more outcomes. -/
theorem Ends.mono {t' : Terms V} {r : Routine V α} {o : Except Failure α} (ends : r.Ends t o)
    (contents : ∀ c, t.contents c → t'.contents c) (found : ∀ name v, t.found name v → t'.found name v)
    (shared : ∀ name o, t.shared name o → t'.shared name o) (cancels : t.cancellable → t'.cancellable) :
    r.Ends t' o := by
  induction r with
  | finish r => exact ends
  | lookup name next ih =>
    exact ends.imp (ih none) fun ⟨v, is, ends⟩ => ⟨v, found name v is, ih (some v) ends⟩
  | act a next ih => exact ih ends
  | read path next ih =>
    exact ends.imp (fun ⟨c, met, ends⟩ => ⟨c, contents c met, ih _ ends⟩)
      fun ⟨may, ends⟩ => ⟨cancels may, ih _ ends⟩
  | share name path next ih =>
    exact ends.imp (fun ⟨o, told, ends⟩ => ⟨o, shared name o told, ih o ends⟩)
      fun ⟨may, ends⟩ => ⟨cancels may, ih _ ends⟩

/-- Besides what it ensures, a routine ends with an outcome that its terms leave. -/
theorem Ensures.ends {post : Contents → Except Failure α → Prop} {r : Routine V α} {c : Contents}
    (ensures : r.Ensures t post c) : r.Ensures t (fun c o => post c o ∧ r.Ends t o) c := by
  induction r generalizing c with
  | finish o => exact ⟨ensures, rfl⟩
  | lookup name next ih =>
    refine ⟨(ih none ensures.1).mono fun c o ends => ⟨ends.1, .inl ends.2⟩, fun v found => ?_⟩
    exact (ih (some v) (ensures.2 v found)).mono fun c o ends => ⟨ends.1, .inr ⟨v, found, ends.2⟩⟩
  | act a next ih => exact ⟨ensures.1, ih ensures.2⟩
  | read path next ih =>
    refine ⟨fun c met => ?_, fun may c met => ?_⟩
    · exact (ih _ (ensures.1 c met)).mono fun _ o ends => ⟨ends.1, .inl ⟨c, met, ends.2⟩⟩
    · exact (ih _ (ensures.2 may c met)).mono fun _ o ends => ⟨ends.1, .inr ⟨may, ends.2⟩⟩
  | share name path next ih =>
    refine ⟨ensures.1, fun c o met told => ?_, fun may c met => ?_⟩
    · exact (ih o (ensures.2.1 c o met told)).mono fun _ _ ends => ⟨ends.1, .inl ⟨o, told, ends.2⟩⟩
    · exact (ih _ (ensures.2.2 may c met)).mono fun _ _ ends => ⟨ends.1, .inr ⟨may, ends.2⟩⟩

theorem Ensures.onEnd {post : Contents → Except Failure α → Prop}
    {post' : Contents → Except Failure β → Prop} {r : Routine V α}
    {f : Except Failure α → Routine V β} {c : Contents} (ensures : r.Ensures t post c)
    (next : ∀ c o, post c o → (f o).Ensures t post' c) : (r.onEnd f).Ensures t post' c := by
  induction r generalizing c with
  | finish o => exact next c o ensures
  | lookup name k ih => exact ⟨ih none ensures.1, fun v found => ih (some v) (ensures.2 v found)⟩
  | act a k ih => exact ⟨ensures.1, ih ensures.2⟩
  | read path k ih =>
    exact ⟨fun c met => ih _ (ensures.1 c met), fun may c met => ih _ (ensures.2 may c met)⟩
  | share name path k ih =>
    exact ⟨ensures.1, fun c o met shared => ih _ (ensures.2.1 c o met shared),
      fun may c met => ih _ (ensures.2.2 may c met)⟩

/-- A routine and what follows its result; a failure is passed on. -/
theorem Ensures.bind {post : Contents → Except Failure α → Prop}
    {post' : Contents → Except Failure β → Prop} {r : Routine V α} {f : α → Routine V β}
    {c : Contents} (ensures : r.Ensures t post c)
    (next : ∀ c a, post c (.ok a) → (f a).Ensures t post' c)
    (fails : ∀ c e, post c (.error e) → post' c (.error e)) : (r.bind f).Ensures t post' c := by
  refine ensures.onEnd fun c o ends => ?_
  cases o with
  | ok a => exact next c a ends
  | error e => exact fails c e ends

/-- A routine and the handling of its failure; a result is passed on. -/
theorem Ensures.handle {post post' : Contents → Except Failure α → Prop} {r : Routine V α}
    {f : Failure → Routine V α} {c : Contents} (ensures : r.Ensures t post c)
    (fails : ∀ c e, post c (.error e) → (f e).Ensures t post' c)
    (next : ∀ c a, post c (.ok a) → post' c (.ok a)) : (r.handle f).Ensures t post' c := by
  refine ensures.onEnd fun c o ends => ?_
  cases o with
  | ok a => exact next c a ends
  | error e => exact fails c e ends

/-- A routine that starts with contents that it may meet ends with such contents. -/
theorem Ensures.met {post : Contents → Except Failure α → Prop} {r : Routine V α} {c : Contents}
    (met : t.contents c) (ensures : r.Ensures t post c) :
    r.Ensures t (fun c o => t.contents c ∧ post c o) c := by
  induction r generalizing c with
  | finish o => exact ⟨met, ensures⟩
  | lookup name next ih =>
    exact ⟨ih none met ensures.1, fun v found => ih (some v) met (ensures.2 v found)⟩
  | act a next ih => exact ⟨ensures.1, ih met ensures.2⟩
  | read path next ih =>
    exact ⟨fun c met => ih _ met (ensures.1 c met), fun may c met => ih _ met (ensures.2 may c met)⟩
  | share name path next ih =>
    exact ⟨ensures.1, fun c o met shared => ih _ met (ensures.2.1 c o met shared),
      fun may c met => ih _ met (ensures.2.2 may c met)⟩

end Routine

/-! ### Two ways to do the same -/

variable {V α β : Type} {t : Terms V} {sure : Prop}

/-- Two routines keep their terms and end with an outcome of which there is one for sure. A result of
theirs is one of `Q`. -/
def EndsAlike (t : Terms V) (sure : Prop) (Q : α → Prop) (r : Bool → Routine V α) : Prop :=
  ∃ P : Except Failure α → Prop, (sure → ∀ o o', P o → P o' → o = o') ∧ (∀ a, P (.ok a) → Q a) ∧
    ∀ b c, t.contents c → (r b).Ensures t (fun _ => P) c

namespace EndsAlike

variable {Q : α → Prop} {Q' : β → Prop}

theorem pure {a : α} (good : Q a) : EndsAlike t sure Q fun _ => Pure.pure a := by
  refine ⟨(· = .ok a), fun _ _ _ e e' => e.trans e'.symm, fun a' e => ?_, fun _ _ _ => rfl⟩
  rwa [Except.ok.inj e]

theorem fail (f : Failure) : EndsAlike t sure Q fun _ => Routine.fail f := by
  refine ⟨(· = .error f), fun _ _ _ e e' => e.trans e'.symm, ?_, fun _ _ _ => rfl⟩
  rintro a ⟨⟩

theorem ofExcept (r : Except Failure α) (good : ∀ a, r = .ok a → Q a) :
    EndsAlike t sure Q fun _ => Routine.ofExcept r := by
  cases r with
  | ok a => exact pure (good a rfl)
  | error f => exact fail f

theorem act {a : Act V} {r : Bool → Routine V α} (allowed : ∀ c, t.contents c → t.allowed c a)
    (alike : EndsAlike t sure Q r) : EndsAlike t sure Q fun b => .act a (r b) := by
  obtain ⟨P, one, good, ensures⟩ := alike
  exact ⟨P, one, good, fun b c met => ⟨allowed c met, ensures b c met⟩⟩

/-- Two routines end alike, and so do those that go on with their outcome. -/
theorem onEnd {r : Bool → Routine V α} {f : Bool → Except Failure α → Routine V β}
    (alike : EndsAlike t sure Q r) (next : ∀ a, Q a → EndsAlike t sure Q' fun b => f b (.ok a))
    (fails : ∀ e, EndsAlike t sure Q' fun b => f b (.error e)) :
    EndsAlike t sure Q' fun b => (r b).onEnd (f b) := by
  obtain ⟨P, one, good, ensures⟩ := alike
  have go : ∀ o, P o → EndsAlike t sure Q' fun b => f b o := by
    intro o ends
    cases o with
    | ok a => exact next a (good a ends)
    | error e => exact fails e
  refine ⟨fun o' => ∃ (o : _) (ends : P o), (go o ends).choose o', fun is => ?_, ?_, fun b c met => ?_⟩
  · rintro o₁ o₂ ⟨o, ends, ends₁⟩ ⟨o', ends', ends₂⟩
    obtain rfl := one is o o' ends ends'
    exact (go o ends).choose_spec.1 is o₁ o₂ ends₁ ends₂
  · rintro a ⟨o, ends, ends'⟩
    exact (go o ends).choose_spec.2.1 a ends'
  · refine (ensures b c met).met met |>.onEnd fun c o ends => ?_
    exact ((go o ends.2).choose_spec.2.2 b c ends.1).mono fun _ o' ends' => ⟨o, ends.2, ends'⟩

theorem bind {r : Bool → Routine V α} {f : Bool → α → Routine V β} (alike : EndsAlike t sure Q r)
    (next : ∀ a, Q a → EndsAlike t sure Q' fun b => f b a) :
    EndsAlike t sure Q' fun b => r b >>= f b :=
  alike.onEnd next fail

theorem handle {r : Bool → Routine V α} {f : Bool → Failure → Routine V α}
    (alike : EndsAlike t sure Q r) (fails : ∀ e, EndsAlike t sure Q fun b => f b e) :
    EndsAlike t sure Q fun b => (r b).handle (f b) :=
  alike.onEnd (fun _ good => pure good) fails

end EndsAlike

end Stencil
