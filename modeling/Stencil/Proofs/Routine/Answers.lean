import Stencil.Routine

/-!
# Routines and their answers

A routine goes on by what it is answered. This file is about what holds of a routine whatever the answers
are: what it may come to, what it never asks for, and what it does when it is cancelled.

## Main definitions

- `Routine.Hereditary` — a property that a routine hands on, whatever it is answered
- `Routine.Leads` — what a routine may come to
- `Routine.Alone` — a routine that asks for no load
- `Routine.Yields` — a routine that ends at once when it is cancelled
- `Routine.Concedes` — a routine that only reports before it fails
-/

namespace Stencil

/-- Whether an act only reports. -/
def Act.reports {V : Type} : Act V → Prop
  | note _ | count _ | miss _ => True
  | keep .. | run _ => False

namespace Routine

variable {V α β : Type}

theorem onEnd_onEnd {γ : Type} (r : Routine V α) (f : Except Failure α → Routine V β)
    (g : Except Failure β → Routine V γ) : (r.onEnd f).onEnd g = r.onEnd fun o => (f o).onEnd g := by
  induction r with
  | finish o => rfl
  | act a next ih => exact congrArg _ ih
  | lookup name next ih | read path next ih | share name path next ih => exact congrArg _ (funext ih)

theorem onEnd_finish (r : Routine V α) : r.onEnd finish = r := by
  induction r with
  | finish o => rfl
  | act a next ih => exact congrArg _ ih
  | lookup name next ih | read path next ih | share name path next ih => exact congrArg _ (funext ih)

/-- A property that a routine hands on, whatever it is answered. -/
structure Hereditary (Q : Routine V β → Prop) : Prop where
  lookup : ∀ name next v, Q (.lookup name next) → Q (next v)
  act : ∀ a next, Q (.act a next) → Q next
  read : ∀ path next b, Q (.read path next) → Q (next b)
  share : ∀ name path next o, Q (.share name path next) → Q (next o)

theorem Hereditary.and {Q Q' : Routine V β → Prop} (hereditary : Hereditary Q)
    (hereditary' : Hereditary Q') : Hereditary fun r => Q r ∧ Q' r where
  lookup name next v holds := ⟨hereditary.lookup name next v holds.1, hereditary'.lookup name next v holds.2⟩
  act a next holds := ⟨hereditary.act a next holds.1, hereditary'.act a next holds.2⟩
  read path next b holds := ⟨hereditary.read path next b holds.1, hereditary'.read path next b holds.2⟩
  share name path next o holds :=
    ⟨hereditary.share name path next o holds.1, hereditary'.share name path next o holds.2⟩

/-- What a routine may come to. -/
inductive Leads (r : Routine V β) : Routine V β → Prop where
  | refl : Leads r r
  | lookup (name next v) : Leads r (.lookup name next) → Leads r (next v)
  | act (a next) : Leads r (.act a next) → Leads r next
  | read (path next b) : Leads r (.read path next) → Leads r (next b)
  | share (name path next o) : Leads r (.share name path next) → Leads r (next o)

theorem hereditary_leads (r : Routine V β) : Hereditary r.Leads :=
  ⟨.lookup, .act, .read, .share⟩

/-- A routine that asks for no load. -/
def Alone : Routine V β → Prop
  | finish _ => True
  | lookup _ next => ∀ v, (next v).Alone
  | act _ next => next.Alone
  | read _ next => ∀ b, (next b).Alone
  | share .. => False

theorem hereditary_alone : Hereditary (Alone : Routine V β → Prop) where
  lookup _ _ v alone := alone v
  act _ _ alone := alone
  read _ _ b alone := alone b
  share _ _ _ _ alone := alone.elim

theorem Alone.onEnd {r : Routine V α} {f : Except Failure α → Routine V β} (alone : r.Alone)
    (next : ∀ o, (f o).Alone) : (r.onEnd f).Alone := by
  induction r with
  | finish o => exact next o
  | lookup name k ih => exact fun v => ih v (alone v)
  | act a k ih => exact ih alone
  | read path k ih => exact fun b => ih b (alone b)
  | share name path k ih => exact alone

theorem Alone.bind {r : Routine V α} {f : α → Routine V β} (alone : r.Alone)
    (next : ∀ a, (f a).Alone) : (r >>= f).Alone := by
  refine alone.onEnd fun o => ?_
  cases o with
  | ok a => exact next a
  | error e => trivial

/-- A routine that ends at once, wherever it is cancelled. -/
def Yields : Routine V β → Prop
  | finish _ => True
  | lookup _ next => ∀ v, (next v).Yields
  | act _ next => next.Yields
  | read _ next => next (.error .cancelled) = finish (.error .cancelled) ∧ ∀ b, (next b).Yields
  | share _ _ next => next (.error .cancelled) = finish (.error .cancelled) ∧ ∀ o, (next o).Yields

theorem hereditary_yields : Hereditary (Yields : Routine V β → Prop) where
  lookup _ _ v yields := yields v
  act _ _ yields := yields
  read _ _ b yields := yields.2 b
  share _ _ _ o yields := yields.2 o

/-- What goes on after a routine yields if it passes a cancellation on. -/
theorem Yields.onEnd {r : Routine V α} {f : Except Failure α → Routine V β} (yields : r.Yields)
    (passes : f (.error .cancelled) = finish (.error .cancelled)) (next : ∀ o, (f o).Yields) :
    (r.onEnd f).Yields := by
  induction r with
  | finish o => exact next o
  | lookup name k ih => exact fun v => ih v (yields v)
  | act a k ih => exact ih yields
  | read path k ih =>
    refine ⟨?_, fun b => ih b (yields.2 b)⟩
    change (k (.error .cancelled)).onEnd f = _
    rw [yields.1]
    exact passes
  | share name path k ih =>
    refine ⟨?_, fun o => ih o (yields.2 o)⟩
    change (k (.error .cancelled)).onEnd f = _
    rw [yields.1]
    exact passes

theorem Yields.bind {r : Routine V α} {f : α → Routine V β} (yields : r.Yields)
    (next : ∀ a, (f a).Yields) : (r >>= f).Yields := by
  refine yields.onEnd rfl fun o => ?_
  cases o with
  | ok a => exact next a
  | error e => trivial

theorem Yields.handle {r : Routine V α} {f : Failure → Routine V α} (yields : r.Yields)
    (passes : f .cancelled = .fail .cancelled) (next : ∀ e, (f e).Yields) : (r.handle f).Yields := by
  refine yields.onEnd passes fun o => ?_
  cases o with
  | ok a => trivial
  | error e => exact next e

/-- A routine that only reports before it fails. -/
def Concedes : Routine V β → Prop
  | finish (.error _) => True
  | act a next => a.reports ∧ next.Concedes
  | finish (.ok _) | lookup .. | read .. | share .. => False

/-- What goes on after a routine that concedes does so too if it passes the failure on. -/
theorem Concedes.onEnd {r : Routine V α} {f : Except Failure α → Routine V β} (concedes : r.Concedes)
    (next : ∀ e, (f (.error e)).Concedes) : (r.onEnd f).Concedes := by
  induction r with
  | finish o =>
    cases o with
    | ok a => exact concedes.elim
    | error e => exact next e
  | act a k ih => exact ⟨concedes.1, ih concedes.2⟩
  | lookup | read | share => exact concedes.elim

end Routine

end Stencil
