import Stencil.Proofs.Routine.Terms

/-!
# Courses of a routine

A course is one way in which a routine can go from its beginning to its end: what it did and asked for, in
order, with the answers, and its outcome.

## Main definitions

- `Exchange` — one thing that a routine does or asks for, with the answer
- `Routine.Course` — a routine goes this way and ends like that
- `Routine.told` — the way that a routine goes on certain answers
- `Routine.Does` — a routine does and asks for certain things only
- `Terms.Answers`, `Terms.Permits` — what terms promise and what they allow in a course

## Main results

- `Routine.Does.ensures` — a routine that does only what it may keeps its terms
-/

namespace Stencil

/-- One thing that a routine does or asks for, with the answer if there is one. -/
inductive Exchange (V : Type) where
  | lookup (name : Text) (found : Option V)
  | act (a : Act V)
  | read (path : Text) (answer : Except Failure Bytes)
  | share (name path : Text) (answer : Except Failure V)

/-- The value that begins to run. -/
def Exchange.run? {V : Type} : Exchange V → Option V
  | act (.run v) => some v
  | act (.note _) | act (.count _) | act (.keep ..) | act (.miss _) | lookup .. | read .. | share .. => none

namespace Routine

variable {V α β : Type}

/-- A routine goes this way and ends like that. -/
def Course : Routine V α → List (Exchange V) → Except Failure α → Prop
  | finish r, xs, o => xs = [] ∧ o = r
  | lookup name next, xs, o => ∃ found ys, xs = .lookup name found :: ys ∧ (next found).Course ys o
  | act a next, xs, o => ∃ ys, xs = .act a :: ys ∧ next.Course ys o
  | read path next, xs, o => ∃ answer ys, xs = .read path answer :: ys ∧ (next answer).Course ys o
  | share name path next, xs, o =>
    ∃ answer ys, xs = .share name path answer :: ys ∧ (next answer).Course ys o

theorem course_pure {a : α} {xs : List (Exchange V)} {o : Except Failure α} :
    (pure a : Routine V α).Course xs o ↔ xs = [] ∧ o = .ok a := Iff.rfl

theorem course_fail {f : Failure} {xs : List (Exchange V)} {o : Except Failure α} :
    (fail f : Routine V α).Course xs o ↔ xs = [] ∧ o = .error f := Iff.rfl

theorem course_ofExcept {r o : Except Failure α} {xs : List (Exchange V)} :
    (ofExcept r : Routine V α).Course xs o ↔ xs = [] ∧ o = r := Iff.rfl

/-- What goes on with the outcome of a routine has a course of both, one after the other. -/
theorem Course.onEnd {r : Routine V α} {f : Except Failure α → Routine V β} {xs : List (Exchange V)}
    {o : Except Failure β} (course : (r.onEnd f).Course xs o) :
    ∃ ys zs r', xs = ys ++ zs ∧ r.Course ys r' ∧ (f r').Course zs o := by
  induction r generalizing xs with
  | finish r' => exact ⟨[], xs, r', rfl, ⟨rfl, rfl⟩, course⟩
  | act a next ih =>
    obtain ⟨rest, rfl, course⟩ := course
    obtain ⟨ys, zs, r', rfl, first, second⟩ := ih course
    exact ⟨_, zs, r', rfl, ⟨ys, rfl, first⟩, second⟩
  | lookup name next ih | read path next ih | share name path next ih =>
    obtain ⟨answer, rest, rfl, course⟩ := course
    obtain ⟨ys, zs, r', rfl, first, second⟩ := ih answer course
    exact ⟨_, zs, r', rfl, ⟨answer, ys, rfl, first⟩, second⟩

/-- A course through two routines ends with the failure of the first one, or goes on with its result. -/
theorem Course.bind {r : Routine V α} {f : α → Routine V β} {xs : List (Exchange V)}
    {o : Except Failure β} (course : (r >>= f).Course xs o) :
    (∃ e, r.Course xs (.error e) ∧ o = .error e) ∨
      ∃ a ys zs, xs = ys ++ zs ∧ r.Course ys (.ok a) ∧ (f a).Course zs o := by
  obtain ⟨ys, zs, r', rfl, first, second⟩ := Course.onEnd course
  cases r' with
  | ok a => exact .inr ⟨a, ys, zs, rfl, first, second⟩
  | error e =>
    obtain ⟨rfl, rfl⟩ := second
    exact .inl ⟨e, by rwa [List.append_nil], rfl⟩

/-- A course through a routine and the handling of its failure. -/
theorem Course.handle {r : Routine V α} {f : Failure → Routine V α} {xs : List (Exchange V)}
    {o : Except Failure α} (course : (r.handle f).Course xs o) :
    (∃ a, r.Course xs (.ok a) ∧ o = .ok a) ∨
      ∃ e ys zs, xs = ys ++ zs ∧ r.Course ys (.error e) ∧ (f e).Course zs o := by
  obtain ⟨ys, zs, r', rfl, first, second⟩ := Course.onEnd course
  cases r' with
  | error e => exact .inr ⟨e, ys, zs, rfl, first, second⟩
  | ok a =>
    obtain ⟨rfl, rfl⟩ := second
    exact .inl ⟨a, by rwa [List.append_nil], rfl⟩

/-- How a routine goes if it finds these values in the cache, and if everything else that it asks for is
cancelled. -/
def told (found : Text → Option V) : Routine V α → List (Exchange V) × Except Failure α
  | finish r => ([], r)
  | lookup name next =>
    let (xs, o) := (next (found name)).told found
    (.lookup name (found name) :: xs, o)
  | act a next =>
    let (xs, o) := next.told found
    (.act a :: xs, o)
  | read path next =>
    let (xs, o) := (next (.error .cancelled)).told found
    (.read path (.error .cancelled) :: xs, o)
  | share name path next =>
    let (xs, o) := (next (.error .cancelled)).told found
    (.share name path (.error .cancelled) :: xs, o)

theorem course_told (r : Routine V α) (found : Text → Option V) :
    r.Course (r.told found).1 (r.told found).2 := by
  induction r with
  | finish r => exact ⟨rfl, rfl⟩
  | lookup name next ih => exact ⟨_, _, rfl, ih _⟩
  | act a next ih => exact ⟨_, rfl, ih⟩
  | read path next ih => exact ⟨_, _, rfl, ih _⟩
  | share name path next ih => exact ⟨_, _, rfl, ih _⟩

/-- A routine does and asks for certain things only, whatever it is answered. -/
def Does (ok : Exchange V → Prop) (r : Routine V α) : Prop :=
  ∀ xs o, r.Course xs o → ∀ x ∈ xs, ok x

section

variable {ok : Exchange V → Prop}

theorem Does.mono {ok' : Exchange V → Prop} {r : Routine V α} (does : r.Does ok)
    (weaker : ∀ x, ok x → ok' x) : r.Does ok' :=
  fun xs o course x mem => weaker x (does xs o course x mem)

theorem does_finish (r : Except Failure α) : (finish r : Routine V α).Does ok := by
  rintro _ _ ⟨rfl, rfl⟩ x mem
  cases mem

theorem Does.act {a : Act V} {r : Routine V α} (may : ok (.act a)) (does : r.Does ok) :
    (Routine.act a r).Does ok := by
  rintro _ o ⟨ys, rfl, course⟩ x mem
  obtain rfl | mem := List.mem_cons.mp mem
  · exact may
  · exact does ys o course x mem

theorem Does.lookup {name : Text} {next : Option V → Routine V α} (may : ∀ v, ok (.lookup name v))
    (does : ∀ v, (next v).Does ok) : (Routine.lookup name next).Does ok := by
  rintro _ o ⟨v, ys, rfl, course⟩ x mem
  obtain rfl | mem := List.mem_cons.mp mem
  · exact may v
  · exact does v ys o course x mem

theorem Does.read {path : Text} {next : Except Failure Bytes → Routine V α}
    (may : ∀ answer, ok (.read path answer)) (does : ∀ answer, (next answer).Does ok) :
    (Routine.read path next).Does ok := by
  rintro _ o ⟨answer, ys, rfl, course⟩ x mem
  obtain rfl | mem := List.mem_cons.mp mem
  · exact may answer
  · exact does answer ys o course x mem

theorem Does.share {name path : Text} {next : Except Failure V → Routine V α}
    (may : ∀ answer, ok (.share name path answer)) (does : ∀ answer, (next answer).Does ok) :
    (Routine.share name path next).Does ok := by
  rintro _ o ⟨answer, ys, rfl, course⟩ x mem
  obtain rfl | mem := List.mem_cons.mp mem
  · exact may answer
  · exact does answer ys o course x mem

theorem Does.onEnd {r : Routine V α} {f : Except Failure α → Routine V β} (does : r.Does ok)
    (next : ∀ o, (f o).Does ok) : (r.onEnd f).Does ok := by
  intro xs o course x mem
  obtain ⟨ys, zs, r', rfl, first, second⟩ := course.onEnd
  exact (List.mem_append.mp mem).elim (does ys r' first x) (next r' zs o second x)

theorem Does.bind {r : Routine V α} {f : α → Routine V β} (does : r.Does ok)
    (next : ∀ a, (f a).Does ok) : (r >>= f).Does ok := by
  refine does.onEnd fun o => ?_
  cases o with
  | ok a => exact next a
  | error e => exact does_finish _

theorem Does.handle {r : Routine V α} {f : Failure → Routine V α} (does : r.Does ok)
    (next : ∀ e, (f e).Does ok) : (r.handle f).Does ok := by
  refine does.onEnd fun o => ?_
  cases o with
  | ok a => exact does_finish _
  | error e => exact next e

end

end Routine

/-- What terms promise of an answer. -/
def Terms.Answers {V : Type} (t : Terms V) : Exchange V → Prop
  | .lookup name (some v) => t.found name v
  | .lookup _ none | .act _ => True
  | .read path answer => answer = .error .cancelled ∨ ∃ c, t.contents c ∧ answer = c path
  | .share name _ answer => answer = .error .cancelled ∨ t.shared name answer

/-- What terms allow at all times. -/
def Terms.Permits {V : Type} (t : Terms V) : Exchange V → Prop
  | .act a => ∀ c, t.allowed c a
  | .share name path _ => t.sharable name path
  | .lookup .. | .read .. => True

/-- The courses of a routine whose first exchange is answered are those of what goes on after it. -/
private theorem Routine.Does.ensures_next {V α : Type} {t : Terms V} {r next : Routine V α}
    {x : Exchange V} {c : Contents} (goes : ∀ xs o, next.Course xs o → r.Course (x :: xs) o)
    (answered : t.Answers x) (does : r.Does t.Permits)
    (ensures : next.Does t.Permits →
      next.Ensures t (fun _ o => ∃ xs, next.Course xs o ∧ ∀ x ∈ xs, t.Answers x) c) :
    next.Ensures t (fun _ o => ∃ xs, r.Course xs o ∧ ∀ x ∈ xs, t.Answers x) c := by
  refine (ensures fun xs o course y mem => ?_).mono fun _ o ⟨xs, course, rest⟩ => ?_
  · exact does _ o (goes xs o course) y (List.mem_cons_of_mem _ mem)
  · exact ⟨_, goes xs o course, List.forall_mem_cons.mpr ⟨answered, rest⟩⟩

/-- **A routine that does only what it may** keeps its terms, and it ends as a course ends in which it is
answered on these terms. -/
theorem Routine.Does.ensures {V α : Type} {t : Terms V} {r : Routine V α} (does : r.Does t.Permits)
    (c : Contents) :
    r.Ensures t (fun _ o => ∃ xs, r.Course xs o ∧ ∀ x ∈ xs, t.Answers x) c := by
  induction r generalizing c with
  | finish r => exact ⟨[], ⟨rfl, rfl⟩, by simp⟩
  | act a next ih =>
    have course := next.course_told fun _ => none
    exact ⟨does _ _ ⟨_, rfl, course⟩ _ List.mem_cons_self c,
      does.ensures_next (fun xs o course => ⟨xs, rfl, course⟩) trivial (ih · c)⟩
  | lookup name next ih =>
    have on (found : Option V) (is : t.Answers (.lookup name found)) :=
      does.ensures_next (r := .lookup name next) (fun xs _ course => ⟨found, xs, rfl, course⟩) is (ih found · c)
    exact ⟨on none trivial, fun v found => on (some v) found⟩
  | read path next ih =>
    have on (answer : Except Failure Bytes) (is : t.Answers (.read path answer)) (c : Contents) :=
      does.ensures_next (r := .read path next) (fun xs _ course => ⟨answer, xs, rfl, course⟩) is (ih answer · c)
    exact ⟨fun c met => on _ (.inr ⟨c, met, rfl⟩) c, fun _ c _ => on _ (.inl rfl) c⟩
  | share name path next ih =>
    have on (answer : Except Failure V) (is : t.Answers (.share name path answer)) (c : Contents) :=
      does.ensures_next (r := .share name path next) (fun xs _ course => ⟨answer, xs, rfl, course⟩) is
        (ih answer · c)
    have course := (next (.error .cancelled)).course_told fun _ => none
    exact ⟨does _ _ ⟨_, _, rfl, course⟩ _ List.mem_cons_self,
      fun c o _ shared => on o (.inr shared) c, fun _ c _ => on _ (.inl rfl) c⟩

end Stencil
