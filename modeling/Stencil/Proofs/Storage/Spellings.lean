import Mathlib.Logic.Relation
import Stencil.Proofs.Storage.Classification

/-!
# Spellings of a path

A path can be spelled in many ways. Two spellings are taken for one path if they start at the same place and
their parts come to the same once every name is dropped together with a `..` behind it, and every `..` at the
root. The lexical normal form is computed with a stack, in one pass over the parts. Here it is shown to be the
same for two paths exactly if they are spellings of one path.

## Main definitions

- `Path.Shortens` — a step by which the parts of a path become fewer
- `Path.SpelledAlike` — two spellings of one path

## Main results

- `Path.normalize_eq_iff` — the normal forms of two paths are equal exactly for spellings of one path
-/

namespace Stencil

namespace Path

/-- A step by which the parts of a path become fewer: a name goes with the `..` behind it, and a `..` at the
root goes alone. -/
inductive Shortens (rooted : Bool) : List Text → List Text → Prop
  | back (before : List Text) {name : Text} (after : List Text) (down : name ≠ parent) :
      Shortens rooted (before ++ name :: parent :: after) (before ++ after)
  | top (after : List Text) (atRoot : rooted = true) : Shortens rooted (parent :: after) after

/-- Two spellings of one path: both start with the same slashes, and their parts come to the same. -/
def SpelledAlike (p q : Text) : Prop :=
  root p = root q ∧ Relation.EqvGen (Shortens (!(root p).isEmpty)) (parts p) (parts q)

/-! ### The pass over the parts -/

section

variable {rooted : Bool}

theorem resolveParents_cons (seen : List Text) (part : Text) (rest : List Text) :
    resolveParents rooted seen (part :: rest) =
      if part = parent then
        match seen with
        | [] => resolveParents rooted (if rooted then [] else [parent]) rest
        | last :: before =>
          if last = parent then resolveParents rooted (part :: seen) rest
          else resolveParents rooted before rest
      else resolveParents rooted (part :: seen) rest := rfl

/-- A step does not change what the pass over the parts comes to. -/
theorem Shortens.resolveParents_eq {l l' : List Text} (shortens : Shortens rooted l l') :
    resolveParents rooted [] l = resolveParents rooted [] l' := by
  cases shortens with
  | top after atRoot =>
    rw [resolveParents_cons, if_pos rfl]
    dsimp only
    rw [if_pos atRoot]
  | @back before name after down =>
    -- whatever was seen before, the name is put on the stack and the `..` takes it off again
    generalize ([] : List Text) = seen
    induction before generalizing seen with
    | nil =>
      rw [List.nil_append, List.nil_append, resolveParents_cons, if_neg down, resolveParents_cons, if_pos rfl]
      dsimp only
      rw [if_neg down]
    | cons part before ih =>
      rw [List.cons_append, List.cons_append, resolveParents_cons, resolveParents_cons]
      by_cases up : part = parent
      · rw [if_pos up, if_pos up]
        cases seen with
        | nil => exact ih _
        | cons last seen =>
          dsimp only
          split <;> exact ih _
      · rw [if_neg up, if_neg up]
        exact ih _

/-- What the pass comes to can be reached by steps. `seen` stands before the parts that are still to come. -/
theorem eqvGen_resolveParents (seen l : List Text) :
    Relation.EqvGen (Shortens rooted) (seen.reverse ++ l) (resolveParents rooted seen l) := by
  induction l generalizing seen with
  | nil =>
    rw [resolveParents, List.append_nil]
    exact .refl _
  | cons part rest ih =>
    have pushed : seen.reverse ++ part :: rest = (part :: seen).reverse ++ rest := by simp
    rw [resolveParents_cons]
    by_cases up : part = parent
    · subst up
      rw [if_pos rfl]
      cases seen with
      | nil =>
        cases atRoot : rooted with
        | true =>
          subst atRoot
          exact .trans _ _ _ (.rel _ _ (.top rest rfl)) (ih [])
        | false =>
          subst atRoot
          exact ih [parent]
      | cons last before =>
        dsimp only
        by_cases above : last = parent
        · rw [if_pos above, pushed]
          exact ih _
        · rw [if_neg above]
          have back : Shortens rooted ((last :: before).reverse ++ parent :: rest) (before.reverse ++ rest) := by
            have step : Shortens rooted (before.reverse ++ last :: parent :: rest) (before.reverse ++ rest) :=
              .back before.reverse rest above
            simpa using step
          exact .trans _ _ _ (.rel _ _ back) (ih before)
    · rw [if_neg up, pushed]
      exact ih _

theorem resolveParents_eq_iff {l l' : List Text} :
    resolveParents rooted [] l = resolveParents rooted [] l' ↔ Relation.EqvGen (Shortens rooted) l l' := by
  constructor
  · intro same
    have left : Relation.EqvGen (Shortens rooted) l (resolveParents rooted [] l) := eqvGen_resolveParents [] l
    rw [same] at left
    exact .trans _ _ _ left (.symm _ _ (eqvGen_resolveParents [] l'))
  · intro equivalent
    induction equivalent with
    | rel _ _ shortens => exact shortens.resolveParents_eq
    | refl _ => rfl
    | symm _ _ _ ih => exact ih.symm
    | trans _ _ _ _ _ ih₁ ih₂ => exact ih₁.trans ih₂

end

/-! ### Normal forms -/

/-- A part as it can stand in a normal form. -/
structure Proper (part : Text) : Prop where
  nonempty : part ≠ []
  noDot : part ≠ [46]
  unslashed : slash ∉ part

theorem proper_parent : Proper parent := ⟨by decide, by decide, by decide⟩

theorem proper_of_mem_parts {p part : Text} (among : part ∈ parts p) : Proper part := by
  obtain ⟨split, kept⟩ := List.mem_filter.mp among
  rw [Bool.and_eq_true, Bool.not_eq_true', bne_iff_ne] at kept
  refine ⟨?_, kept.2, Text.not_mem_of_mem_splitOn split⟩
  rintro rfl
  cases kept.1

theorem proper_resolveParents {rooted : Bool} {seen l : List Text} (before : ∀ part ∈ seen, Proper part)
    (parts : ∀ part ∈ l, Proper part) : ∀ part ∈ resolveParents rooted seen l, Proper part := by
  induction l generalizing seen with
  | nil =>
    intro part mem
    rw [resolveParents] at mem
    exact before part (List.mem_reverse.mp mem)
  | cons first rest ih =>
    have rest_proper : ∀ part ∈ rest, Proper part := fun part mem => parts part (List.mem_cons_of_mem _ mem)
    have pushed : ∀ part ∈ first :: seen, Proper part := by
      intro part mem
      obtain rfl | mem := List.mem_cons.mp mem
      · exact parts part List.mem_cons_self
      · exact before part mem
    rw [resolveParents_cons]
    split
    · cases seen with
      | nil =>
        refine ih ?_ rest_proper
        intro part mem
        cases rooted with
        | true => cases mem
        | false => exact List.mem_singleton.mp mem ▸ proper_parent
      | cons last seen =>
        dsimp only
        split
        · exact ih pushed rest_proper
        · exact ih (fun part mem => before part (List.mem_cons_of_mem _ mem)) rest_proper
    · exact ih pushed rest_proper

/-- The parts of the normal form of a path. -/
def resolved (p : Text) : List Text :=
  resolveParents (!(root p).isEmpty) [] (parts p)

theorem proper_resolved (p : Text) : ∀ part ∈ resolved p, Proper part :=
  proper_resolveParents (fun _ mem => (by cases mem)) fun _ => proper_of_mem_parts

/-- Joined parts do not start with a slash. -/
theorem head?_join {l : List Text} (proper : ∀ part ∈ l, Proper part) :
    (Text.join [slash] l).head? ≠ some slash := by
  cases l with
  | nil => exact nofun
  | cons part l =>
    obtain ⟨nonempty, -, unslashed⟩ := proper part List.mem_cons_self
    cases part with
    | nil => exact absurd rfl nonempty
    | cons c part =>
      have head : (Text.join [slash] ((c :: part) :: l)).head? = some c := by
        cases l with
        | nil => rfl
        | cons => rw [Text.join, List.intercalate_cons_cons]; rfl
      rw [head]
      intro same
      obtain rfl := Option.some.inj same
      exact unslashed List.mem_cons_self

/-- Parts can be told from what they are joined to. -/
theorem join_inj {l l' : List Text} (proper : ∀ part ∈ l, Proper part) (proper' : ∀ part ∈ l', Proper part)
    (same : Text.join [slash] l = Text.join [slash] l') : l = l' := by
  have empty {l : List Text} (proper : ∀ part ∈ l, Proper part) (nothing : Text.join [slash] l = []) : l = [] := by
    cases l with
    | nil => rfl
    | cons part l =>
      have nonempty := (proper part List.mem_cons_self).nonempty
      obtain ⟨c, inside⟩ := List.exists_mem_of_ne_nil part nonempty
      have mem := Text.mem_join_of_mem [slash] (List.mem_cons_self (l := l)) inside
      rw [nothing] at mem
      cases mem
  by_cases none : l = []
  · subst none
    exact (empty proper' same.symm).symm
  by_cases none' : l' = []
  · subst none'
    exact empty proper same
  have back : List.splitOn slash ([slash].intercalate l) = l :=
    List.splitOn_intercalate slash (fun part mem => (proper part mem).unslashed) none
  have back' : List.splitOn slash ([slash].intercalate l') = l' :=
    List.splitOn_intercalate slash (fun part mem => (proper' part mem).unslashed) none'
  rw [← back, ← back']
  exact congrArg _ same

theorem join_ne_dot {l : List Text} (proper : ∀ part ∈ l, Proper part) : Text.join [slash] l ≠ [46] := by
  intro dot
  cases l with
  | nil => cases dot
  | cons part l =>
    have split : List.splitOn slash ([slash].intercalate (part :: l)) = part :: l :=
      List.splitOn_intercalate slash (fun part mem => (proper part mem).unslashed) (List.cons_ne_nil _ _)
    have joined : [slash].intercalate (part :: l) = [46] := dot
    rw [joined] at split
    have split' : List.splitOn slash [46] = [[46]] := by decide
    rw [split'] at split
    obtain ⟨rfl, -⟩ := List.cons.inj split
    exact (proper _ List.mem_cons_self).noDot rfl

/-- A path starts with no slash, with one or with two. -/
theorem root_cases (p : Text) : root p = [] ∨ root p = [slash] ∨ root p = [slash, slash] := by
  rw [root.eq_def]
  split
  · exact .inr (.inl rfl)
  · exact .inr (.inr rfl)
  · exact .inr (.inl rfl)
  · exact .inl rfl

/-- The slashes in front of parts are those that the path starts with. -/
theorem takeWhile_root (p : Text) {body : Text} (starts : body.head? ≠ some slash) :
    (root p ++ body).takeWhile (· == slash) = root p := by
  have none : body.takeWhile (· == slash) = [] := by
    cases body with
    | nil => rfl
    | cons c body =>
      have other : c ≠ slash := fun same => starts (congrArg some same)
      rw [List.takeWhile_cons_of_neg]
      simpa using other
  rw [List.takeWhile_append_of_pos, none, List.append_nil]
  intro c mem
  exact beq_iff_eq.mpr (root_slashes mem)

/-- What a path starts with can be told from its normal form, and so can its parts. -/
theorem normalize_eq_iff_resolved {p q : Text} :
    normalize p = normalize q ↔ root p = root q ∧ resolved p = resolved q := by
  have shape (p : Text) : (root p = [] ∧ resolved p = [] ∧ normalize p = [46]) ∨
      (¬(root p = [] ∧ resolved p = []) ∧ normalize p = root p ++ Text.join [slash] (resolved p)) := by
    have is : normalize p = if (root p ++ Text.join [slash] (resolved p)).isEmpty then [46] else
      root p ++ Text.join [slash] (resolved p) := rfl
    by_cases nothing : root p = [] ∧ resolved p = []
    · refine .inl ⟨nothing.1, nothing.2, ?_⟩
      rw [is, nothing.1, nothing.2]
      rfl
    · refine .inr ⟨nothing, ?_⟩
      rw [is, if_neg]
      intro empty
      rw [List.isEmpty_iff, List.append_eq_nil_iff] at empty
      exact nothing ⟨empty.1, join_inj (proper_resolved p) (fun _ mem => (by cases mem)) empty.2⟩
  -- a normal form that is no dot by itself is not a dot
  have noDot (p : Text) : root p ++ Text.join [slash] (resolved p) ≠ [46] := by
    obtain none | one | two := root_cases p
    · rw [none, List.nil_append]
      exact join_ne_dot (proper_resolved p)
    · rw [one]
      exact nofun
    · rw [two]
      exact nofun
  constructor
  · intro same
    obtain ⟨root_p, nothing, is⟩ | ⟨-, is⟩ := shape p <;> obtain ⟨root_q, nothing', is'⟩ | ⟨-, is'⟩ := shape q
    · exact ⟨root_p.trans root_q.symm, nothing.trans nothing'.symm⟩
    · exact absurd (is'.symm.trans (same.symm.trans is)) (noDot q)
    · exact absurd (is.symm.trans (same.trans is')) (noDot p)
    · rw [is, is'] at same
      have roots : root p = root q := by
        rw [← takeWhile_root p (head?_join (proper_resolved p)), same,
          takeWhile_root q (head?_join (proper_resolved q))]
      rw [roots, List.append_cancel_left_eq] at same
      exact ⟨roots, join_inj (proper_resolved p) (proper_resolved q) same⟩
  · rintro ⟨roots, parts⟩
    have unfolded (p : Text) : normalize p = if (root p ++ Text.join [slash] (resolved p)).isEmpty then [46] else
      root p ++ Text.join [slash] (resolved p) := rfl
    rw [unfolded, unfolded, roots, parts]

/-- **Two normal forms are equal** exactly for spellings of one path. -/
theorem normalize_eq_iff {p q : Text} : normalize p = normalize q ↔ SpelledAlike p q := by
  rw [normalize_eq_iff_resolved, SpelledAlike]
  refine and_congr_right fun roots => ?_
  rw [resolved, resolved, ← roots, resolveParents_eq_iff]

/-- Two slashes at the start stay two, and no `..` leads above the root. -/
example : normalize "//../a/./b//../c/" = "//a/c" := by decide +kernel

end Path

end Stencil
