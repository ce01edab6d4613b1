import Stencil.Proofs.Json.Reading

/-!
# What a text takes to be read

The fuel of the reader only has to be enough: with more of it the result is the same. Room runs out only
in a text that opens more objects and arrays than there is room for.

## Main definitions

- `Json.Settled` — more fuel does not change what is read
- `Json.openings` — how many objects and arrays a text opens, strings included
- `Json.Roomy` — room does not run out if there is enough of it

## Main results

- `Json.value_fuel` — what is read does not depend on the fuel
- `Json.lt_openings_of_read` — a document that is too deep opens more than there is room for
-/

namespace Stencil

namespace Json

variable {limit : Option Nat} {room fuel : Nat} {t rest : Text} {j : Json}

/-! ### What is left to read -/

theorem suffix_skip (t : Text) : skip t <:+ t :=
  List.dropWhile_suffix _

theorem suffix_of_value (reads : value limit room fuel t = .ok (j, rest)) : rest <:+ t := by
  obtain ⟨s, -, rfl, -⟩ := (sound limit fuel).value reads
  exact List.suffix_append s rest

theorem suffix_of_memberName {name : Text} (reads : memberName t = .ok (name, rest)) :
    ∃ c more, t = c :: more ∧ rest <:+ more := by
  obtain ⟨s, before, after, -, -, -, rfl⟩ := memberName_sound reads
  refine ⟨34, _, rfl, ?_⟩
  exact ⟨s ++ 34 :: (before ++ 58 :: after), by simp⟩

/-- What a mark separates from a part is behind it. -/
theorem suffix_behind {after behind : Text} {c : CodePoint} (found : skip after = c :: behind) :
    skip behind <:+ after :=
  (suffix_skip behind).trans ((List.suffix_cons c behind).trans (found ▸ suffix_skip after))

/-! ### Fuel -/

/-- More fuel does not change what is read. Lists of parts take one more than values. -/
structure Settled (limit : Option Nat) (fuel : Nat) : Prop where
  value : ∀ room t more, 2 * t.length < fuel → 2 * t.length < more →
    value limit room fuel t = value limit room more t
  members : ∀ room acc t more, 2 * t.length + 1 < fuel → 2 * t.length + 1 < more →
    members limit room fuel acc t = members limit room more acc t
  items : ∀ room acc t more, 2 * t.length + 1 < fuel → 2 * t.length + 1 < more →
    items limit room fuel acc t = items limit room more acc t

namespace Settled

variable (settled : Settled limit fuel) {more : Nat}
include settled

theorem next_value (enough : 2 * t.length < fuel + 1) (enough' : 2 * t.length < more + 1) :
    Json.value limit room (fuel + 1) t = Json.value limit room (more + 1) t := by
  obtain ⟨body, rfl⟩ | ⟨body, rfl⟩ | ⟨body, rfl⟩ | other := start_cases t
  · rw [value_string, value_string]
  · have shorter := (suffix_skip body).length_le
    rw [List.length_cons] at enough enough'
    cases room with
    | zero => rw [value_object_deep, value_object_deep]
    | succ room =>
      rw [value_object, value_object, insideObject, insideObject]
      split
      · rfl
      · exact settled.members room [] _ more (by omega) (by omega)
  · have shorter := (suffix_skip body).length_le
    rw [List.length_cons] at enough enough'
    cases room with
    | zero => rw [value_array_deep, value_array_deep]
    | succ room =>
      rw [value_array, value_array, insideArray, insideArray]
      split
      · rfl
      · exact settled.items room [] _ more (by omega) (by omega)
  · rw [value_scalar _ _ _ other, value_scalar _ _ _ other]

theorem next_members {acc : List (Text × Json)} (enough : 2 * t.length + 1 < fuel + 1)
    (enough' : 2 * t.length + 1 < more + 1) :
    Json.members limit room (fuel + 1) acc t = Json.members limit room (more + 1) acc t := by
  rw [members_succ, members_succ]
  cases named : memberName t with
  | error fault => rfl
  | ok found =>
  obtain ⟨c, body, rfl, within⟩ := suffix_of_memberName named
  have shorter := within.length_le
  rw [List.length_cons] at enough enough'
  change (Json.value limit room fuel found.2 >>= _) = (Json.value limit room more found.2 >>= _)
  rw [← settled.value room found.2 more (by omega) (by omega)]
  cases valued : Json.value limit room fuel found.2 with
  | error fault => rfl
  | ok read =>
  have shorter' := (suffix_of_value valued).length_le
  change membersAfter limit room fuel _ read.2 = membersAfter limit room more _ read.2
  rw [membersAfter, membersAfter]
  split
  · rfl
  · next behind found =>
    have last := (suffix_skip read.2).length_le
    have skipped := (suffix_skip behind).length_le
    rw [found, List.length_cons] at last
    exact settled.members room _ _ more (by omega) (by omega)
  · rfl

theorem next_items {acc : List Json} (enough : 2 * t.length + 1 < fuel + 1)
    (enough' : 2 * t.length + 1 < more + 1) :
    Json.items limit room (fuel + 1) acc t = Json.items limit room (more + 1) acc t := by
  rw [items_succ, items_succ, ← settled.value room t more (by omega) (by omega)]
  cases valued : Json.value limit room fuel t with
  | error fault => rfl
  | ok read =>
  have shorter := (suffix_of_value valued).length_le
  change itemsAfter limit room fuel _ read.2 = itemsAfter limit room more _ read.2
  rw [itemsAfter, itemsAfter]
  split
  · rfl
  · next behind found =>
    have last := (suffix_skip read.2).length_le
    have skipped := (suffix_skip behind).length_le
    rw [found, List.length_cons] at last
    exact settled.items room _ _ more (by omega) (by omega)
  · rfl

end Settled

theorem settled (limit : Option Nat) (fuel : Nat) : Settled limit fuel := by
  induction fuel with
  | zero =>
    constructor
    · intro room t more enough
      omega
    · intro room acc t more enough
      omega
    · intro room acc t more enough
      omega
  | succ fuel ih =>
    constructor
    · intro room t more enough enough'
      obtain ⟨more, rfl⟩ : ∃ n, more = n + 1 := ⟨more - 1, by omega⟩
      exact ih.next_value enough enough'
    · intro room acc t more enough enough'
      obtain ⟨more, rfl⟩ : ∃ n, more = n + 1 := ⟨more - 1, by omega⟩
      exact ih.next_members enough enough'
    · intro room acc t more enough enough'
      obtain ⟨more, rfl⟩ : ∃ n, more = n + 1 := ⟨more - 1, by omega⟩
      exact ih.next_items enough enough'

/-- **What is read does not depend on the fuel**, as long as there is enough of it. -/
theorem value_fuel {more : Nat} (enough : Enough fuel t) (enough' : Enough more t) :
    value limit room fuel t = value limit room more t :=
  (settled limit fuel).value room t more enough enough'

/-! ### Room -/

def isOpening (c : CodePoint) : Bool :=
  c == 123 || c == 91

/-- How many objects and arrays a text opens, if none of its brackets stands in a string. -/
def openings (t : Text) : Nat :=
  t.countP isOpening

theorem openings_of_suffix (within : rest <:+ t) : openings rest ≤ openings t :=
  within.sublist.countP_le

/-- Room does not run out in a text that does not open more than there is room for. -/
structure Roomy (limit : Option Nat) (fuel : Nat) : Prop where
  value : ∀ {room t container}, value limit room fuel t = .error (.tooDeep container) → room < openings t
  members : ∀ {room acc t container}, members limit room fuel acc t = .error (.tooDeep container) →
    room < openings t
  items : ∀ {room acc t container}, items limit room fuel acc t = .error (.tooDeep container) →
    room < openings t

namespace Roomy

variable (roomy : Roomy limit fuel) {container : String}
include roomy

theorem next_value (fails : Json.value limit room (fuel + 1) t = .error (.tooDeep container)) :
    room < openings t := by
  obtain ⟨body, rfl⟩ | ⟨body, rfl⟩ | ⟨body, rfl⟩ | other := start_cases t
  · rw [value_string] at fails
    cases read : stringBody (34 :: body) false [] body with
    | ok found =>
      rw [read] at fails
      cases fails
    | error fault =>
      rw [read] at fails
      obtain ⟨what, rest, rfl⟩ := stringBody_error read
      cases fails
  · have opens : openings (123 :: body) = openings body + 1 := List.countP_cons_of_pos rfl
    rw [opens]
    cases room with
    | zero => exact Nat.succ_pos _
    | succ room =>
      rw [value_object, insideObject] at fails
      split at fails
      · cases fails
      · have deep := roomy.members fails
        have within := openings_of_suffix (suffix_skip body)
        omega
  · have opens : openings (91 :: body) = openings body + 1 := List.countP_cons_of_pos rfl
    rw [opens]
    cases room with
    | zero => exact Nat.succ_pos _
    | succ room =>
      rw [value_array, insideArray] at fails
      split at fails
      · cases fails
      · have deep := roomy.items fails
        have within := openings_of_suffix (suffix_skip body)
        omega
  · rw [value_scalar _ _ _ other] at fails
    exact absurd rfl (scalar_error fails container)

theorem next_members {acc : List (Text × Json)}
    (fails : Json.members limit room (fuel + 1) acc t = .error (.tooDeep container)) :
    room < openings t := by
  rw [members_succ] at fails
  obtain fails | ⟨⟨name, behind⟩, named, further⟩ := error_of_bind fails
  · obtain ⟨what, rest, is⟩ := memberName_error fails
    cases is
  obtain ⟨c, body, rfl, within⟩ := suffix_of_memberName named
  have inside := openings_of_suffix (within.trans (List.suffix_cons c body))
  obtain deep | ⟨⟨v, after⟩, valued, separated⟩ := error_of_bind further
  · exact Nat.lt_of_lt_of_le (roomy.value deep) inside
  have remaining : openings after ≤ openings behind := openings_of_suffix (suffix_of_value valued)
  rw [membersAfter] at separated
  split at separated
  · cases separated
  · next more found =>
    have deep := roomy.members separated
    have least : openings (skip more) ≤ openings after := openings_of_suffix (suffix_behind found)
    omega
  · cases separated

theorem next_items {acc : List Json}
    (fails : Json.items limit room (fuel + 1) acc t = .error (.tooDeep container)) :
    room < openings t := by
  rw [items_succ] at fails
  obtain deep | ⟨⟨v, after⟩, valued, separated⟩ := error_of_bind fails
  · exact roomy.value deep
  have remaining := openings_of_suffix (suffix_of_value valued)
  rw [itemsAfter] at separated
  split at separated
  · cases separated
  · next more found =>
    have deep := roomy.items separated
    have least : openings (skip more) ≤ openings after := openings_of_suffix (suffix_behind found)
    omega
  · cases separated

end Roomy

theorem roomy (limit : Option Nat) (fuel : Nat) : Roomy limit fuel := by
  induction fuel with
  | zero =>
    constructor
    · intro room t container fails
      rw [value] at fails
      cases fails
    · intro room acc t container fails
      rw [members] at fails
      cases fails
    · intro room acc t container fails
      rw [items] at fails
      cases fails
  | succ fuel ih => exact ⟨ih.next_value, ih.next_members, ih.next_items⟩

/-- **A document that is too deep** opens more objects and arrays than there is room for. -/
theorem lt_openings_of_read {limits : Limits} {container : String}
    (fails : read (some limits) t = .error (.tooDeep container)) : limits.nesting < openings t := by
  rw [read] at fails
  split at fails
  · cases fails
  obtain fails | ⟨⟨v, after⟩, -, fails⟩ := error_of_bind fails
  · exact Nat.lt_of_lt_of_le ((roomy _ _).value fails) (openings_of_suffix (suffix_skip t))
  · dsimp only at fails
    split at fails
    · cases fails
    · cases fails

end Json

end Stencil
