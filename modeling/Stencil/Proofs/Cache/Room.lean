import Mathlib.Data.List.Perm.Subperm
import Stencil.Proofs.Cache.Recency

/-!
# Caches with room for all

A cache that has room for all the names it is ever used with drops nothing: a lookup leaves what is under each name as
it is, and what is put under a name stays there.

## Main definitions

- `Cache.value?` — what is under a name
- `Cache.Fits` — a cache has room for certain names, and holds no others

## Main results

- `Cache.value?_lookup`, `Cache.Fits.value?_insert`
-/

namespace Stencil

namespace Cache

variable {α : Type} {c : Cache α} {names : List Text}

/-- What is under a name. -/
def value? (c : Cache α) (key : Text) : Option α :=
  (c.find? key).map (·.value)

theorem lookup_fst (c : Cache α) (key : Text) : (c.lookup key).1 = c.value? key := by
  rw [lookup, value?]
  cases c.find? key <;> rfl

theorem value?_isSome {key : Text} : (c.value? key).isSome ↔ key ∈ c.keys := by
  rw [value?, Option.isSome_map, ← not_iff_not, ← find?_eq_none_iff, Bool.not_eq_true, Option.isSome_eq_false_iff,
    Option.isNone_iff_eq_none]

theorem value?_empty (capacity : Nat) (key : Text) : (empty capacity : Cache α).value? key = none := rfl

/-- The entries under the other names, and one under this name. -/
theorem find?_concat (c : Cache α) {key : Text} {e : Entry α} (is : e.key = key) (other : Text) :
    (c.others key ++ [e]).find? (·.key == other) = if other = key then some e else c.find? other := by
  rw [others, find?]
  induction c.entries with
  | nil =>
    split
    · next same => exact List.find?_cons_of_pos (by simp [is, same])
    · next differ => exact List.find?_cons_of_neg (by simpa [is] using Ne.symm differ)
  | cons a rest ih =>
    by_cases here : a.key = key
    · rw [List.filter_cons_of_neg (by simpa using here), ih]
      split
      · rfl
      · next differ => rw [List.find?_cons_of_neg (by simpa [here] using Ne.symm differ)]
    · rw [List.filter_cons_of_pos (by simpa using here), List.cons_append]
      by_cases found : a.key = other
      · rw [List.find?_cons_of_pos (by simpa using found), List.find?_cons_of_pos (by simpa using found), if_neg]
        exact found ▸ here
      · rw [List.find?_cons_of_neg (by simpa using found), List.find?_cons_of_neg (by simpa using found), ih]

/-- A lookup changes the order only. -/
theorem value?_lookup (c : Cache α) (key other : Text) : (c.lookup key).2.value? other = c.value? other := by
  rw [lookup]
  cases found : c.find? key with
  | none => rfl
  | some e =>
    obtain ⟨_, is⟩ := find?_mem found
    have both := c.find?_concat (e := { e with uses := e.uses + 1 }) is other
    rw [value?, value?]
    change ((c.others key ++ _).find? _).map _ = _
    rw [both]
    split
    · next same =>
      rw [same, found]
      rfl
    · rfl

/-- A cache has room for these names, and holds no others. -/
structure Fits (names : List Text) (c : Cache α) : Prop where
  room : names.length ≤ c.capacity
  distinct : c.keys.Nodup
  among : c.keys ⊆ names

theorem fits_empty {capacity : Nat} (room : names.length ≤ capacity) : (empty capacity : Cache α).Fits names where
  room := room
  distinct := List.nodup_nil
  among := List.nil_subset _

namespace Fits

variable (fits : c.Fits names)

include fits

theorem miss : c.miss.Fits names :=
  ⟨fits.room, fits.distinct, fits.among⟩

theorem lookup (key : Text) : (c.lookup key).2.Fits names where
  room := by
    have same := capacity_perform c (.get key)
    exact same ▸ fits.room
  distinct := by
    rw [keys_lookup]
    split
    · exact nodup_moved fits.distinct
    · exact fits.distinct
  among := by
    intro k mem
    exact fits.among (mem_lookup.mp mem)

/-- Nothing is dropped when one of the names is put. -/
theorem entries_insert {key : Text} (listed : key ∈ names) (value : α) :
    (c.insert key value).entries = c.others key ++ [{ key := key, value := value }] := by
  have size : (c.others key ++ [({ key := key, value := value } : Entry α)]).length ≤ c.capacity := by
    have keys : (c.others key ++ [({ key := key, value := value } : Entry α)]).map (·.key) = moved key c.keys := by
      rw [List.map_append, map_others]
      rfl
    rw [← List.length_map (·.key), keys]
    refine le_trans ?_ fits.room
    refine (List.subperm_of_subset (nodup_moved fits.distinct) fun k mem => ?_).length_le
    obtain old | rfl := mem_moved.mp mem
    · exact fits.among old
    · exact listed
  rw [insert]
  dsimp only
  rw [Nat.sub_eq_zero_of_le size, List.drop_zero]

theorem insert {key : Text} (listed : key ∈ names) (value : α) : (c.insert key value).Fits names where
  room := fits.room
  distinct := by
    rw [keys, fits.entries_insert listed, List.map_append, map_others]
    exact nodup_moved fits.distinct
  among := by
    intro k mem
    rw [keys, fits.entries_insert listed, List.map_append, map_others] at mem
    obtain old | rfl := mem_moved.mp mem
    · exact fits.among old
    · exact listed

/-- What is put under one of the names is there, and all else stays. -/
theorem value?_insert {key : Text} (listed : key ∈ names) (value : α) (other : Text) :
    (c.insert key value).value? other = if other = key then some value else c.value? other := by
  have both := c.find?_concat (e := { key := key, value := value }) rfl other
  rw [value?, find?, fits.entries_insert listed, both]
  split <;> rfl

end Fits

end Cache

end Stencil
