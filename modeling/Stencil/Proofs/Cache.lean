import Stencil.Cache

/-!
# What a cache holds

A property of keys and values holds of all entries of a cache as long as it holds of all that is put
into it: lookups, evictions and removals bring no new values.

## Main definitions

- `Cache.Holds` — all entries have a property
-/

namespace Stencil

namespace Cache

variable {α : Type} {P Q : Text → α → Prop} {c : Cache α}

/-- A property of all entries. -/
def Holds (P : Text → α → Prop) (c : Cache α) : Prop :=
  ∀ e ∈ c.entries, P e.key e.value

theorem holds_empty (capacity : Nat) : (empty capacity : Cache α).Holds P := nofun

theorem Holds.mono (holds : c.Holds P) (weaker : ∀ k v, P k v → Q k v) : c.Holds Q :=
  fun e mem => weaker e.key e.value (holds e mem)

theorem find?_mem {key : Text} {e : Entry α} (found : c.find? key = some e) :
    e ∈ c.entries ∧ e.key = key := by
  refine ⟨List.mem_of_find?_eq_some found, ?_⟩
  simpa using List.find?_some found

theorem others_subset (c : Cache α) (key : Text) : c.others key ⊆ c.entries :=
  List.filter_sublist.subset

theorem Holds.miss (holds : c.Holds P) : c.miss.Holds P := holds

theorem Holds.lookup (holds : c.Holds P) (key : Text) : (c.lookup key).2.Holds P := by
  rw [Cache.lookup]
  cases found : c.find? key with
  | none => exact holds
  | some entry =>
    intro e mem
    obtain old | new := List.mem_append.mp mem
    · exact holds e (c.others_subset key old)
    · obtain rfl := List.mem_singleton.mp new
      exact holds entry (find?_mem found).1

/-- What a lookup finds is the value of an entry under the key. -/
theorem Holds.found (holds : c.Holds P) {key : Text} {v : α} (found : (c.lookup key).1 = some v) :
    P key v := by
  rw [Cache.lookup] at found
  cases entry : c.find? key with
  | none => rw [entry] at found; cases found
  | some e =>
    rw [entry] at found
    obtain rfl := Option.some.inj found
    obtain ⟨mem, rfl⟩ := find?_mem entry
    exact holds e mem

/-- What is replaced need not be as it should. -/
theorem Holds.replace {key : Text} {v : α} (holds : c.Holds fun k v => k ≠ key → P k v)
    (new : P key v) : (c.insert key v).Holds P := by
  intro e mem
  obtain old | fresh := List.mem_append.mp (List.mem_of_mem_drop mem)
  · obtain ⟨mem, other⟩ := List.mem_filter.mp old
    exact holds e mem (by simpa using other)
  · obtain rfl := List.mem_singleton.mp fresh
    exact new

theorem Holds.insert (holds : c.Holds P) {key : Text} {v : α} (new : P key v) :
    (c.insert key v).Holds P :=
  Holds.replace (holds.mono fun _ _ valid _ => valid) new

/-- What is removed need not be as it should. -/
theorem Holds.invalidate {key : Text} (holds : c.Holds fun k v => k ≠ key → P k v) :
    (c.invalidate key).2.Holds P := by
  intro e mem
  obtain ⟨mem, other⟩ := List.mem_filter.mp mem
  exact holds e mem (by simpa using other)

theorem holds_clear (c : Cache α) : c.clear.Holds P := nofun

end Cache

end Stencil
