import Stencil.Proofs.Cache.Recency

/-!
# A larger cache is never worse

The same operations are performed on a small and on a large cache. What the small one holds the large
one holds too, in the same order and with the same values, so it finds at least as much and evicts at
most as much.

## Main definitions

- `Cache.Crowded` — a put of a key would evict an entry
- `Cache.Within` — the small cache stands inside of the large one

## Design notes

The two caches do not fill up together: a lookup may refresh a key in the large one only, and a removal
may shrink the large one only. `Within.slack` bounds what comes of it. The large cache has at least as
much room left as the small one, so it never has to evict where the small one has not.
-/

namespace Stencil

namespace Cache

variable {α : Type} {c small large : Cache α} {key : Text}

/-! ### What a put drops -/

/-- There is no room for a key that is not resident. -/
def Crowded (c : Cache α) (key : Text) : Prop :=
  key ∉ c.keys ∧ c.size = c.capacity

theorem keys_insert_of_crowded (value : α) (crowded : c.Crowded key) :
    (c.insert key value).keys = (c.keys ++ [key]).tail :=
  keys_of_full value crowded.1 crowded.2

theorem keys_insert_of_not_crowded (value : α) (distinct : c.keys.Nodup) (fits : c.size ≤ c.capacity)
    (room : ¬c.Crowded key) : (c.insert key value).keys = moved key c.keys :=
  keys_of_room value distinct fits (by simpa [Crowded, imp_iff_or_not, or_comm] using room)

/-- All that is appended beyond the bound is an eviction. -/
theorem evictions_insert (c : Cache α) (key : Text) (value : α) :
    (c.insert key value).evictions = c.evictions + ((moved key c.keys).length - c.capacity) := by
  have grown : (c.others key ++ [({ key := key, value := value } : Entry α)]).length =
      (moved key c.keys).length := by
    rw [moved, ← map_others, List.length_append, List.length_append, List.length_map]
    rfl
  rw [insert, grown]

theorem evictions_insert_of_crowded (value : α) (crowded : c.Crowded key) :
    (c.insert key value).evictions = c.evictions + 1 := by
  have length : (moved key c.keys).length = c.capacity + 1 := by
    rw [moved_of_notMem crowded.1, List.length_append, length_keys, crowded.2, List.length_singleton]
  rw [evictions_insert, length, Nat.add_sub_cancel_left]

theorem length_moved_le (distinct : c.keys.Nodup) (fits : c.size ≤ c.capacity)
    (room : ¬c.Crowded key) : (moved key c.keys).length ≤ c.capacity := by
  rw [length_moved distinct, length_keys]
  split
  · exact fits
  · next absent => exact Nat.lt_of_le_of_ne fits fun full => room ⟨absent, full⟩

theorem evictions_insert_of_not_crowded (value : α) (distinct : c.keys.Nodup)
    (fits : c.size ≤ c.capacity) (room : ¬c.Crowded key) :
    (c.insert key value).evictions = c.evictions := by
  rw [evictions_insert, Nat.sub_eq_zero_of_le (length_moved_le distinct fits room), Nat.add_zero]

theorem hits_lookup (c : Cache α) (key : Text) :
    (c.lookup key).2.hits = if key ∈ c.keys then c.hits + 1 else c.hits := by
  rw [lookup]
  cases found : c.find? key with
  | none => rw [if_neg (find?_eq_none_iff.mp found)]; rfl
  | some e =>
    obtain ⟨mem, rfl⟩ := find?_mem found
    rw [if_pos (mem_keys.mpr ⟨e, mem, rfl⟩)]

theorem misses_lookup (c : Cache α) (key : Text) :
    (c.lookup key).2.misses = if key ∈ c.keys then c.misses else c.misses + 1 := by
  rw [lookup]
  cases found : c.find? key with
  | none => rw [if_neg (find?_eq_none_iff.mp found)]; rfl
  | some e =>
    obtain ⟨mem, rfl⟩ := find?_mem found
    rw [if_pos (mem_keys.mpr ⟨e, mem, rfl⟩)]

theorem evictions_lookup (c : Cache α) (key : Text) :
    (c.lookup key).2.evictions = c.evictions := by
  rw [lookup]
  cases c.find? key <;> rfl

theorem size_lookup (distinct : c.keys.Nodup) : (c.lookup key).2.size = c.size := by
  rw [← length_keys, keys_lookup]
  split
  · next mem => rw [length_moved distinct, if_pos mem, length_keys]
  · rw [length_keys]

theorem size_invalidate (distinct : c.keys.Nodup) :
    (c.invalidate key).2.size = if key ∈ c.keys then c.size - 1 else c.size := by
  rw [← length_keys, keys_invalidate, ← distinct.erase_eq_filter]
  split
  · next mem => rw [List.length_erase_of_mem mem, length_keys]
  · next absent => rw [List.erase_of_not_mem absent, length_keys]

/-! ### One cache inside of another -/

/-- **A small cache inside of a large one**: by its keys, its room and its counts. -/
structure Within (small large : Cache α) : Prop where
  keys : small.keys.Sublist large.keys
  /-- The small cache has no more room left than the large one. -/
  slack : large.size + small.capacity ≤ small.size + large.capacity
  hits : small.hits ≤ large.hits
  misses : large.misses ≤ small.misses
  evictions : large.evictions ≤ small.evictions

theorem within_empty {m n : Nat} (le : m ≤ n) : Within (empty m : Cache α) (empty n) where
  keys := .refl _
  slack := by simpa [size, empty] using le
  hits := le_rfl
  misses := le_rfl
  evictions := le_rfl

theorem moved_sublist_moved {ks ls : List Text} (sub : ks.Sublist ls) :
    (moved key ks).Sublist (moved key ls) :=
  (sub.filter _).append_right [key]

/-- What is moved to the end of the large list need not be in the small one. -/
theorem sublist_moved_of_notMem {ks ls : List Text} (sub : ks.Sublist ls) (absent : key ∉ ks) :
    ks.Sublist (moved key ls) := by
  have same : ks.filter (· != key) = ks :=
    List.filter_eq_self.mpr fun k mem => by simpa using fun e : k = key => absent (e ▸ mem)
  exact same ▸ (sub.filter _).trans (List.sublist_append_left _ _)

namespace Within

variable {logs logl : List (Step α)}

theorem capacity_le (within : Within small large) : small.capacity ≤ large.capacity := by
  have fewer := within.keys.length_le
  have slack := within.slack
  simp only [length_keys] at fewer
  omega

/-- Where the large cache has no room for a key the small one has none either. -/
theorem crowded (within : Within small large) (fits : small.size ≤ small.capacity)
    (crowded : large.Crowded key) : small.Crowded key := by
  refine ⟨fun mem => crowded.1 (within.keys.subset mem), ?_⟩
  have slack := within.slack
  have full := crowded.2
  omega

theorem insert (within : Within small large) (recents : Recent logs small)
    (recentl : Recent logl large) (key : Text) (value : α) :
    Within (small.insert key value) (large.insert key value) := by
  have slack := within.slack
  have lengths : (moved key small.keys).length = _ := length_moved recents.distinct
  have lengthl : (moved key large.keys).length = _ := length_moved recentl.distinct
  rw [length_keys] at lengths lengthl
  by_cases crowdedl : large.Crowded key
  · -- both evict their first entry
    have crowdeds := within.crowded recents.fits crowdedl
    have keyss := keys_insert_of_crowded value crowdeds
    have keysl := keys_insert_of_crowded value crowdedl
    have sizes := congrArg List.length keyss
    have sizel := congrArg List.length keysl
    simp only [length_keys, List.length_tail, List.length_append, List.length_singleton] at sizes sizel
    refine ⟨?_, ?_, within.hits, within.misses, ?_⟩
    · rw [keyss, keysl]
      exact (within.keys.append_right [key]).tail
    · change _ + small.capacity ≤ _ + large.capacity
      omega
    · rw [evictions_insert_of_crowded value crowdeds, evictions_insert_of_crowded value crowdedl]
      exact Nat.succ_le_succ within.evictions
  have keysl := keys_insert_of_not_crowded value recentl.distinct recentl.fits crowdedl
  have sizel := congrArg List.length keysl
  rw [length_keys] at sizel
  have rooml := length_moved_le recentl.distinct recentl.fits crowdedl
  have evictionsl := evictions_insert_of_not_crowded value recentl.distinct recentl.fits crowdedl
  by_cases crowdeds : small.Crowded key
  · -- only the small one evicts, and it was full
    have keyss := keys_insert_of_crowded value crowdeds
    have sizes := congrArg List.length keyss
    simp only [length_keys, List.length_tail, List.length_append, List.length_singleton] at sizes
    refine ⟨?_, ?_, within.hits, within.misses, ?_⟩
    · rw [keyss, keysl, ← moved_of_notMem crowdeds.1]
      exact (List.tail_sublist _).trans (moved_sublist_moved within.keys)
    · change _ + small.capacity ≤ _ + large.capacity
      have full := crowdeds.2
      omega
    · rw [evictionsl, evictions_insert_of_crowded value crowdeds]
      exact Nat.le_succ_of_le within.evictions
  · have keyss := keys_insert_of_not_crowded value recents.distinct recents.fits crowdeds
    have sizes := congrArg List.length keyss
    rw [length_keys] at sizes
    refine ⟨?_, ?_, within.hits, within.misses, ?_⟩
    · rw [keyss, keysl]
      exact moved_sublist_moved within.keys
    · change _ + small.capacity ≤ _ + large.capacity
      rw [sizes, sizel, lengths, lengthl]
      by_cases mem : key ∈ small.keys
      · rw [if_pos mem, if_pos (within.keys.subset mem)]
        exact slack
      · rw [if_neg mem]
        split <;> omega
    · rw [evictionsl, evictions_insert_of_not_crowded value recents.distinct recents.fits crowdeds]
      exact within.evictions

theorem lookup (within : Within small large) (recents : Recent logs small)
    (recentl : Recent logl large) (key : Text) :
    Within (small.lookup key).2 (large.lookup key).2 := by
  have capacitys := capacity_perform small (.get key)
  have capacityl := capacity_perform large (.get key)
  have hits := within.hits
  have misses := within.misses
  refine ⟨?_, ?_, ?_, ?_, ?_⟩
  · rw [keys_lookup, keys_lookup]
    by_cases mem : key ∈ small.keys
    · rw [if_pos mem, if_pos (within.keys.subset mem)]
      exact moved_sublist_moved within.keys
    · rw [if_neg mem]
      split
      · exact sublist_moved_of_notMem within.keys mem
      · exact within.keys
  · rw [size_lookup recents.distinct, size_lookup recentl.distinct]
    exact capacitys ▸ capacityl ▸ within.slack
  · rw [hits_lookup, hits_lookup]
    by_cases mem : key ∈ small.keys
    · rw [if_pos mem, if_pos (within.keys.subset mem)]
      omega
    · rw [if_neg mem]
      split <;> omega
  · rw [misses_lookup, misses_lookup]
    by_cases mem : key ∈ small.keys
    · rw [if_pos mem, if_pos (within.keys.subset mem)]
      exact misses
    · rw [if_neg mem]
      split <;> omega
  · rw [evictions_lookup, evictions_lookup]
    exact within.evictions

theorem invalidate (within : Within small large) (recents : Recent logs small)
    (recentl : Recent logl large) (key : Text) :
    Within (small.invalidate key).2 (large.invalidate key).2 := by
  refine ⟨?_, ?_, within.hits, within.misses, within.evictions⟩
  · rw [keys_invalidate, keys_invalidate]
    exact within.keys.filter _
  · rw [size_invalidate recents.distinct, size_invalidate recentl.distinct]
    change _ + small.capacity ≤ _ + large.capacity
    have slack := within.slack
    by_cases mem : key ∈ small.keys
    · have fewer := within.keys.length_le
      have one := List.length_pos_of_mem mem
      simp only [length_keys] at fewer one
      rw [if_pos mem, if_pos (within.keys.subset mem)]
      omega
    · rw [if_neg mem]
      split <;> omega

theorem clear (within : Within small large) : Within small.clear large.clear where
  keys := .refl _
  slack := by simpa [size, Cache.clear] using within.capacity_le
  hits := within.hits
  misses := within.misses
  evictions := within.evictions

/-- **One operation** on both caches keeps the small one inside of the large one. -/
theorem perform (within : Within small large) (recents : Recent logs small)
    (recentl : Recent logl large) (op : Operation α) :
    Within (small.perform op).2 (large.perform op).2 := by
  cases op with
  | put key value => exact within.insert recents recentl key value
  | get key => exact within.lookup recents recentl key
  | invalidate key => exact within.invalidate recents recentl key
  | clear => exact within.clear
  | contains key => exact within
  | size => exact within
  | keys => exact within
  | stats => exact within

end Within

theorem within_after {m n : Nat} (le : m ≤ n) (ops : List (Operation α)) :
    Within ((empty m).after ops) ((empty n).after ops) := by
  induction ops using List.reverseRecOn with
  | nil => exact within_empty le
  | append_singleton ops op ih =>
    rw [after_concat, after_concat]
    exact ih.perform (recent_after m ops) (recent_after n ops) op

/-- What was put does not depend on the cache. -/
theorem lastPut_history (c d : Cache α) (ops : List (Operation α)) (key : Text) :
    lastPut (c.history ops) key = lastPut (d.history ops) key := by
  induction ops using List.reverseRecOn with
  | nil => rfl
  | append_singleton ops op ih =>
    have same : ((c.after ops).taken op).put? key = ((d.after ops).taken op).put? key := by
      cases op <;> rfl
    rw [history_concat, history_concat, lastPut_concat, lastPut_concat, same, ih]

/-- **A larger cache is never worse.** After the same operations on a cache of size `m` and on one of
size `n`, the keys of the smaller one are a subsequence of the keys of the larger one, what both hold
under a key is the same value, and a lookup that finds a value in the smaller one finds it in the
larger one. So the larger one has no fewer hits, no more misses and no more evictions. -/
theorem larger_never_worse {m n : Nat} (le : m ≤ n) (ops : List (Operation α)) :
    let small := (empty m).after ops
    let large := (empty n).after ops
    small.keys.Sublist large.keys ∧
    (∀ a ∈ small.entries, ∀ b ∈ large.entries, a.key = b.key → a.value = b.value) ∧
    (∀ key v, (small.lookup key).1 = some v → (large.lookup key).1 = some v) ∧
    small.hits ≤ large.hits ∧ large.misses ≤ small.misses ∧ large.evictions ≤ small.evictions := by
  have within := within_after (α := α) le ops
  have recents := recent_after (α := α) m ops
  have recentl := recent_after (α := α) n ops
  refine ⟨within.keys, fun a ina b inb same => ?_, fun key v found => ?_, within.hits, within.misses,
    within.evictions⟩
  · have puta : lastPut _ a.key = some a.value := recents.holds a ina
    have putb : lastPut _ b.key = some b.value := recentl.holds b inb
    rw [lastPut_history _ (empty n), same] at puta
    exact Option.some.inj (puta.symm.trans putb)
  · rw [recents.lookup] at found
    split at found
    · next mem =>
      rw [recentl.lookup, if_pos (within.keys.subset mem), lastPut_history _ (empty m)]
      exact found
    · cases found

/-- The larger cache still holds what the smaller one evicted. -/
theorem larger_never_worse_evicting :
    let ops : List (Operation Nat) := [.put "a" 1, .put "b" 2, .get "a", .put "c" 3]
    2 ≤ 3 ∧ ((empty 2).after ops).keys = ["a", "c"] ∧ ((empty 3).after ops).keys = ["b", "a", "c"] ∧
      ((empty 2).after ops).keys.Sublist ((empty 3).after ops).keys :=
  ⟨by decide, by decide, by decide, (larger_never_worse (by decide) _).1⟩

end Cache

end Stencil
