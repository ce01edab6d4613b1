import Mathlib.Data.List.Dedup
import Mathlib.Data.List.DropRight
import Stencil.Proofs.Cache

/-!
# The cache keeps what was touched last

A cache is compared with the history of all that was done to it. Its keys stand in the order of their
last touch, a lookup finds what was last put, and without removals the keys are the latest of all that
were ever touched.

## Main definitions

- `Cache.Operation`, `Cache.perform` — what can be done to a cache, and what comes of it
- `Cache.after`, `Cache.history` — a cache after a run of operations, and the operations with their
  answers
- `Cache.lastTouch`, `Cache.lastPut` — what a history says about a key
- `Cache.Recent` — a cache as its history says it should be
- `Cache.Turnover` — how the next operation makes keys resident and drops them

## Design notes

All operations change the keys in one of three ways: a touch moves a key to the end and drops what
exceeds the bound, a removal leaves some keys out, and the rest change nothing. `keys_perform` says so,
and what follows never opens an operation again.
-/

namespace Stencil

namespace Cache

variable {α : Type} {c : Cache α}

/-! ### Operations and histories -/

inductive Operation (α : Type) where
  | put (key : Text) (value : α)
  | get (key : Text)
  | invalidate (key : Text)
  | clear
  | contains (key : Text)
  | size
  | keys
  | stats

/-- What an operation answers. -/
inductive Answer (α : Type) where
  | done
  | found (value : Option α)
  | flag (b : Bool)
  | number (n : Nat)
  | listing (keys : List Text)
  | figures (s : Stats)

/-- Operations that take keys away whatever the bound is. -/
def Operation.removes : Operation α → Bool
  | invalidate _ | clear => true
  | _ => false

/-- Operations that only ask. -/
def Operation.asks : Operation α → Bool
  | contains _ | size | keys | stats => true
  | _ => false

def perform (c : Cache α) : Operation α → Answer α × Cache α
  | .put key value => (.done, c.insert key value)
  | .get key => (.found (c.lookup key).1, (c.lookup key).2)
  | .invalidate key => (.flag (c.invalidate key).1, (c.invalidate key).2)
  | .clear => (.done, c.clear)
  | .contains key => (.flag (c.contains key), c)
  | .size => (.number c.size, c)
  | .keys => (.listing c.keys, c)
  | .stats => (.figures c.stats, c)

/-- An operation that was performed, with its answer. -/
structure Step (α : Type) where
  operation : Operation α
  answer : Answer α

/-- The key that a step touches: one that is put, or one that a lookup finds. -/
def Step.touched? : Step α → Option Text
  | ⟨.put key _, _⟩ => some key
  | ⟨.get key, .found (some _)⟩ => some key
  | _ => none

/-- What a step puts under a key. -/
def Step.put? (key : Text) : Step α → Option α
  | ⟨.put k v, _⟩ => if k = key then some v else none
  | _ => none

/-- The step that an operation is. -/
def taken (c : Cache α) (op : Operation α) : Step α :=
  ⟨op, (c.perform op).1⟩

/-- A cache after a run of operations. -/
def after (c : Cache α) (ops : List (Operation α)) : Cache α :=
  ops.foldl (fun c op => (c.perform op).2) c

/-- The steps of a run. -/
def history (c : Cache α) : List (Operation α) → List (Step α)
  | [] => []
  | op :: rest => c.taken op :: (c.perform op).2.history rest

/-- When a key was last touched, as a position in the history. -/
def lastTouch (log : List (Step α)) (key : Text) : Option Nat :=
  log.zipIdx.foldl (fun last (step, i) => if step.touched? = some key then some i else last) none

/-- What was last put under a key. -/
def lastPut (log : List (Step α)) (key : Text) : Option α :=
  log.foldl (fun last step => (step.put? key).or last) none

/-- All touches of a history, in their order. -/
def touches (log : List (Step α)) : List Text :=
  log.filterMap Step.touched?

theorem after_concat (c : Cache α) (ops : List (Operation α)) (op : Operation α) :
    c.after (ops ++ [op]) = ((c.after ops).perform op).2 := by
  simp [after]

theorem history_concat (c : Cache α) (ops : List (Operation α)) (op : Operation α) :
    c.history (ops ++ [op]) = c.history ops ++ [(c.after ops).taken op] := by
  induction ops generalizing c with
  | nil => rfl
  | cons o rest ih => exact congrArg (c.taken o :: ·) (ih (c.perform o).2)

section Log

variable (log : List (Step α)) (step : Step α) (key : Text)

theorem lastTouch_concat : lastTouch (log ++ [step]) key =
    if step.touched? = some key then some log.length else lastTouch log key := by
  simp [lastTouch, List.zipIdx_append]

theorem lastPut_concat :
    lastPut (log ++ [step]) key = (step.put? key).or (lastPut log key) := by
  simp [lastPut]

/-- A key was last touched before now, or never. -/
theorem lastTouch_lt : lastTouch log key < some log.length := by
  induction log using List.reverseRecOn with
  | nil => trivial
  | append_singleton log step ih =>
    rw [lastTouch_concat, List.length_append, List.length_singleton]
    split
    · exact Option.some_lt_some.mpr (Nat.lt_succ_self _)
    · cases last : lastTouch log key with
      | none => trivial
      | some i =>
        rw [last] at ih
        exact Option.some_lt_some.mpr (Nat.lt_succ_of_lt (Option.some_lt_some.mp ih))

theorem touches_concat : touches (log ++ [step]) = touches log ++ step.touched?.toList := by
  cases e : step.touched? <;> simp [touches, e]

end Log

/-! ### Keys in the order of their use -/

/-- A list of keys with one of them at the end. -/
def moved (key : Text) (ks : List Text) : List Text :=
  ks.filter (· != key) ++ [key]

section Moved

variable {key : Text} {ks : List Text}

theorem moved_of_notMem (absent : key ∉ ks) : moved key ks = ks ++ [key] := by
  rw [moved, List.filter_eq_self.mpr fun k mem => ?_]
  simpa using fun e : k = key => absent (e ▸ mem)

theorem mem_moved {k : Text} : k ∈ moved key ks ↔ k ∈ ks ∨ k = key := by
  by_cases e : k = key <;> simp [moved, e]

theorem nodup_moved (distinct : ks.Nodup) : (moved key ks).Nodup := by
  refine List.Nodup.append (distinct.filter _) (List.nodup_singleton key) ?_
  simp [List.disjoint_singleton]

theorem length_moved (distinct : ks.Nodup) :
    (moved key ks).length = if key ∈ ks then ks.length else ks.length + 1 := by
  split
  · next mem =>
    have pos := List.length_pos_of_mem mem
    rw [moved, ← distinct.erase_eq_filter, List.length_append, List.length_erase_of_mem mem,
      List.length_singleton]
    omega
  · next absent => rw [moved_of_notMem absent, List.length_append, List.length_singleton]

/-- Among the keys without repetitions, a new touch brings its key to the end. -/
theorem dedup_concat (touched : List Text) : (touched ++ [key]).dedup = moved key touched.dedup := by
  induction touched with
  | nil => rfl
  | cons t rest ih =>
    rw [List.cons_append]
    by_cases same : t = key
    · subst same
      rw [List.dedup_cons_of_mem (by simp), ih]
      by_cases mem : t ∈ rest
      · rw [List.dedup_cons_of_mem mem]
      · rw [List.dedup_cons_of_notMem mem]
        simp [moved]
    · by_cases mem : t ∈ rest
      · rw [List.dedup_cons_of_mem (by simp [mem]), List.dedup_cons_of_mem mem, ih]
      · rw [List.dedup_cons_of_notMem (by simp [mem, same]), List.dedup_cons_of_notMem mem, ih]
        simp [moved, same]

/-- The bound may be applied before a key is moved to the end: what it drops then would be dropped
anyway. -/
theorem rtake_moved_rtake (N : Nat) (distinct : ks.Nodup) :
    (moved key (ks.rtake N)).rtake N = (moved key ks).rtake N := by
  by_cases fits : ks.length ≤ N
  · have all : ks.rtake N = ks := by rw [List.rtake, Nat.sub_eq_zero_of_le fits, List.drop_zero]
    rw [all]
  have parted : ks = ks.take (ks.length - N) ++ ks.rtake N := (List.take_append_drop _ ks).symm
  have full : (ks.rtake N).length = N := by
    rw [List.rtake, List.length_drop]
    omega
  have nodup : (ks.rtake N).Nodup := distinct.sublist (List.drop_sublist _ ks)
  have room : N ≤ (moved key (ks.rtake N)).length := by
    rw [length_moved nodup, full]
    split <;> omega
  have longer : moved key ks =
      (ks.take (ks.length - N)).filter (· != key) ++ moved key (ks.rtake N) := by
    conv_lhs => rw [moved, parted, List.filter_append, List.append_assoc]
    rfl
  rw [longer]
  generalize (ks.take (ks.length - N)).filter (· != key) = dropped
  generalize moved key (ks.rtake N) = kept at room
  have excess : dropped.length ≤ (dropped ++ kept).length - N := by
    rw [List.length_append]
    omega
  rw [List.rtake, List.rtake, List.drop_append, List.drop_eq_nil_of_le excess, List.nil_append,
    List.length_append]
  congr 1
  omega

end Moved

theorem mem_keys {key : Text} : key ∈ c.keys ↔ ∃ e ∈ c.entries, e.key = key :=
  List.mem_map

@[simp] theorem length_keys (c : Cache α) : c.keys.length = c.size :=
  List.length_map _

theorem find?_eq_none_iff {key : Text} : c.find? key = none ↔ key ∉ c.keys := by
  simp [find?, mem_keys]

@[simp] theorem contains_eq {key : Text} : c.contains key = decide (key ∈ c.keys) := by
  rw [contains]
  cases found : c.find? key with
  | none => simpa using find?_eq_none_iff.mp found
  | some e =>
    have mem : key ∈ c.keys := mem_keys.mpr ⟨e, find?_mem found⟩
    simpa using mem

theorem map_others (c : Cache α) (key : Text) :
    (c.others key).map (·.key) = c.keys.filter (· != key) := by
  rw [others, keys, List.filter_map]
  rfl

theorem others_of_notMem {key : Text} (absent : key ∉ c.keys) : c.others key = c.entries := by
  refine List.filter_eq_self.mpr fun e mem => ?_
  simpa using fun same => absent (mem_keys.mpr ⟨e, mem, same⟩)

theorem keys_insert (c : Cache α) (key : Text) (value : α) :
    (c.insert key value).keys = (moved key c.keys).rtake c.capacity := by
  have grown : ((c.others key ++ [({ key := key, value := value } : Entry α)]).map (·.key)) =
      moved key c.keys := by
    rw [List.map_append, map_others]
    rfl
  have size := congrArg List.length grown
  rw [List.length_map] at size
  rw [insert, keys, List.map_drop, grown, size, List.rtake]

theorem keys_lookup (c : Cache α) (key : Text) :
    (c.lookup key).2.keys = if key ∈ c.keys then moved key c.keys else c.keys := by
  rw [lookup]
  cases found : c.find? key with
  | none => rw [if_neg (find?_eq_none_iff.mp found)]; rfl
  | some e =>
    obtain ⟨mem, rfl⟩ := find?_mem found
    rw [if_pos (mem_keys.mpr ⟨e, mem, rfl⟩), keys, List.map_append, map_others]
    rfl

theorem keys_invalidate (c : Cache α) (key : Text) :
    (c.invalidate key).2.keys = c.keys.filter (· != key) :=
  map_others c key

theorem lookup_eq_none_iff {key : Text} : (c.lookup key).1 = none ↔ key ∉ c.keys := by
  rw [← find?_eq_none_iff, lookup]
  cases c.find? key <;> simp

theorem taken_put (c : Cache α) (key : Text) (value : α) :
    (c.taken (.put key value)).touched? = some key := rfl

theorem taken_get (key : Text) :
    (c.taken (.get key)).touched? = if key ∈ c.keys then some key else none := by
  cases found : (c.lookup key).1 with
  | none =>
    rw [if_neg (lookup_eq_none_iff.mp found)]
    simp [taken, perform, found, Step.touched?]
  | some v =>
    have mem : key ∈ c.keys := by
      by_contra absent
      rw [lookup_eq_none_iff.mpr absent] at found
      cases found
    simp [taken, perform, found, Step.touched?, mem]

@[simp] theorem capacity_perform (c : Cache α) (op : Operation α) :
    (c.perform op).2.capacity = c.capacity := by
  cases op with
  | get key =>
    rw [perform, lookup]
    cases c.find? key <;> rfl
  | _ => rfl

@[simp] theorem capacity_after (c : Cache α) (ops : List (Operation α)) :
    (c.after ops).capacity = c.capacity := by
  induction ops using List.reverseRecOn with
  | nil => rfl
  | append_singleton ops op ih => rw [after_concat, capacity_perform, ih]

/-- The three ways to change the keys. -/
theorem keys_perform (op : Operation α) (distinct : c.keys.Nodup) (fits : c.size ≤ c.capacity) :
    (∃ key, (c.taken op).touched? = some key ∧
      (c.perform op).2.keys = (moved key c.keys).rtake c.capacity) ∨
    ((c.taken op).touched? = none ∧ (c.perform op).2.keys.Sublist c.keys ∧
      (op.removes = false → (c.perform op).2.keys = c.keys)) := by
  cases op with
  | put key value => exact .inl ⟨key, rfl, keys_insert c key value⟩
  | get key =>
    by_cases mem : key ∈ c.keys
    · -- a hit brings no new key, so nothing is dropped
      refine .inl ⟨key, by rw [taken_get, if_pos mem], ?_⟩
      have size : (moved key c.keys).length ≤ c.capacity := by
        rw [length_moved distinct, if_pos mem, keys, List.length_map]
        exact fits
      rw [List.rtake, Nat.sub_eq_zero_of_le size, List.drop_zero]
      exact (keys_lookup c key).trans (if_pos mem)
    · have same : (c.perform (.get key)).2.keys = c.keys := (keys_lookup c key).trans (if_neg mem)
      exact .inr ⟨by rw [taken_get, if_neg mem], same ▸ List.Sublist.refl _, fun _ => same⟩
  | invalidate key =>
    refine .inr ⟨rfl, ?_, nofun⟩
    rw [perform, keys_invalidate]
    exact List.filter_sublist
  | clear => exact .inr ⟨rfl, List.nil_sublist _, nofun⟩
  | contains key => exact .inr ⟨rfl, List.Sublist.refl _, fun _ => rfl⟩
  | size => exact .inr ⟨rfl, List.Sublist.refl _, fun _ => rfl⟩
  | keys => exact .inr ⟨rfl, List.Sublist.refl _, fun _ => rfl⟩
  | stats => exact .inr ⟨rfl, List.Sublist.refl _, fun _ => rfl⟩

/-! ### A cache and its history -/

/-- **A cache as its history says it should be.** -/
structure Recent (log : List (Step α)) (c : Cache α) : Prop where
  distinct : c.keys.Nodup
  fits : c.size ≤ c.capacity
  /-- Whatever is resident was touched. -/
  touched : ∀ key ∈ c.keys, (lastTouch log key).isSome
  /-- The keys stand in the order of their last touch. -/
  ordered : c.keys.Pairwise fun a b => lastTouch log a < lastTouch log b
  /-- Entries hold what was last put under their key. -/
  holds : c.Holds fun key value => lastPut log key = some value

theorem recent_empty (N : Nat) : Recent [] (empty N : Cache α) where
  distinct := List.nodup_nil
  fits := Nat.zero_le N
  touched := nofun
  ordered := .nil
  holds := nofun

namespace Recent

variable {log : List (Step α)}

/-- A touch makes a key the latest of all. -/
theorem ordered_moved (recent : Recent log c) {step : Step α} {key : Text}
    (touch : step.touched? = some key) :
    (moved key c.keys).Pairwise fun a b => lastTouch (log ++ [step]) a < lastTouch (log ++ [step]) b := by
  have others {k : Text} (mem : k ∈ c.keys.filter (· != key)) :
      lastTouch (log ++ [step]) k = lastTouch log k := by
    have other : key ≠ k := fun same => by simp [same] at mem
    rw [lastTouch_concat, touch, if_neg (fun same => other (Option.some.inj same))]
  have latest : lastTouch (log ++ [step]) key = some log.length := by
    rw [lastTouch_concat, touch, if_pos rfl]
  refine List.pairwise_append.mpr ⟨?_, List.pairwise_singleton _ _, ?_⟩
  · refine (recent.ordered.filter _).imp_of_mem fun {a b} mema memb earlier => ?_
    rwa [others mema, others memb]
  · intro a mem b last
    obtain rfl := List.mem_singleton.mp last
    rw [others mem, latest]
    exact lastTouch_lt log a

theorem touched_concat (recent : Recent log c) (step : Step α) {key : Text}
    (known : key ∈ c.keys ∨ step.touched? = some key) :
    (lastTouch (log ++ [step]) key).isSome := by
  rw [lastTouch_concat]
  split
  · rfl
  · next other => exact recent.touched key (known.resolve_right other)

/-- One operation keeps the entries and the history together. -/
theorem holds_perform (recent : Recent log c) (op : Operation α) :
    (c.perform op).2.Holds fun key value => lastPut (log ++ [c.taken op]) key = some value := by
  have same (quiet : ∀ key, (c.taken op).put? key = none) :
      c.Holds fun key value => lastPut (log ++ [c.taken op]) key = some value := by
    intro e mem
    rw [lastPut_concat, quiet, Option.none_or]
    exact recent.holds e mem
  cases op with
  | put key value =>
    refine Holds.replace (fun e mem other => ?_) ?_
    · rw [lastPut_concat, taken, Step.put?, if_neg (Ne.symm other), Option.none_or]
      exact recent.holds e mem
    · rw [lastPut_concat, taken, Step.put?, if_pos rfl, Option.some_or]
  | get key => exact (same fun _ => rfl).lookup key
  | invalidate key => exact Holds.invalidate ((same fun _ => rfl).mono fun _ _ holds _ => holds)
  | clear => exact holds_clear c
  | contains key => exact same fun _ => rfl
  | size => exact same fun _ => rfl
  | keys => exact same fun _ => rfl
  | stats => exact same fun _ => rfl

/-- **One operation.** Its step joins the history. -/
theorem concat (recent : Recent log c) (op : Operation α) :
    Recent (log ++ [c.taken op]) (c.perform op).2 := by
  have holds := recent.holds_perform op
  obtain ⟨key, touch, e⟩ | ⟨quiet, sub, -⟩ := keys_perform op recent.distinct recent.fits
  · have sub : (c.perform op).2.keys.Sublist (moved key c.keys) := e ▸ List.drop_sublist _ _
    refine ⟨sub.nodup (nodup_moved recent.distinct), ?_, fun k mem => ?_,
      (recent.ordered_moved touch).sublist sub, holds⟩
    · rw [capacity_perform, ← length_keys, e, List.rtake, List.length_drop]
      omega
    · obtain old | rfl := mem_moved.mp (sub.subset mem)
      · exact recent.touched_concat _ (.inl old)
      · exact recent.touched_concat _ (.inr touch)
  · refine ⟨sub.nodup recent.distinct, ?_, fun k mem => ?_, ?_, holds⟩
    · rw [capacity_perform, ← length_keys]
      exact sub.length_le.trans (by rw [length_keys]; exact recent.fits)
    · exact recent.touched_concat _ (.inl (sub.subset mem))
    · refine (recent.ordered.sublist sub).imp fun {a b} earlier => ?_
      simpa [lastTouch_concat, quiet] using earlier

/-- A lookup finds what was last put, if the key is resident. -/
theorem lookup (recent : Recent log c) (key : Text) :
    (c.lookup key).1 = if key ∈ c.keys then lastPut log key else none := by
  split
  · next mem =>
    cases found : (c.lookup key).1 with
    | none => exact absurd mem (lookup_eq_none_iff.mp found)
    | some v => exact (recent.holds.found found).symm
  · next absent => exact lookup_eq_none_iff.mpr absent

end Recent

theorem recent_after (N : Nat) (ops : List (Operation α)) :
    Recent ((empty N).history ops) ((empty N).after ops) := by
  induction ops using List.reverseRecOn with
  | nil => exact recent_empty N
  | append_singleton ops op ih =>
    rw [history_concat, after_concat]
    exact ih.concat op

/-- Without removals the keys are the latest of all that were touched. -/
theorem keys_after (N : Nat) (ops : List (Operation α))
    (keeps : ∀ op ∈ ops, op.removes = false) :
    ((empty N).after ops).keys = (touches ((empty N).history ops)).dedup.rtake N := by
  induction ops using List.reverseRecOn with
  | nil => simp [after, history, touches, empty, keys]
  | append_singleton ops op ih =>
    have before := ih fun o mem => keeps o (List.mem_append_left _ mem)
    have recent := recent_after N ops
    rw [history_concat, after_concat, touches_concat]
    obtain ⟨key, touch, e⟩ | ⟨quiet, -, same⟩ := keys_perform op recent.distinct recent.fits
    · rw [e, touch, before, capacity_after, Option.toList_some, dedup_concat]
      exact rtake_moved_rtake N (List.nodup_dedup _)
    · rw [quiet, same (keeps op (by simp)), before, Option.toList_none, List.append_nil]

/-! ### What the next operation changes -/

/-- **How the next operation makes keys resident and drops them.** -/
structure Turnover (log : List (Step α)) (c : Cache α) : Prop where
  /-- A key becomes resident by being put, and only so. -/
  gained : ∀ op : Operation α, ∀ key ∉ c.keys,
    (key ∈ (c.perform op).2.keys ↔ 0 < c.capacity ∧ ∃ value, op = .put key value)
  /-- A key is dropped by its removal, or as the first one when another key is put into a full
  cache. -/
  lost : ∀ op : Operation α, ∀ key ∈ c.keys,
    (key ∉ (c.perform op).2.keys ↔ op = .invalidate key ∨ op = .clear ∨
      ∃ k value, op = .put k value ∧ k ∉ c.keys ∧ c.size = c.capacity ∧ c.keys.head? = some key)
  /-- A new key in a full cache takes the place of the entry with the oldest touch, which is its own
  where there is no room at all. -/
  evicts : ∀ key value, key ∉ c.keys → c.size = c.capacity → ∃ evicted : Entry α,
    c.entries ++ [{ key := key, value := value }] = evicted :: (c.insert key value).entries ∧
    (c.capacity = 0 → evicted.key = key) ∧
    ∀ k ∈ (c.insert key value).keys,
      lastTouch (log ++ [c.taken (.put key value)]) evicted.key <
        lastTouch (log ++ [c.taken (.put key value)]) k
  /-- To ask changes nothing. -/
  asked : ∀ op : Operation α, op.asks → (c.perform op).2 = c

/-- What is appended to a full cache drops its first entry. -/
theorem insert_full {key : Text} (value : α) (absent : key ∉ c.keys) (full : c.size = c.capacity) :
    ∃ evicted : Entry α,
      c.entries ++ [{ key := key, value := value }] = evicted :: (c.insert key value).entries := by
  have one : (c.others key ++ [({ key := key, value := value } : Entry α)]).length - c.capacity = 1 := by
    rw [others_of_notMem absent, List.length_append, List.length_singleton, ← full, size]
    omega
  have rest : (c.insert key value).entries =
      (c.entries ++ [({ key := key, value := value } : Entry α)]).drop 1 := by
    rw [insert, one, others_of_notMem absent]
  rw [rest]
  cases e : c.entries ++ [({ key := key, value := value } : Entry α)] with
  | nil => simp at e
  | cons evicted kept => exact ⟨evicted, rfl⟩

theorem keys_of_full {key : Text} (value : α) (absent : key ∉ c.keys) (full : c.size = c.capacity) :
    (c.insert key value).keys = (c.keys ++ [key]).tail := by
  obtain ⟨evicted, e⟩ := insert_full value absent full
  have keys := congrArg (List.map (·.key)) e
  rw [List.map_append, List.map_cons] at keys
  exact (congrArg List.tail keys).symm

/-- A put of a key that is there, or into a cache with room, drops nothing. -/
theorem keys_of_room {key : Text} (value : α) (distinct : c.keys.Nodup) (fits : c.size ≤ c.capacity)
    (room : key ∈ c.keys ∨ c.size ≠ c.capacity) : (c.insert key value).keys = moved key c.keys := by
  have size : (moved key c.keys).length ≤ c.capacity := by
    rw [length_moved distinct, length_keys]
    split
    · exact fits
    · next absent => exact Nat.lt_of_le_of_ne fits (room.resolve_left absent)
  rw [keys_insert, List.rtake, Nat.sub_eq_zero_of_le size, List.drop_zero]

/-- What is put is resident, unless there is no room at all. -/
theorem mem_insert_self (c : Cache α) (key : Text) (value : α) :
    key ∈ (c.insert key value).keys ↔ 0 < c.capacity := by
  rw [keys_insert, moved]
  cases c.capacity with
  | zero => simp
  | succ n => simp [List.rtake_concat_succ]

theorem mem_lookup {key k : Text} : k ∈ (c.lookup key).2.keys ↔ k ∈ c.keys := by
  rw [keys_lookup]
  split
  · next found =>
    rw [mem_moved]
    exact ⟨fun either => either.elim id fun same => same ▸ found, .inl⟩
  · exact Iff.rfl

namespace Recent

variable {log : List (Step α)}

/-- A put leaves the other keys, except for the first one where a new key is put into a full cache. -/
theorem mem_insert (recent : Recent log c) {key k : Text} (value : α) (other : key ≠ k) :
    key ∈ (c.insert k value).keys ↔
      key ∈ c.keys ∧ ¬(k ∉ c.keys ∧ c.size = c.capacity ∧ c.keys.head? = some key) := by
  by_cases full : k ∉ c.keys ∧ c.size = c.capacity
  · rw [keys_of_full value full.1 full.2]
    have distinct := recent.distinct
    cases e : c.keys with
    | nil => simp
    | cons first rest =>
      rw [e, List.nodup_cons] at distinct
      -- the first key is dropped, and it occurs nowhere else
      have here : k ∉ first :: rest := e ▸ full.1
      rw [List.cons_append, List.tail_cons, List.mem_append, List.mem_singleton, List.mem_cons,
        List.head?_cons, Option.some.injEq]
      constructor
      · intro mem
        have mem := mem.resolve_right other
        exact ⟨.inr mem, fun ⟨_, _, same⟩ => distinct.1 (same ▸ mem)⟩
      · rintro ⟨rfl | mem, kept⟩
        · exact absurd ⟨here, full.2, rfl⟩ kept
        · exact .inl mem
  · have room : k ∈ c.keys ∨ c.size ≠ c.capacity := by tauto
    rw [keys_of_room value recent.distinct recent.fits room, mem_moved]
    have kept : ¬(k ∉ c.keys ∧ c.size = c.capacity ∧ c.keys.head? = some key) :=
      fun ⟨absent, size, _⟩ => full ⟨absent, size⟩
    exact ⟨fun mem => ⟨mem.resolve_right other, kept⟩, fun mem => .inl mem.1⟩

theorem gained (recent : Recent log c) (op : Operation α) {key : Text} (absent : key ∉ c.keys) :
    key ∈ (c.perform op).2.keys ↔ 0 < c.capacity ∧ ∃ value, op = .put key value := by
  cases op with
  | put k value =>
    by_cases same : k = key
    · subst same
      exact (c.mem_insert_self k value).trans ⟨fun room => ⟨room, value, rfl⟩, And.left⟩
    · have left := recent.mem_insert value (Ne.symm same)
      exact ⟨fun mem => absurd (left.mp mem).1 absent,
        fun ⟨_, _, e⟩ => absurd (Operation.put.inj e).1 same⟩
  | get k => exact ⟨fun mem => absurd (mem_lookup.mp mem) absent, nofun⟩
  | invalidate k =>
    refine ⟨fun mem => ?_, nofun⟩
    rw [perform, keys_invalidate] at mem
    exact absurd (List.mem_of_mem_filter mem) absent
  | clear => exact ⟨nofun, nofun⟩
  | contains k => exact ⟨fun mem => absurd mem absent, nofun⟩
  | size => exact ⟨fun mem => absurd mem absent, nofun⟩
  | keys => exact ⟨fun mem => absurd mem absent, nofun⟩
  | stats => exact ⟨fun mem => absurd mem absent, nofun⟩

theorem lost (recent : Recent log c) (op : Operation α) {key : Text} (mem : key ∈ c.keys) :
    key ∉ (c.perform op).2.keys ↔ op = .invalidate key ∨ op = .clear ∨
      ∃ k value, op = .put k value ∧ k ∉ c.keys ∧ c.size = c.capacity ∧ c.keys.head? = some key := by
  cases op with
  | put k value =>
    by_cases same : k = key
    · subst same
      have room : 0 < c.capacity := by
        have pos := List.length_pos_of_mem mem
        have fits := recent.fits
        rw [length_keys] at pos
        omega
      have kept : k ∈ (c.insert k value).keys := (c.mem_insert_self k value).mpr room
      simp [perform, kept, mem]
    · simp [perform, recent.mem_insert value (Ne.symm same), mem]
  | get k => simp [perform, mem_lookup, mem]
  | invalidate k =>
    rw [perform, keys_invalidate]
    by_cases same : k = key
    · simp [same]
    · simp [mem, same, Ne.symm same]
  | clear => simp [perform, clear, Cache.keys]
  | contains k => simp [perform, mem]
  | size => simp [perform, mem]
  | keys => simp [perform, mem]
  | stats => simp [perform, mem]

theorem turnover (recent : Recent log c) : Turnover log c where
  gained op _ absent := recent.gained op absent
  lost op _ mem := recent.lost op mem
  evicts key value absent full := by
    obtain ⟨evicted, e⟩ := insert_full value absent full
    have keys : c.keys ++ [key] = evicted.key :: (c.insert key value).keys := by
      simpa [Cache.keys] using congrArg (List.map (·.key)) e
    refine ⟨evicted, e, fun none => ?_, ?_⟩
    · -- without any room the entry that is dropped is the new one
      have empty : c.keys = [] := List.eq_nil_of_length_eq_zero (by rw [length_keys, full, none])
      rw [empty, List.nil_append] at keys
      exact (List.cons.inj keys).1.symm
    · have order := recent.ordered_moved (c.taken_put key value)
      rw [moved_of_notMem absent, keys] at order
      exact (List.pairwise_cons.mp order).1
  asked op asks := by cases op <;> first | rfl | cases asks

end Recent

/-- **A cache keeps what was touched last.** Whatever is done to a cache that begins empty, its keys
are distinct, within the bound and in the order of their last touch, a lookup finds what was last put
under a resident key, and the next operation changes the residents only as `Turnover` says. As long as
nothing is removed, the keys are the latest `N` of the distinct keys that were touched. -/
theorem keeps_latest_touched (N : Nat) (ops : List (Operation α)) :
    let c := (empty N).after ops
    let log := (empty N).history ops
    c.capacity = N ∧ Recent log c ∧ Turnover log c ∧
    (∀ key, (c.lookup key).1 = if key ∈ c.keys then lastPut log key else none) ∧
    ((∀ op ∈ ops, op.removes = false) → c.keys = (touches log).dedup.rtake N) := by
  have recent := recent_after N ops
  refine ⟨capacity_after _ ops, recent, recent.turnover, recent.lookup, keys_after N ops⟩

/-- A lookup saves a key from the put that follows. -/
theorem keeps_latest_touched_hit :
    let ops : List (Operation Nat) := [.put "a" 1, .put "b" 2, .get "a", .contains "b", .put "c" 3]
    (∀ op ∈ ops, op.removes = false) ∧ ((empty 2).after ops).keys = ["a", "c"] := by
  refine ⟨by decide, ?_⟩
  rw [(keeps_latest_touched 2 _).2.2.2.2 (by decide)]
  decide

end Cache

end Stencil
