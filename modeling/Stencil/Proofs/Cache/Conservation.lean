import Stencil.Proofs.Cache.Recency

/-!
# What goes into a cache

Every entry that a cache ever gets is still there, or it was evicted, invalidated or cleared away. What a
cache counts of itself, and how often each of its entries was used, is what the history of its operations says.

## Main definitions

- `Cache.total` — what the operations of a run count for, each on the cache as it is then
- `Cache.arrivals`, `Cache.evicted`, `Cache.invalidated`, `Cache.cleared` — how an operation moves entries
- `Cache.hitsSincePut` — how often a history says that a key was found since it was last put
- `Cache.Counted` — a cache that counts what its history says

## Main results

- `Cache.flow_perform` — one operation moves entries, and none is lost
- `Cache.entries_conserved` — the same for a run, with all counts
-/

namespace Stencil

namespace Cache

variable {α : Type} {c : Cache α} {key : Text}

/-! ### How operations move entries -/

/-- What the operations of a run count for, each on the cache as it is then. -/
def total (f : Cache α → Operation α → Nat) (c : Cache α) : List (Operation α) → Nat
  | [] => 0
  | op :: rest => f c op + total f (c.perform op).2 rest

/-- The entries that come in: a key is put that is not there. -/
def arrivals (c : Cache α) : Operation α → Nat
  | .put key _ => if key ∈ c.keys then 0 else 1
  | _ => 0

/-- The entries that are dropped for lack of room. -/
def evicted (c : Cache α) : Operation α → Nat
  | .put key _ => (c.overflow key).length
  | _ => 0

/-- An entry is removed on its own, and was there. -/
def invalidated (c : Cache α) : Operation α → Nat
  | .invalidate key => (c.invalidate key).1.toNat
  | _ => 0

/-- The entries that are removed all at once. -/
def cleared (c : Cache α) : Operation α → Nat
  | .clear => c.size
  | _ => 0

theorem total_concat (f : Cache α → Operation α → Nat) (c : Cache α) (ops : List (Operation α))
    (op : Operation α) : total f c (ops ++ [op]) = total f c ops + f (c.after ops) op := by
  induction ops generalizing c with
  | nil => exact Nat.add_comm _ _
  | cons o rest ih =>
    rw [List.cons_append, total, total, ih, Nat.add_assoc]
    rfl

theorem length_grown (c : Cache α) (key : Text) :
    ((c.others key).map (·.key) ++ [key]).length = (moved key c.keys).length := by
  rw [map_others, moved]

theorem length_overflow (c : Cache α) (key : Text) :
    (c.overflow key).length = (moved key c.keys).length - c.capacity := by
  simp only [overflow, length_grown]
  rw [List.length_take, length_grown]
  omega

/-- A put drops what is evicted, and keeps the rest. -/
theorem size_insert (c : Cache α) (key : Text) (value : α) :
    (c.insert key value).size + (c.overflow key).length = (moved key c.keys).length := by
  rw [← length_keys, keys_insert, length_overflow, List.rtake, List.length_drop]
  omega

theorem evictions_put (c : Cache α) (key : Text) (value : α) :
    (c.insert key value).evictions = c.evictions + (c.overflow key).length := by
  have grown : (c.others key ++ [({ key := key, value := value } : Entry α)]).length =
      (moved key c.keys).length := by
    rw [← length_grown, List.length_append, List.length_append, List.length_map]
    rfl
  rw [length_overflow, ← grown]
  rfl

/-- **One operation moves entries, and none is lost.** -/
theorem flow_perform (distinct : c.keys.Nodup) (op : Operation α) :
    c.size + c.arrivals op =
      (c.perform op).2.size + c.evicted op + c.invalidated op + c.cleared op := by
  cases op with
  | put key value =>
    have grown : (moved key c.keys).length = _ := length_moved distinct
    have size := c.size_insert key value
    rw [length_keys] at grown
    simp only [arrivals, evicted, invalidated, cleared, perform]
    split <;> simp_all
  | get key =>
    have same : (c.lookup key).2.size = c.size := by
      rw [← length_keys, keys_lookup]
      split
      · next mem => rw [length_moved distinct, if_pos mem, length_keys]
      · exact length_keys c
    simp [arrivals, evicted, invalidated, cleared, perform, same]
  | invalidate key =>
    have size : (c.invalidate key).2.size = (c.keys.erase key).length := by
      rw [← length_keys, keys_invalidate, ← distinct.erase_eq_filter]
    have flag : (c.invalidate key).1 = decide (key ∈ c.keys) := contains_eq
    simp only [arrivals, evicted, invalidated, cleared, perform, size, flag]
    by_cases mem : key ∈ c.keys
    · have pos := List.length_pos_of_mem mem
      rw [List.length_erase_of_mem mem, decide_eq_true mem, Bool.toNat_true]
      rw [length_keys] at pos ⊢
      omega
    · rw [List.erase_of_not_mem mem, decide_eq_false mem, length_keys]
      rfl
  | clear => simp [arrivals, evicted, invalidated, cleared, perform, clear, Cache.size]
  | contains key => rfl
  | size => rfl
  | keys => rfl
  | stats => rfl

/-! ### What a history says of uses -/

/-- The key that a lookup finds. -/
def Step.hit? : Step α → Option Text
  | ⟨.get key, .found (some _)⟩ => some key
  | _ => none

/-- A lookup that finds nothing. -/
def Step.isMiss : Step α → Bool
  | ⟨.get _, .found none⟩ => true
  | _ => false

/-- A lookup. -/
def Operation.isGet : Operation α → Bool
  | get _ => true
  | _ => false

/-- The steps of a history since a key was last put. -/
def sincePut (log : List (Step α)) (key : Text) : List (Step α) :=
  log.rtakeWhile fun step => (step.put? key).isNone

/-- How often a key was found since it was last put. -/
def hitsSincePut (log : List (Step α)) (key : Text) : Nat :=
  (sincePut log key).countP fun step => step.hit? = some key

theorem countP_concat {β : Type} (p : β → Bool) (xs : List β) (x : β) :
    (xs ++ [x]).countP p = xs.countP p + (p x).toNat := by
  rw [List.countP_append, List.countP_singleton]
  cases p x <;> rfl

section Log

variable (log : List (Step α)) (step : Step α)

theorem hitsSincePut_of_put {v : α} (puts : step.put? key = some v) :
    hitsSincePut (log ++ [step]) key = 0 := by
  rw [hitsSincePut, sincePut, List.rtakeWhile_concat, puts]
  rfl

theorem hitsSincePut_of_not_put (keeps : step.put? key = none) :
    hitsSincePut (log ++ [step]) key = hitsSincePut log key + (decide (step.hit? = some key)).toNat := by
  rw [hitsSincePut, sincePut, List.rtakeWhile_concat, keeps, if_pos Option.isNone_none, countP_concat]
  rfl

end Log

theorem hit?_taken (c : Cache α) (key : Text) :
    (c.taken (.get key)).hit? = if key ∈ c.keys then some key else none := by
  have touched := c.taken_get key
  rw [← touched]
  rw [taken, perform]
  cases (c.lookup key).1 <;> rfl

theorem isMiss_taken (c : Cache α) (key : Text) :
    (c.taken (.get key)).isMiss = decide (key ∉ c.keys) := by
  have missed : (c.lookup key).1 = none ↔ key ∉ c.keys := lookup_eq_none_iff
  rw [taken, perform]
  cases found : (c.lookup key).1 with
  | none => exact (decide_eq_true (missed.mp found)).symm
  | some v =>
    rw [found] at missed
    exact (decide_eq_false fun absent => by cases missed.mpr absent).symm

/-! ### Counts -/

/-- **A cache that counts what its history says.** -/
structure Counted (log : List (Step α)) (c : Cache α) : Prop where
  hits : c.hits = log.countP fun step => step.hit?.isSome
  misses : c.misses = log.countP Step.isMiss
  /-- Each entry was used as often as its key was found since it was put. -/
  uses : ∀ e ∈ c.entries, e.uses = hitsSincePut log e.key

theorem counted_empty (N : Nat) : Counted [] (empty N : Cache α) where
  hits := rfl
  misses := rfl
  uses := nofun

namespace Counted

variable {log : List (Step α)}

/-- What neither puts nor finds a key leaves its uses as they are. -/
theorem uses_of_quiet (counted : Counted log c) {step : Step α} {e : Entry α} (mem : e ∈ c.entries)
    (keeps : step.put? e.key = none) (quiet : step.hit? ≠ some e.key) :
    e.uses = hitsSincePut (log ++ [step]) e.key := by
  rw [hitsSincePut_of_not_put log step keeps, decide_eq_false quiet]
  exact counted.uses e mem

/-- An operation that looks nothing up and puts nothing counts nothing. -/
theorem idle (counted : Counted log c) {step : Step α} {c' : Cache α} (hits : c'.hits = c.hits)
    (misses : c'.misses = c.misses) (entries : c'.entries ⊆ c.entries) (found : step.hit? = none)
    (missed : step.isMiss = false) (keeps : ∀ key, step.put? key = none) :
    Counted (log ++ [step]) c' where
  hits := by
    rw [hits, counted.hits, countP_concat, found]
    rfl
  misses := by
    rw [misses, counted.misses, countP_concat, missed]
    rfl
  uses e mem := counted.uses_of_quiet (entries mem) (keeps e.key) (by simp [found])

theorem put (counted : Counted log c) (key : Text) (value : α) :
    Counted (log ++ [c.taken (.put key value)]) (c.insert key value) where
  hits := by
    rw [countP_concat]
    exact counted.hits
  misses := by
    rw [countP_concat]
    exact counted.misses
  uses e mem := by
    obtain old | fresh := List.mem_append.mp (List.mem_of_mem_drop mem)
    · obtain ⟨mem, other⟩ := List.mem_filter.mp old
      have other : key ≠ e.key := fun same => by simp [same] at other
      exact counted.uses_of_quiet mem (if_neg other) (by simp [taken, Step.hit?])
    · obtain rfl := List.mem_singleton.mp fresh
      have puts : (c.taken (.put key value)).put? key = some value := if_pos rfl
      exact (hitsSincePut_of_put log _ puts).symm

theorem get (counted : Counted log c) (key : Text) :
    Counted (log ++ [c.taken (.get key)]) (c.lookup key).2 := by
  have found := c.hit?_taken key
  have missed := c.isMiss_taken key
  have keeps (k : Text) : (c.taken (.get key)).put? k = none := rfl
  generalize c.taken (.get key) = step at found missed keeps
  rw [lookup]
  cases is : c.find? key with
  | none =>
    have absent := find?_eq_none_iff.mp is
    rw [if_neg absent] at found
    rw [decide_eq_true absent] at missed
    refine ⟨?_, ?_, fun e mem => counted.uses_of_quiet mem (keeps e.key) (by simp [found])⟩
    · rw [countP_concat, found]
      exact counted.hits
    · rw [countP_concat, missed]
      exact congrArg (· + 1) counted.misses
  | some e =>
    obtain ⟨mem, rfl⟩ := find?_mem is
    have resident : e.key ∈ c.keys := mem_keys.mpr ⟨e, mem, rfl⟩
    rw [if_pos resident] at found
    rw [decide_eq_false (not_not_intro resident)] at missed
    refine ⟨?_, ?_, fun e' mem' => ?_⟩
    · rw [countP_concat, found]
      exact congrArg (· + 1) counted.hits
    · rw [countP_concat, missed]
      exact counted.misses
    · obtain old | new := List.mem_append.mp mem'
      · obtain ⟨mem', other⟩ := List.mem_filter.mp old
        have other : e.key ≠ e'.key := fun same => by simp [same] at other
        exact counted.uses_of_quiet mem' (keeps e'.key) (by simpa [found] using other)
      · obtain rfl := List.mem_singleton.mp new
        rw [hitsSincePut_of_not_put log step (keeps e.key), decide_eq_true found, ← counted.uses e mem]
        rfl

/-- **One operation.** Its step joins the history. -/
theorem concat (counted : Counted log c) (op : Operation α) :
    Counted (log ++ [c.taken op]) (c.perform op).2 := by
  cases op with
  | put key value => exact counted.put key value
  | get key => exact counted.get key
  | invalidate key => exact counted.idle rfl rfl (c.others_subset key) rfl rfl fun _ => rfl
  | clear => exact counted.idle rfl rfl (List.nil_subset _) rfl rfl fun _ => rfl
  | contains key => exact counted.idle rfl rfl (List.Subset.refl _) rfl rfl fun _ => rfl
  | size => exact counted.idle rfl rfl (List.Subset.refl _) rfl rfl fun _ => rfl
  | keys => exact counted.idle rfl rfl (List.Subset.refl _) rfl rfl fun _ => rfl
  | stats => exact counted.idle rfl rfl (List.Subset.refl _) rfl rfl fun _ => rfl

end Counted

theorem counted_after (N : Nat) (ops : List (Operation α)) :
    Counted ((empty N).history ops) ((empty N).after ops) := by
  induction ops using List.reverseRecOn with
  | nil => exact counted_empty N
  | append_singleton ops op ih =>
    rw [history_concat, after_concat]
    exact ih.concat op

/-- All that came into a cache is there, or has gone out of it. -/
theorem flow_after (N : Nat) (ops : List (Operation α)) :
    total arrivals (empty N) ops = ((empty N).after ops).size + total evicted (empty N) ops +
      total invalidated (empty N) ops + total cleared (empty N) ops := by
  induction ops using List.reverseRecOn with
  | nil => rfl
  | append_singleton ops op ih =>
    have flow := flow_perform (recent_after N ops).distinct op
    simp only [total_concat, after_concat]
    omega

theorem evictions_after (N : Nat) (ops : List (Operation α)) :
    ((empty N).after ops).evictions = total evicted (empty N) ops := by
  induction ops using List.reverseRecOn with
  | nil => rfl
  | append_singleton ops op ih =>
    rw [total_concat, after_concat, ← ih]
    generalize (empty N).after ops = c
    cases op with
    | put key value => exact c.evictions_put key value
    | get key =>
      rw [perform, lookup]
      cases c.find? key <;> rfl
    | _ => rfl

/-- Every lookup hits or misses. -/
theorem countP_history (c : Cache α) (ops : List (Operation α)) :
    ((c.history ops).countP fun step => step.hit?.isSome) + (c.history ops).countP Step.isMiss =
      ops.countP Operation.isGet := by
  induction ops using List.reverseRecOn with
  | nil => rfl
  | append_singleton ops op ih =>
    have one : (((c.after ops).taken op).hit?.isSome).toNat + ((c.after ops).taken op).isMiss.toNat =
        op.isGet.toNat := by
      cases op with
      | get key =>
        rw [hit?_taken, isMiss_taken]
        by_cases mem : key ∈ (c.after ops).keys <;> simp [mem, Operation.isGet]
      | _ => rfl
    rw [history_concat, countP_concat, countP_concat, countP_concat]
    omega

/-- **Entries are conserved.** Whatever is done to a cache that begins empty: the keys that were put while
they were not there are as many as the entries that it holds, with those that were evicted, those that were
invalidated and those that were cleared away. Every lookup was a hit or a miss, each entry stands under its own
key and was used as often as this was found since it was last put, and the cache reports these numbers of
itself. Removals change none of its counters. -/
theorem entries_conserved (N : Nat) (ops : List (Operation α)) :
    let c := (empty N).after ops
    let log := (empty N).history ops
    let hits := log.countP fun step => step.hit?.isSome
    let gets := ops.countP Operation.isGet
    total arrivals (empty N) ops =
      c.size + c.evictions + total invalidated (empty N) ops + total cleared (empty N) ops ∧
    c.evictions = total evicted (empty N) ops ∧
    c.hits + c.misses = gets ∧
    (∀ e ∈ c.entries, e.uses = hitsSincePut log e.key) ∧
    (∀ key e, c.find? key = some e ↔ e ∈ c.entries ∧ e.key = key) ∧
    c.stats = {
      entries := c.keys.length
      capacity := N
      hits
      misses := log.countP Step.isMiss
      evictions := total evicted (empty N) ops
      hitRate := if gets = 0 then 0.0 else Float.ofNat hits / Float.ofNat gets } ∧
    ∀ op : Operation α, op.removes →
      let c' := (c.perform op).2
      c'.hits = c.hits ∧ c'.misses = c.misses ∧ c'.evictions = c.evictions := by
  intro c log hits gets
  have counted : Counted log c := counted_after N ops
  have distinct : c.keys.Nodup := (recent_after N ops).distinct
  have evictions : c.evictions = total evicted (empty N) ops := evictions_after N ops
  have lookups : c.hits + c.misses = gets := by
    rw [counted.hits, counted.misses]
    exact countP_history (empty N) ops
  refine ⟨?_, evictions, lookups, counted.uses, fun key e => ?_, ?_, fun op removes => ?_⟩
  · rw [evictions]
    exact flow_after N ops
  · refine ⟨find?_mem, ?_⟩
    rintro ⟨mem, rfl⟩
    -- no other entry has this key
    cases found : c.find? e.key with
    | none => exact absurd (mem_keys.mpr ⟨e, mem, rfl⟩) (find?_eq_none_iff.mp found)
    | some e' =>
      obtain ⟨mem', same⟩ := find?_mem found
      exact congrArg some (List.inj_on_of_nodup_map distinct mem' mem same)
  · rw [stats, hitRate, ratio, lookups, length_keys, ← evictions, ← counted.misses]
    simp only [hits, ← counted.hits]
    rw [show c.capacity = N from capacity_after (empty N) ops]
  · cases op with
    | invalidate key => exact ⟨rfl, rfl, rfl⟩
    | clear => exact ⟨rfl, rfl, rfl⟩
    | _ => cases removes

end Cache

end Stencil
