import Mathlib.Data.List.Count
import Mathlib.Data.List.DropRight
import Mathlib.Data.List.Nodup
import Stencil.Metrics

/-!
# What the counters of a pipeline say

After any sequence of operations, the counters are those of the operations since the last reset: each counter is the
number of its records, the failures are counted by the names of their kinds, and of the durations the latest
thousand are kept, in their order.

## Main definitions

- `Metrics.Operation`, `Metrics.perform`, `Metrics.after` — the operations, and what a run of them leads to
- `Metrics.sinceReset` — the operations of a run that the last reset did not wipe out
- `Metrics.Tallies` — counts that say how often each kind failed
- `Metrics.Reflects` — counters that are those of some operations

## Main results

- `Metrics.latest_concat` — keeping the latest while recording is keeping the latest of all
- `Metrics.Tallies.bump` — one more failure
- `Metrics.Reflects.perform` — one operation
- `Metrics.window_exact` — every run
-/

namespace Stencil

theorem Kind.name_injective : Function.Injective Kind.name := by
  let kinds : List Kind := [.own, .configuration, .template, .storage, .notFound, .compile, .render, .exception,
    .badValue, .missingKey, .badIndex, .wrongType, .missingAttribute, .unknownName, .assertion, .runtime,
    .recursion, .zeroDivision, .overflow, .memory, .os, .fileNotFound, .isADirectory, .notADirectory, .permission,
    .lookup, .decoding, .encoding, .json, .source, .indentation, .cancelled, .templateText, .templateMeaning,
    .templateRun, .undefinedUse, .templatesMissing, .filterArgument]
  have all (k : Kind) : k ∈ kinds := by cases k <;> decide
  have apart : (kinds.map Kind.name).Nodup := by decide +kernel
  exact fun a b same => List.inj_on_of_nodup_map apart (all a) (all b) same

namespace Metrics

/-! ### Operations -/

/-- What can be done to the counters. -/
inductive Operation where
  | hit
  | miss
  | fetch
  | compile
  | render (duration : Duration)
  | failure (kind : Kind)
  | reset

namespace Operation

def isHit : Operation → Bool
  | hit => true
  | _ => false

def isMiss : Operation → Bool
  | miss => true
  | _ => false

def isFetch : Operation → Bool
  | fetch => true
  | _ => false

def isCompile : Operation → Bool
  | compile => true
  | _ => false

def isReset : Operation → Bool
  | reset => true
  | _ => false

/-- The duration that a render is recorded with. -/
def duration? : Operation → Option Duration
  | render d => some d
  | _ => none

/-- The kind of failure that is recorded. -/
def kind? : Operation → Option Kind
  | failure kind => some kind
  | _ => none

end Operation

def perform (m : Metrics) : Operation → Metrics
  | .hit => m.recordHit
  | .miss => m.recordMiss
  | .fetch => m.recordFetch
  | .compile => m.recordCompile
  | .render d => m.recordRender d
  | .failure kind => m.recordFailure kind
  | .reset => m.reset

/-- The counters after a run, from fresh ones. -/
def after (ops : List Operation) : Metrics :=
  ops.foldl perform {}

/-- The operations that the last reset did not wipe out. -/
def sinceReset (ops : List Operation) : List Operation :=
  ops.rtakeWhile fun op => !op.isReset

theorem after_concat (ops : List Operation) (op : Operation) : after (ops ++ [op]) = (after ops).perform op :=
  List.foldl_concat ..

theorem sinceReset_reset (ops : List Operation) : sinceReset (ops ++ [.reset]) = [] :=
  List.rtakeWhile_concat_neg _ _ _ Bool.false_ne_true

theorem sinceReset_concat (ops : List Operation) {op : Operation} (goesOn : op.isReset = false) :
    sinceReset (ops ++ [op]) = sinceReset ops ++ [op] :=
  List.rtakeWhile_concat_pos _ _ _ (by rw [goesOn, Bool.not_false])

/-! ### The window -/

/-- **Keeping the latest while recording is keeping the latest of all.** -/
theorem latest_concat {α : Type} (w : Nat) (xs : List α) (x : α) :
    latest w (latest w xs ++ [x]) = latest w (xs ++ [x]) := by
  have kept : latest w xs ++ [x] = (xs ++ [x]).drop (xs.length - w) :=
    (List.drop_append_of_le_length (Nat.sub_le _ _)).symm
  rw [kept, latest, latest, List.drop_drop, List.length_drop]
  congr 1
  simp only [List.length_append, List.length_singleton]
  omega

theorem length_latest {α : Type} (w : Nat) (xs : List α) : (latest w xs).length = min xs.length w := by
  rw [latest, List.length_drop]
  omega

/-! ### Failures by kind -/

/-- Counts that say how often each kind occurs in a list, and hold no kind that does not. -/
structure Tallies (kinds : List Kind) (counts : List (Kind × Nat)) : Prop where
  distinct : (counts.map Prod.fst).Nodup
  lookup : ∀ k, counts.lookup k = if kinds.count k = 0 then none else some (kinds.count k)

theorem fst_bump (kind : Kind) (counts : List (Kind × Nat)) :
    (bump kind counts).map Prod.fst =
      if kind ∈ counts.map Prod.fst then counts.map Prod.fst else counts.map Prod.fst ++ [kind] := by
  induction counts with
  | nil => rfl
  | cons head rest ih =>
    rw [bump]
    by_cases here : head.1 = kind
    · simp [here]
    · rw [if_neg here, List.map_cons, ih, List.map_cons]
      by_cases later : kind ∈ rest.map Prod.fst
      · rw [if_pos later, if_pos (List.mem_cons_of_mem _ later)]
      · rw [if_neg later, if_neg (List.not_mem_cons_of_ne_of_not_mem (Ne.symm here) later)]
        rfl

/-- The count of one kind grows, and no other count changes. -/
theorem lookup_bumped (kind k : Kind) (counts : List (Kind × Nat)) :
    (bump kind counts).lookup k =
      if k = kind then some ((counts.lookup k).getD 0 + 1) else counts.lookup k := by
  induction counts with
  | nil =>
    rw [bump, List.lookup_cons]
    by_cases same : k = kind
    · rw [if_pos same, beq_iff_eq.mpr same]
      rfl
    · rw [if_neg same, beq_eq_false_iff_ne.mpr same]
  | cons head rest ih =>
    obtain ⟨k', n⟩ := head
    rw [bump]
    by_cases same : k = k'
    · subst same
      by_cases here : k = kind <;> simp [here]
    · have other := beq_eq_false_iff_ne.mpr same
      by_cases here : k' = kind
      · rw [if_pos here, List.lookup_cons, other, if_neg (here ▸ same), List.lookup_cons, other]
      · rw [if_neg here, List.lookup_cons, other, List.lookup_cons, other]
        exact ih

theorem Tallies.bump {kinds : List Kind} {counts : List (Kind × Nat)} (tallies : Tallies kinds counts)
    (kind : Kind) : Tallies (kinds ++ [kind]) (bump kind counts) where
  distinct := by
    rw [fst_bump]
    split
    · exact tallies.distinct
    · next absent => exact List.concat_eq_append ▸ (List.nodup_concat _ kind).mpr ⟨absent, tallies.distinct⟩
  lookup k := by
    rw [lookup_bumped, tallies.lookup, List.count_append]
    by_cases same : k = kind
    · rw [if_pos same, same, List.count_singleton_self, if_neg (Nat.succ_ne_zero _)]
      by_cases first : kinds.count kind = 0 <;> simp [first]
    · rw [if_neg same, List.count_eq_zero_of_not_mem fun mem => same (List.mem_singleton.mp mem), Nat.add_zero]

/-- The counts under the names of their kinds. -/
def named (counts : List (Kind × Nat)) : List (String × Nat) :=
  counts.map fun (k, n) => (k.name, n)

theorem lookup_named (counts : List (Kind × Nat)) (k : Kind) : (named counts).lookup k.name = counts.lookup k := by
  induction counts with
  | nil => rfl
  | cons head rest ih =>
    rw [named, List.map_cons, List.lookup_cons, List.lookup_cons, ← ih]
    by_cases same : k = head.1
    · simp [same]
    · rw [beq_eq_false_iff_ne.mpr same, beq_eq_false_iff_ne.mpr (Kind.name_injective.ne same)]
      rfl

theorem fst_named (counts : List (Kind × Nat)) : (named counts).map Prod.fst = (counts.map Prod.fst).map Kind.name := by
  rw [named, List.map_map, List.map_map]
  rfl

namespace Tallies

variable {kinds : List Kind} {counts : List (Kind × Nat)}

theorem named_distinct (tallies : Tallies kinds counts) : ((named counts).map Prod.fst).Nodup := by
  rw [fst_named]
  exact tallies.distinct.map Kind.name_injective

/-- A name has the number of failures whose kind is called so. -/
theorem lookup_name (tallies : Tallies kinds counts) (name : String) :
    (named counts).lookup name =
      let n := (kinds.map Kind.name).count name
      if n = 0 then none else some n := by
  by_cases called : ∃ k : Kind, k.name = name
  · obtain ⟨k, rfl⟩ := called
    rw [lookup_named, tallies.lookup, List.count_map_of_injective _ _ Kind.name_injective]
  · have unused : (kinds.map Kind.name).count name = 0 :=
      List.count_eq_zero.mpr fun mem => called (by simpa using (List.mem_map.mp mem).imp fun _ => And.right)
    rw [unused, List.lookup_eq_none_iff.mpr]
    · rfl
    · rintro ⟨_, n⟩ mem
      obtain ⟨⟨k, _⟩, -, same⟩ := List.mem_map.mp mem
      cases same
      exact bne_iff_ne.mpr fun same => called ⟨k, same.symm⟩

end Tallies

/-! ### Runs -/

/-- **Counters that are those of some operations,** none of which is a reset. -/
structure Reflects (ops : List Operation) (m : Metrics) : Prop where
  hits : m.hits = ops.countP Operation.isHit
  misses : m.misses = ops.countP Operation.isMiss
  fetches : m.fetches = ops.countP Operation.isFetch
  compiles : m.compiles = ops.countP Operation.isCompile
  renders : m.renders = (ops.filterMap Operation.duration?).length
  durations : m.durations = latest window (ops.filterMap Operation.duration?)
  failures : Tallies (ops.filterMap Operation.kind?) m.failures

theorem reflects_fresh : Reflects [] {} where
  hits := rfl
  misses := rfl
  fetches := rfl
  compiles := rfl
  renders := rfl
  durations := rfl
  failures := ⟨List.nodup_nil, fun _ => rfl⟩

/-- **One operation** that is no reset joins what the counters reflect. -/
theorem Reflects.perform {ops : List Operation} {m : Metrics} (reflects : Reflects ops m) (op : Operation)
    (goesOn : op.isReset = false) : Reflects (ops ++ [op]) (m.perform op) where
  hits := by
    rw [List.countP_append, ← reflects.hits]
    cases op <;> first | rfl | cases goesOn
  misses := by
    rw [List.countP_append, ← reflects.misses]
    cases op <;> first | rfl | cases goesOn
  fetches := by
    rw [List.countP_append, ← reflects.fetches]
    cases op <;> first | rfl | cases goesOn
  compiles := by
    rw [List.countP_append, ← reflects.compiles]
    cases op <;> first | rfl | cases goesOn
  renders := by
    rw [List.filterMap_append, List.length_append, ← reflects.renders]
    cases op <;> first | rfl | cases goesOn
  durations := by
    rw [List.filterMap_append]
    cases op with
    | reset => cases goesOn
    | render d =>
      rw [show [Operation.render d].filterMap Operation.duration? = [d] from rfl, ← latest_concat,
        ← reflects.durations, Metrics.perform, recordRender]
    | _ =>
      rw [show [_].filterMap Operation.duration? = [] from rfl, List.append_nil]
      exact reflects.durations
  failures := by
    rw [List.filterMap_append]
    cases op with
    | reset => cases goesOn
    | failure kind => exact reflects.failures.bump kind
    | _ => exact (List.append_nil (List.filterMap _ ops)).symm ▸ reflects.failures

theorem reflects_after (ops : List Operation) : Reflects (sinceReset ops) (after ops) := by
  induction ops using List.reverseRecOn with
  | nil => exact reflects_fresh
  | append_singleton ops op ih =>
    rw [after_concat]
    cases resets : op.isReset with
    | false =>
      rw [sinceReset_concat ops resets]
      exact ih.perform op resets
    | true =>
      cases op with
      | reset =>
        rw [sinceReset_reset]
        exact reflects_fresh
      | _ => cases resets

/-- **The window is exact.** Whatever is recorded, the counters are those of the records since the last reset. With
`n` renders among these, the durations kept are the last `min n 1000` of theirs in the order recorded, and the
average is their sum by their number, or zero if there are none. Failures are a map from the names of kinds, each of
which has the number of failures that bear it. A reset leads back to fresh counters, whatever came before it. -/
theorem window_exact (ops : List Operation) :
    let since := sinceReset ops
    let recorded := since.filterMap Operation.duration?
    let n := recorded.length
    let m := after ops
    m.renders = n ∧
    m.durations = recorded.rtake (min n 1000) ∧
    m.durations.length = min n 1000 ∧
    m.averageRenderTime =
      (if n = 0 then 0.0
      else ((recorded.rtake (min n 1000)).foldl Duration.add (.whole 0)).divideBy (min n 1000)) ∧
    m.hits = since.countP Operation.isHit ∧
    m.misses = since.countP Operation.isMiss ∧
    m.fetches = since.countP Operation.isFetch ∧
    m.compiles = since.countP Operation.isCompile ∧
    ((named m.failures).map Prod.fst).Nodup ∧
    (∀ name, (named m.failures).lookup name =
      let failed := ((since.filterMap Operation.kind?).map Kind.name).count name
      if failed = 0 then none else some failed) ∧
    after (ops ++ [.reset]) = {} ∧
    ∀ more, after (ops ++ .reset :: more) = after more := by
  intro since recorded n m
  have reflects : Reflects since m := reflects_after ops
  have kept : m.durations = recorded.rtake (min n 1000) := by
    have skipped : n - min n 1000 = n - 1000 := by omega
    rw [reflects.durations, List.rtake, skipped]
    rfl
  have length : m.durations.length = min n 1000 := by
    rw [reflects.durations, length_latest, window]
  refine ⟨reflects.renders, kept, length, ?_, reflects.hits, reflects.misses, reflects.fetches, reflects.compiles,
    reflects.failures.named_distinct, reflects.failures.lookup_name, after_concat ops .reset, fun more => ?_⟩
  · have empty : m.durations.isEmpty = true ↔ n = 0 := by
      rw [List.isEmpty_iff_length_eq_zero, length]
      omega
    have mean : m.averageRenderTime = Duration.mean m.durations := rfl
    rw [mean, Duration.mean, length]
    simp only [empty]
    rw [kept]
  · rw [after, List.foldl_append]
    rfl

end Metrics

end Stencil
