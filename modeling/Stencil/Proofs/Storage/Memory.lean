import Mathlib.Algebra.BigOperators.Group.List.Basic
import Mathlib.Algebra.GroupWithZero.Nat
import Mathlib.Data.List.Induction
import Stencil.Proofs.Storage.Spellings
import Stencil.Storage.Memory

/-!
# Sources in memory

A storage in memory, after any operations from any files it had at first: what it replies is told by the
history of these operations alone. A read gives what was stored under the path at last, under whatever
spelling, and reads are counted for each file when they start.

## Main definitions

- `MemoryStorage.Operation.Rewrites` — the operations after which a file is another one, or gone
- `MemoryStorage.LastAdded` — what a history says is stored under a path
- `MemoryStorage.currentFailure?` — the failure that a history says reads raise
- `MemoryStorage.OneFile` — two spellings that address one file

## Main results

- `MemoryStorage.lookup_run` — what is stored after a history
- `MemoryStorage.memory_is_map` — what is replied after a history
-/

namespace Stencil

namespace MemoryStorage

/-! ### Histories -/

/-- An operation that puts a file in place of the file of a path, or removes that. What cannot be encoded is
not stored. -/
def Operation.Rewrites (path : Text) : Operation → Prop
  | add spelled content => Path.normalize spelled = Path.normalize path ∧ ∃ bytes, content.encoded = .ok bytes
  | remove spelled => Path.normalize spelled = Path.normalize path
  | _ => False

/-- The latest addition to the file of a path, after which nothing has rewritten the file. -/
def LastAdded (history : List Operation) (path : Text) (bytes : Bytes) : Prop :=
  ∃ before spelled content after, history = before ++ .add spelled content :: after ∧
    Path.normalize spelled = Path.normalize path ∧ content.encoded = .ok bytes ∧
    ∀ operation ∈ after, ¬operation.Rewrites path

/-- The failure that an operation has reads raise, if it says anything about that. -/
def Operation.failure? : Operation → Option (Option Failure)
  | failing failure => some failure
  | _ => none

/-- The failure that reads raise after a history: none at first, and then what was said at last. -/
def currentFailure? (history : List Operation) : Option Failure :=
  (history.filterMap Operation.failure?).getLast?.join

/-- A read of the file of a path starts. -/
def Operation.starts (path : Text) : Operation → Bool
  | startRead spelled => Path.normalize spelled == Path.normalize path
  | _ => false

/-- A read of any file starts. -/
def Operation.isStart : Operation → Bool
  | startRead _ => true
  | _ => false

/-- Two spellings that address one file: what is added under the first is read under the second. -/
def OneFile (p q : Text) : Prop :=
  ∀ (s : MemoryStorage) (bytes : Bytes), s.failWith = none → (s.add p bytes).serve q = .ok bytes

/-! ### One operation -/

section

variable (s : MemoryStorage)

theorem lookup_cons {β : Type} (key other : Text) (b : β) (rest : List (Text × β)) :
    ((key, b) :: rest).lookup other = if other = key then some b else rest.lookup other := by
  by_cases same : other = key
  · rw [if_pos same, List.lookup_cons, beq_iff_eq.mpr same]
  · rw [if_neg same, List.lookup_cons, beq_eq_false_iff_ne.mpr same]

theorem lookup_filter (files : List (Text × Bytes)) (key other : Text) :
    (files.filter (·.1 != key)).lookup other = if other = key then none else files.lookup other := by
  induction files with
  | nil => simp
  | cons file rest ih =>
    obtain ⟨k, b⟩ := file
    rw [lookup_cons]
    by_cases here : k = key
    · subst here
      rw [List.filter_cons_of_neg (by simp), ih]
      split <;> rfl
    · rw [List.filter_cons_of_pos (by simpa using here), lookup_cons, ih]
      by_cases same : other = k
      · subst same
        rw [if_pos rfl, if_pos rfl, if_neg here]
      · rw [if_neg same, if_neg same]

theorem lookup_add (path : Text) (bytes : Bytes) (key : Text) : (s.add path bytes).files.lookup key =
    if key = Path.normalize path then some bytes else s.files.lookup key := by
  have filed : (s.add path bytes).files =
      (Path.normalize path, bytes) :: s.files.filter (·.1 != Path.normalize path) := rfl
  rw [filed, lookup_cons, lookup_filter]
  split <;> rfl

theorem lookup_remove (path key : Text) : (s.remove path).2.files.lookup key =
    if key = Path.normalize path then none else s.files.lookup key :=
  lookup_filter _ _ _

theorem lookup_countKey (key other : Text) (reads : List (Text × Nat)) :
    ((countKey key reads).lookup other).getD 0 =
      (reads.lookup other).getD 0 + if other = key then 1 else 0 := by
  induction reads with
  | nil =>
    rw [countKey, lookup_cons]
    split <;> rfl
  | cons read rest ih =>
    obtain ⟨k, n⟩ := read
    rw [countKey]
    by_cases here : k = key
    · subst here
      rw [if_pos rfl, lookup_cons, lookup_cons]
      split <;> rfl
    · rw [if_neg here, lookup_cons, lookup_cons]
      by_cases same : other = k
      · subst same
        rw [if_pos rfl, if_pos rfl, if_neg here]
        rfl
      · rw [if_neg same, if_neg same]
        exact ih

theorem readCount_countRead (path other : Text) : (s.countRead path).readCount other =
    s.readCount other + if Path.normalize other = Path.normalize path then 1 else 0 :=
  lookup_countKey _ _ _

theorem totalReads_countRead (path : Text) : (s.countRead path).totalReads = s.totalReads + 1 := by
  have shift (ns : List Nat) (n : Nat) : ns.foldl (· + ·) (n + 1) = ns.foldl (· + ·) n + 1 := by
    induction ns generalizing n with
    | nil => rfl
    | cons k ns ih => rw [List.foldl_cons, Nat.add_right_comm, ih, List.foldl_cons]
  have counts (key : Text) (reads : List (Text × Nat)) (n : Nat) :
      ((countKey key reads).map (·.2)).foldl (· + ·) n = (reads.map (·.2)).foldl (· + ·) n + 1 := by
    induction reads generalizing n with
    | nil => rfl
    | cons head rest ih =>
      rw [countKey]
      split
      · exact shift _ _
      · exact ih _
  exact counts _ s.reads 0

/-- An operation that does not rewrite the file of a path leaves it as it is. -/
theorem lookup_perform {operation : Operation} {path : Text} (other : ¬operation.Rewrites path) :
    (s.perform operation).2.files.lookup (Path.normalize path) = s.files.lookup (Path.normalize path) := by
  cases operation with
  | add spelled content =>
    rw [perform]
    cases encoded : content.encoded with
    | error f => rfl
    | ok bytes =>
      dsimp only
      rw [lookup_add, if_neg]
      intro same
      exact other ⟨same.symm, bytes, encoded⟩
  | remove spelled =>
    rw [perform, lookup_remove, if_neg]
    intro same
    exact other same.symm
  | _ => rfl

theorem failWith_perform (operation : Operation) :
    (s.perform operation).2.failWith = operation.failure?.getD s.failWith := by
  cases operation with
  | add path content =>
    rw [perform]
    cases content.encoded <;> rfl
  | _ => rfl

theorem readCount_perform (operation : Operation) (path : Text) : (s.perform operation).2.readCount path =
    s.readCount path + if operation.starts path then 1 else 0 := by
  cases operation with
  | add spelled content =>
    rw [perform]
    cases content.encoded <;> rfl
  | startRead spelled =>
    rw [perform, readCount_countRead, Operation.starts]
    simp only [beq_iff_eq, eq_comm (a := Path.normalize path)]
  | _ => rfl

/-- **The sum of all counts** is changed by reads only, and by each of them once. -/
theorem totalReads_perform (operation : Operation) : (s.perform operation).2.totalReads =
    s.totalReads + if operation.isStart then 1 else 0 := by
  cases operation with
  | add path content =>
    rw [perform]
    cases content.encoded <;> rfl
  | startRead path => exact s.totalReads_countRead path
  | _ => rfl

end

/-! ### Many operations -/

theorem run_concat (s : MemoryStorage) (history : List Operation) (operation : Operation) :
    s.run (history ++ [operation]) = ((s.run history).perform operation).2 := by
  rw [run, List.foldl_append]
  rfl

/-- An operation that does not rewrite a file does not change what was added to it at last. -/
theorem lastAdded_concat {history : List Operation} {operation : Operation} {path : Text}
    (other : ¬operation.Rewrites path) {bytes : Bytes} :
    LastAdded (history ++ [operation]) path bytes ↔ LastAdded history path bytes := by
  constructor
  · rintro ⟨before, spelled, content, after, is, same, encoded, later⟩
    rcases List.eq_nil_or_concat after with rfl | ⟨after', last, rfl⟩
    · -- the addition cannot be the operation itself
      obtain ⟨-, is⟩ := List.append_inj' is rfl
      obtain rfl := List.singleton_inj.mp is
      exact absurd ⟨same, bytes, encoded⟩ other
    · rw [List.concat_eq_append, ← List.cons_append, ← List.append_assoc] at is
      obtain ⟨rfl, -⟩ := List.append_inj' is rfl
      refine ⟨before, spelled, content, after', rfl, same, encoded, ?_⟩
      intro op mem
      exact later op (by simp [mem])
  · rintro ⟨before, spelled, content, after, rfl, same, encoded, later⟩
    refine ⟨before, spelled, content, after ++ [operation], by simp, same, encoded, ?_⟩
    intro op mem
    obtain mem | mem := List.mem_append.mp mem
    · exact later op mem
    · exact List.mem_singleton.mp mem ▸ other

/-- After an operation that rewrites a file, only this operation can have added to it at last. -/
theorem lastAdded_concat_of_rewrites {history : List Operation} {operation : Operation} {path : Text}
    (rewrites : operation.Rewrites path) {bytes : Bytes} :
    LastAdded (history ++ [operation]) path bytes ↔
      ∃ spelled content, operation = .add spelled content ∧ content.encoded = .ok bytes := by
  constructor
  · rintro ⟨before, spelled, content, after, is, same, encoded, later⟩
    rcases List.eq_nil_or_concat after with rfl | ⟨after', last, rfl⟩
    · obtain ⟨-, is⟩ := List.append_inj' is rfl
      exact ⟨spelled, content, List.singleton_inj.mp is, encoded⟩
    · rw [List.concat_eq_append, ← List.cons_append, ← List.append_assoc] at is
      obtain ⟨-, is⟩ := List.append_inj' is rfl
      obtain rfl := List.singleton_inj.mp is
      exact absurd rewrites (later operation (by simp))
  · rintro ⟨spelled, content, rfl, encoded⟩
    exact ⟨history, spelled, content, [], rfl, rewrites.1, encoded, nofun⟩

/-- **What is stored after a history** is what was added at last. -/
theorem lookup_run (history : List Operation) (path : Text) (bytes : Bytes) :
    (({} : MemoryStorage).run history).files.lookup (Path.normalize path) = some bytes ↔
      LastAdded history path bytes := by
  induction history using List.reverseRecOn with
  | nil =>
    constructor
    · intro stored
      cases stored
    · rintro ⟨before, _, _, _, is, _⟩
      cases before <;> cases is
  | append_singleton history operation ih =>
    rw [run_concat]
    by_cases rewrites : operation.Rewrites path
    · rw [lastAdded_concat_of_rewrites rewrites]
      cases operation with
      | add spelled content =>
        obtain ⟨same, stored, encoded⟩ := rewrites
        rw [perform, encoded]
        dsimp only
        rw [lookup_add, if_pos same.symm]
        constructor
        · intro is
          exact ⟨spelled, content, rfl, encoded.trans (congrArg Except.ok (Option.some.inj is))⟩
        · rintro ⟨_, _, is, encoded'⟩
          obtain ⟨rfl, rfl⟩ := Operation.add.inj is
          exact congrArg some (Except.ok.inj (encoded.symm.trans encoded'))
      | remove spelled =>
        have same : Path.normalize spelled = Path.normalize path := rewrites
        rw [perform, lookup_remove, if_pos same.symm]
        constructor
        · intro is
          cases is
        · rintro ⟨_, _, is, _⟩
          cases is
      | _ => cases rewrites
    · rw [lookup_perform _ rewrites, ih, lastAdded_concat rewrites]

theorem failWith_run (history : List Operation) :
    (({} : MemoryStorage).run history).failWith = currentFailure? history := by
  induction history using List.reverseRecOn with
  | nil => rfl
  | append_singleton history operation ih =>
    rw [run_concat, failWith_perform, ih, currentFailure?, currentFailure?, List.filterMap_append]
    cases said : operation.failure? with
    | none => simp [said]
    | some failure => simp [said]

theorem readCount_run (history : List Operation) (path : Text) :
    (({} : MemoryStorage).run history).readCount path = history.countP (Operation.starts path) := by
  induction history using List.reverseRecOn with
  | nil => rfl
  | append_singleton history operation ih =>
    rw [run_concat, readCount_perform, ih, List.countP_append, List.countP_singleton]

theorem totalReads_run (history : List Operation) :
    (({} : MemoryStorage).run history).totalReads = history.countP Operation.isStart := by
  induction history using List.reverseRecOn with
  | nil => rfl
  | append_singleton history operation ih =>
    rw [run_concat, totalReads_perform, ih, List.countP_append, List.countP_singleton]

/-- The files that a storage has from the start were added one by one. -/
theorem run_of_ofEntries {entries : List (Text × Content)} {start : MemoryStorage}
    (made : ofEntries entries = .ok start) :
    start = ({} : MemoryStorage).run (entries.map fun (path, content) => .add path content) := by
  have onward (entries : List (Text × Content)) (s start : MemoryStorage)
      (made : entries.foldlM (fun s (path, content) => content.encoded.map (s.add path)) s =
        (.ok start : Except Failure MemoryStorage)) :
      start = s.run (entries.map fun (path, content) => .add path content) := by
    induction entries generalizing s with
    | nil => exact (Except.ok.inj made).symm
    | cons entry rest ih =>
      obtain ⟨path, content⟩ := entry
      rw [List.foldlM_cons] at made
      dsimp only at made
      cases encoded : content.encoded with
      | error f =>
        rw [encoded] at made
        cases made
      | ok bytes =>
        rw [encoded] at made
        have first : (s.perform (.add path content)).2 = s.add path bytes := by
          rw [perform, encoded]
        rw [ih (s.add path bytes) made, ← first]
        rfl
  exact onward entries {} start made

/-! ### Spellings -/

/-- What a read replies when reads do not fail. -/
theorem serve_of_fine {s : MemoryStorage} (fine : s.failWith = none) {path : Text} :
    s.serve path = (s.files.lookup (Path.normalize path)).elim (.error (notFound path)) .ok := by
  rw [serve, fine]
  cases s.files.lookup (Path.normalize path) <;> rfl

/-- **Two spellings address one file** exactly if their normal forms are equal. -/
theorem oneFile_iff {p q : Text} : OneFile p q ↔ Path.normalize p = Path.normalize q := by
  have served {s : MemoryStorage} (fine : s.failWith = none) (bytes : Bytes) :
      (s.add p bytes).serve q =
        ((s.add p bytes).files.lookup (Path.normalize q)).elim (.error (notFound q)) .ok :=
    serve_of_fine (s := s.add p bytes) fine
  constructor
  · intro one
    by_contra different
    have read := one {} [] rfl
    rw [served rfl, lookup_add, if_neg fun same => different same.symm] at read
    cases read
  · intro same s bytes fine
    rw [served fine, lookup_add, if_pos same.symm]
    rfl

/-! ### What is replied -/

/-- All reads are counted, each under one of some paths that spell the files read and no file twice. -/
theorem sum_starts {paths : List Text} (distinct : (paths.map Path.normalize).Nodup) {history : List Operation}
    (covers : ∀ p, .startRead p ∈ history → ∃ q ∈ paths, Path.normalize q = Path.normalize p) :
    (paths.map fun path => history.countP (Operation.starts path)).sum = history.countP Operation.isStart := by
  -- of the paths that are told apart, one at most is the one that is read
  have one (p : Text) (paths : List Text) (distinct : (paths.map Path.normalize).Nodup) :
      (paths.map fun path => if Operation.starts path (.startRead p) then 1 else 0).sum =
        if Path.normalize p ∈ paths.map Path.normalize then 1 else 0 := by
    induction paths with
    | nil => rfl
    | cons path paths ih =>
      rw [List.map_cons, List.nodup_cons] at distinct
      rw [List.map_cons, List.sum_cons, ih distinct.2, List.map_cons, Operation.starts]
      by_cases here : Path.normalize p = Path.normalize path
      · have away : Path.normalize p ∉ paths.map Path.normalize := here ▸ distinct.1
        simp [here, here ▸ away]
      · simp [here]
  induction history with
  | nil =>
    simp
  | cons operation history ih =>
    have rest := ih fun p mem => covers p (List.mem_cons_of_mem _ mem)
    simp only [List.countP_cons, List.sum_map_add, rest]
    congr 1
    cases operation with
    | startRead p =>
      obtain ⟨q, mem, same⟩ := covers p List.mem_cons_self
      rw [one p paths distinct, if_pos (same ▸ List.mem_map_of_mem mem)]
      rfl
    | _ => simp [Operation.starts, Operation.isStart]

/-- A storage is made of entries unless one of them cannot be encoded. -/
theorem ofEntries_cases (entries : List (Text × Content)) :
    (∃ f, ofEntries entries = .error f ∧ ∃ entry ∈ entries, entry.2.encoded = .error f) ∨
      ∃ start, ofEntries entries = .ok start := by
  have onward (entries : List (Text × Content)) (s : MemoryStorage) :
      let made := entries.foldlM (fun s (path, content) => content.encoded.map (s.add path)) s
      (∃ f, made = .error f ∧ ∃ entry ∈ entries, entry.2.encoded = .error f) ∨ ∃ start, made = .ok start := by
    induction entries generalizing s with
    | nil => exact .inr ⟨s, rfl⟩
    | cons entry rest ih =>
      obtain ⟨path, content⟩ := entry
      rw [List.foldlM_cons]
      dsimp only
      cases encoded : content.encoded with
      | error f => exact .inl ⟨f, rfl, (path, content), List.mem_cons_self, encoded⟩
      | ok bytes =>
        obtain ⟨f, fails, entry, mem, is⟩ | made := ih (s.add path bytes)
        · exact .inl ⟨f, fails, entry, List.mem_cons_of_mem _ mem, is⟩
        · exact .inr made
  exact onward entries {}

/-- **What a storage replies** after a history is told by the history. Its entries are stored in order, and
the operations follow. Two spellings are of one file exactly if their normal forms are equal. A read raises
the failure that is set; if none is, it gives what was added at last, or says with the path as it is spelled
that nothing is there. A file is found when it is removed exactly if there is one. The count of a path is the
number of reads of its file that have started, failed ones included, and the sum of all counts is that of the
reads of all files, which no other operation changes. -/
theorem memory_is_map (entries : List (Text × Content)) (operations : List Operation) :
    (∃ f, ofEntries entries = .error f ∧ ∃ entry ∈ entries, entry.2.encoded = .error f) ∨
    ∃ start, ofEntries entries = .ok start ∧
      let history := (entries.map fun (path, content) => .add path content) ++ operations
      let s := start.run operations
      (∀ p q, (OneFile p q ↔ Path.normalize p = Path.normalize q) ∧
        (Path.normalize p = Path.normalize q ↔ Path.SpelledAlike p q)) ∧
      (∀ path,
        (∀ f, currentFailure? history = some f → (s.perform (.endRead path)).1 = .error f) ∧
        (currentFailure? history = none →
          (∀ bytes, (s.perform (.endRead path)).1 = .ok (.content bytes) ↔ LastAdded history path bytes) ∧
          ((∀ bytes, ¬LastAdded history path bytes) → ∃ f, (s.perform (.endRead path)).1 = .error f ∧
            f.kind = .notFound ∧ f.problem.path = some path))) ∧
      (∀ path, ∃ there, (s.perform (.remove path)).1 = .ok (.found there) ∧
        (there = true ↔ ∃ bytes, LastAdded history path bytes)) ∧
      (∀ path, (s.perform (.readCount path)).1 = .ok (.count (history.countP (Operation.starts path)))) ∧
      (∀ paths : List Text, (paths.map Path.normalize).Nodup →
        (∀ p, .startRead p ∈ history → ∃ q ∈ paths, Path.normalize q = Path.normalize p) →
        (s.perform .totalReads).1 = .ok (.count (paths.map s.readCount).sum)) ∧
      ∀ operation, (s.perform operation).2.totalReads =
        s.totalReads + if operation.isStart then 1 else 0 := by
  obtain unmade | ⟨start, made⟩ := ofEntries_cases entries
  · exact .inl unmade
  refine .inr ⟨start, made, ?_⟩
  intro history s
  have since : s = ({} : MemoryStorage).run history := by
    have joined : ({} : MemoryStorage).run history =
        (({} : MemoryStorage).run (entries.map fun (path, content) => .add path content)).run operations :=
      List.foldl_append
    rw [joined, ← run_of_ofEntries made]
  have stored (path : Text) (bytes : Bytes) :
      s.files.lookup (Path.normalize path) = some bytes ↔ LastAdded history path bytes :=
    since ▸ lookup_run history path bytes
  have failing : s.failWith = currentFailure? history := since ▸ failWith_run history
  have counted (path : Text) : s.readCount path = history.countP (Operation.starts path) :=
    since ▸ readCount_run history path
  refine ⟨fun p q => ⟨oneFile_iff, Path.normalize_eq_iff⟩, fun path => ⟨fun f set => ?_, fun fine => ?_⟩,
    fun path => ?_, fun path => ?_, fun paths distinct covers => ?_, s.totalReads_perform⟩
  · rw [perform, serve, failing, set]
    rfl
  · have reply : (s.perform (.endRead path)).1 =
        (s.files.lookup (Path.normalize path)).elim (.error (notFound path)) (.ok ∘ .content) := by
      rw [perform, serve_of_fine (failing.trans fine)]
      cases s.files.lookup (Path.normalize path) <;> rfl
    rw [reply]
    constructor
    · intro bytes
      rw [← stored]
      cases s.files.lookup (Path.normalize path) with
      | none => simp
      | some content => simp
    · intro nothing
      cases is : s.files.lookup (Path.normalize path) with
      | none => exact ⟨notFound path, rfl, rfl, rfl⟩
      | some content => exact absurd ((stored path content).mp is) (nothing content)
  · refine ⟨_, rfl, ?_⟩
    rw [remove, Option.isSome_iff_exists]
    exact exists_congr (stored path)
  · rw [perform, counted]
  · have sum : s.totalReads = (paths.map s.readCount).sum := by
      rw [since, totalReads_run, ← sum_starts distinct covers, ← since]
      exact congrArg List.sum (List.map_congr_left fun path _ => (counted path).symm)
    rw [perform, sum]

end MemoryStorage

end Stencil
