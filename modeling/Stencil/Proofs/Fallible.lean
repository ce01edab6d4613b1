/-!
# Steps that may fail

Of steps that are taken one after the other, the first that fails decides how all of them end.

## Main results

- `error_of_bind`, `ok_of_bind` — two steps
- `error_of_mapM` — one step for each element of a list
-/

namespace Stencil

variable {ε α β : Type}

/-- What fails with a failure in it fails in one of its two parts. -/
theorem error_of_bind {x : Except ε α} {next : α → Except ε β} {e : ε}
    (fails : (x >>= next) = .error e) : x = .error e ∨ ∃ a, x = .ok a ∧ next a = .error e := by
  cases x with
  | error e' => exact .inl (congrArg Except.error (Except.error.inj fails))
  | ok a => exact .inr ⟨a, rfl, fails⟩

/-- What succeeds succeeds in both of its parts. -/
theorem ok_of_bind {x : Except ε α} {next : α → Except ε β} {b : β}
    (succeeds : (x >>= next) = .ok b) : ∃ a, x = .ok a ∧ next a = .ok b := by
  cases x with
  | error e => cases succeeds
  | ok a => exact ⟨a, rfl, succeeds⟩

/-- A list cannot be gone through because of one of its elements. -/
theorem error_of_mapM {f : α → Except ε β} {l : List α} {e : ε}
    (fails : l.mapM f = .error e) : ∃ a ∈ l, f a = .error e := by
  induction l with
  | nil => cases fails
  | cons a l ih =>
    rw [List.mapM_cons] at fails
    obtain fails | ⟨_, _, fails⟩ := error_of_bind fails
    · exact ⟨a, List.mem_cons_self, fails⟩
    · obtain fails | ⟨_, _, fails⟩ := error_of_bind fails
      · obtain ⟨a', mem, fails⟩ := ih fails
        exact ⟨a', List.mem_cons_of_mem a mem, fails⟩
      · cases fails

end Stencil
