import Stencil.Text.Letters

/-!
# Names in capitals

The texts that have a given name as their capitals. A letter of the name may stand in them as it is or small, but some
code points beyond ASCII come to letters of ASCII as well, a dotless i and ligatures among them.

## Main definitions

- `Text.strays` — the code points beyond ASCII whose capitals are letters of ASCII
- `Text.Spelling` — a text spells a name, piece by piece

## Main results

- `Text.toName_eq_iff` — the text of a name
- `Text.upper_eq_iff_spelling` — the texts whose capitals are a name in ASCII are its spellings
-/

namespace Stencil

/-- What a table says of a key stands in it. -/
theorem mem_of_lookup_eq_some {α β : Type} [BEq α] [LawfulBEq α] {table : List (α × β)} {key : α} {value : β}
    (found : table.lookup key = some value) : (key, value) ∈ table := by
  obtain ⟨before, after, split, -⟩ := List.lookup_eq_some_iff.mp found
  rw [split]
  exact List.mem_append_right _ List.mem_cons_self

namespace Text

/-- A name without NULs is that of one text only. -/
theorem toName_eq_iff {t : Text} {s : String} (whole : Char.ofNat 0 ∉ s.toList) : t.toName = s ↔ t = s := by
  rw [toName, ofString]
  constructor
  · rintro rfl
    rw [String.toList_ofList] at whole ⊢
    rw [List.map_map]
    -- what is no character would have come to a NUL
    have back (c : CodePoint) (mem : c ∈ t) : (Char.toNat ∘ Char.ofNat) c = id c := by
      have given : Char.ofNat c ≠ Char.ofNat 0 := by
        intro is
        apply whole
        rw [← is]
        exact List.mem_map_of_mem mem
      by_cases valid : c.isValidChar
      · show (Char.ofNat c).toNat = c
        rw [Char.ofNat, dif_pos valid]
        rfl
      · exact absurd (dif_neg valid) given
    rw [List.map_congr_left back, List.map_id]
  · rintro rfl
    have back : Char.ofNat ∘ Char.toNat = id := funext Char.ofNat_toNat
    rw [List.map_map, back, List.map_id, String.ofList_toList]

/-- The code points beyond ASCII whose capitals are letters of ASCII, each with these: sharp s, dotless i, long s and
the Latin ligatures. -/
def strays : List (Nat × Text) := [
  (0xDF, "SS"), (0x131, "I"), (0x17F, "S"), (0xFB00, "FF"), (0xFB01, "FI"), (0xFB02, "FL"), (0xFB03, "FFI"),
  (0xFB04, "FFL"), (0xFB05, "ST"), (0xFB06, "ST")]

/-- A text spells a name in capitals. -/
inductive Spelling : Text → Text → Prop
  | nil : Spelling [] []
  | same {c : Nat} {t name : Text} (ascii : c < 128) (large : ¬(97 ≤ c ∧ c ≤ 122)) (rest : Spelling t name) :
      Spelling (c :: t) (c :: name)
  | small {c : Nat} {t name : Text} (letter : 65 ≤ c ∧ c ≤ 90) (rest : Spelling t name) :
      Spelling ((c + 32) :: t) (c :: name)
  | stray {c : Nat} {piece t name : Text} (mem : (c, piece) ∈ strays) (rest : Spelling t name) :
      Spelling (c :: t) (piece ++ name)

/-! ### One code point -/

theorem upperOf_same {c : Nat} (ascii : c < 128) (large : ¬(97 ≤ c ∧ c ≤ 122)) : upperOf c = [c] := by
  rw [upperOf, if_pos ascii, if_neg (by simpa using large)]

theorem upperOf_small {c : Nat} (letter : 65 ≤ c ∧ c ≤ 90) : upperOf (c + 32) = [c] := by
  rw [upperOf, if_pos (by omega), if_pos (by simp; omega), Nat.add_sub_cancel]

theorem upperOf_stray {c : Nat} {piece : Text} (mem : (c, piece) ∈ strays) : upperOf c = piece := by
  have all : ∀ s ∈ strays, upperOf s.1 = s.2 := by decide +kernel
  exact all _ mem

theorem beyond_of_expansion : ∀ e ∈ Case.upperExpansions, (∃ x ∈ e.2, 128 ≤ x) ∨ e ∈ strays := by
  decide +kernel

/-- A run starts beyond ASCII with its capitals too, or it is the dotless i or the long s alone. -/
theorem beyond_of_run : ∀ run ∈ Case.upperRuns,
    128 ≤ run.1 + run.2.2.2 ∨ run.1 = run.2.1 ∧ (run.1, [Int.toNat (run.1 + run.2.2.2)]) ∈ strays := by
  decide +kernel

/-- What a run leads to ASCII is a stray. -/
theorem stray_of_run {c d : Nat} (along : Case.alongRun? Case.upperRuns c = some d) (low : d < 128) :
    (c, [d]) ∈ strays := by
  obtain ⟨⟨first, last, step, delta⟩, mem, leads⟩ := List.exists_of_findSome?_eq_some along
  simp only [Option.ite_none_right_eq_some, Bool.and_eq_true, decide_eq_true_eq, Option.some.injEq] at leads
  obtain ⟨⟨⟨above, below⟩, -⟩, rfl⟩ := leads
  have starts := beyond_of_run _ mem
  dsimp only at starts
  obtain far | ⟨single, stray⟩ := starts
  · -- along a run the capitals grow with the code point
    exfalso
    omega
  · obtain rfl : c = first := by omega
    exact stray

/-- Nothing else beyond ASCII has capitals in ASCII. -/
theorem stray_of_ascii {c : Nat} (beyond : 128 ≤ c) (ascii : ∀ x ∈ upperOf c, x < 128) :
    (c, upperOf c) ∈ strays := by
  rw [upperOf, if_neg (Nat.not_lt.mpr beyond)] at ascii ⊢
  cases found : Case.upperExpansions.lookup c with
  | some form =>
    rw [found] at ascii
    obtain ⟨x, inside, outside⟩ | stray := beyond_of_expansion _ (mem_of_lookup_eq_some found)
    · exact absurd (ascii x inside) (Nat.not_lt.mpr outside)
    · exact stray
  | none =>
    rw [found] at ascii
    cases along : Case.alongRun? Case.upperRuns c with
    | none =>
      -- the code point stands for itself
      rw [along] at ascii
      exact absurd (ascii c List.mem_cons_self) (Nat.not_lt.mpr beyond)
    | some d =>
      rw [along] at ascii
      exact stray_of_run along (ascii d List.mem_cons_self)

/-! ### Texts -/

/-- The capitals of a spelling are the name. -/
theorem Spelling.upper_eq {t name : Text} (spelling : Spelling t name) : t.upper = name := by
  induction spelling with
  | nil => rfl
  | same ascii large _ ih =>
    rw [upper, List.flatMap_cons, upperOf_same ascii large]
    exact congrArg _ ih
  | small letter _ ih =>
    rw [upper, List.flatMap_cons, upperOf_small letter]
    exact congrArg _ ih
  | stray mem _ ih =>
    rw [upper, List.flatMap_cons, upperOf_stray mem]
    exact congrArg _ ih

/-- A code point in front of a spelling, whose capitals are in ASCII. -/
theorem Spelling.cons {c : Nat} {t name : Text} (ascii : ∀ x ∈ upperOf c, x < 128) (rest : Spelling t name) :
    Spelling (c :: t) (upperOf c ++ name) := by
  by_cases beyond : 128 ≤ c
  · exact .stray (stray_of_ascii beyond ascii) rest
  have low : c < 128 := Nat.not_le.mp beyond
  by_cases letter : 97 ≤ c ∧ c ≤ 122
  · obtain ⟨d, rfl⟩ := Nat.exists_eq_add_of_le' (show 32 ≤ c by omega)
    have capital : 65 ≤ d ∧ d ≤ 90 := by omega
    rw [upperOf_small capital]
    exact .small capital rest
  · rw [upperOf_same low letter]
    exact .same low letter rest

/-- A text spells its own capitals, if they are in ASCII. -/
theorem spelling_upper {t : Text} (ascii : ∀ c ∈ t.upper, c < 128) : Spelling t t.upper := by
  induction t with
  | nil => exact .nil
  | cons c t ih =>
    rw [upper, List.flatMap_cons] at ascii ⊢
    apply Spelling.cons
    · intro x mem
      exact ascii x (List.mem_append_left _ mem)
    · apply ih
      intro x mem
      exact ascii x (List.mem_append_right _ mem)

/-- **The texts whose capitals are a name** in ASCII are its spellings. -/
theorem upper_eq_iff_spelling {t name : Text} (ascii : ∀ c ∈ name, c < 128) : t.upper = name ↔ Spelling t name := by
  refine ⟨fun is => ?_, Spelling.upper_eq⟩
  subst is
  exact spelling_upper ascii

example : Text.upper "_ﬅyles" = "_STYLES" := by decide +kernel

end Text

end Stencil
