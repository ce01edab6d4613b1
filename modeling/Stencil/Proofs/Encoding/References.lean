import Stencil.Proofs.Encoding

/-!
# Encoding with character references

Every encoding has the ASCII characters, and a character reference consists of nothing else. So a text
can always be encoded if what the encoding does not have is written as character references, and the
result is the encoding of a text in which that has been done.

## Main definitions

- `Codec.referenced` — a text with references for what an encoding does not have

## Main results

- `Codec.encode_references` — encoding by references is encoding the text with references
- `Encoding.encode_references` — under every name of an encoding of texts it succeeds
-/

namespace Stencil

namespace Codec

/-- The reference to a code point. -/
def reference (c : CodePoint) : Text :=
  "&#" ++ Text.ofNat c ++ ";"

/-- A text with references for the code points that an encoding does not have. -/
def referenced (codec : Codec) (t : Text) : Text :=
  t.flatMap fun c => if (codec.unit? c).isSome then [c] else reference c

variable {codec : Codec}

/-- Every encoding has the ASCII characters. -/
theorem isSome_unit_of_ascii (codec : Codec) {c : CodePoint} (ascii : c < 128) :
    (codec.unit? c).isSome = true := by
  have each : ∀ codec ∈ [utf8, utf8Marked, .ascii, latin1, latin9, windows1252, utf16 none,
      utf16 (some .little), utf16 (some .big), utf32 none, utf32 (some .little), utf32 (some .big)],
      ∀ c < 128, (unit? codec c).isSome = true := by
    decide +kernel
  refine each codec ?_ c ascii
  cases codec with
  | utf16 order | utf32 order =>
    cases order with
    | none => decide
    | some order => cases order <;> decide
  | _ => decide

/-- A decimal numeral consists of digits. -/
theorem ofNat_digits (n : Nat) : ∀ c ∈ Text.ofNat n, 48 ≤ c ∧ c ≤ 57 := by
  intro c mem
  obtain ⟨digit, shown, rfl⟩ := List.mem_map.mp mem
  rw [Nat.repr_eq_ofList_toDigits, String.toList_ofList] at shown
  have digits := Nat.isDigit_of_mem_toDigits (by decide) (by decide) shown
  rw [Char.isDigit, Bool.and_eq_true, decide_eq_true_eq, decide_eq_true_eq] at digits
  exact ⟨UInt32.le_iff_toNat_le.mp digits.1, UInt32.le_iff_toNat_le.mp digits.2⟩

/-- A reference consists of digits between its marks. -/
theorem reference_points (c : CodePoint) :
    ∀ d ∈ reference c, (48 ≤ d ∧ d ≤ 57) ∨ d = 38 ∨ d = 35 ∨ d = 59 := by
  intro d mem
  rw [reference, List.mem_append, List.mem_append] at mem
  obtain (mem | mem) | mem := mem
  · right
    revert d
    decide
  · exact .inl (ofNat_digits c d mem)
  · right
    revert d
    decide

theorem reference_ascii (c : CodePoint) : ∀ d ∈ reference c, d < 128 := by
  intro d mem
  obtain ⟨_, high⟩ | rfl | rfl | rfl := reference_points c d mem
  · exact Nat.lt_of_le_of_lt high (by decide)
  all_goals decide

/-- A text of which the encoding has everything is encoded one code point after the other. -/
theorem encodeFrom_of_has (rule : Replacement) {t : Text}
    (has : ∀ c ∈ t, (codec.unit? c).isSome = true) : ∀ offset,
      codec.encodeFrom rule offset t = .ok (t.flatMap fun c => (codec.unit? c).getD []) := by
  induction t with
  | nil => exact fun offset => rfl
  | cons c t ih =>
    intro offset
    obtain ⟨bytes, is⟩ := Option.isSome_iff_exists.mp (has c List.mem_cons_self)
    rw [encodeFrom, is, List.flatMap_cons, is]
    simp only [ih (fun c mem => has c (List.mem_cons_of_mem _ mem)) (offset + 1)]
    rfl

theorem referenced_has (t : Text) : ∀ c ∈ codec.referenced t, (codec.unit? c).isSome = true := by
  intro c mem
  obtain ⟨d, _, mem⟩ := List.mem_flatMap.mp mem
  split at mem
  · next has =>
    obtain rfl := List.mem_singleton.mp mem
    exact has
  · exact isSome_unit_of_ascii codec (reference_ascii d c mem)

/-- What stands for a code point is the encoding of the reference to it. -/
theorem replaced_reference (c : CodePoint) : codec.replaced? .characterReference c =
    some ((reference c).flatMap fun d => (codec.unit? d).getD []) := by
  have units : ∀ t : Text, (∀ d ∈ t, d < 128) →
      (t.mapM codec.unit?).map List.flatten = some (t.flatMap fun d => (codec.unit? d).getD []) := by
    intro t
    induction t with
    | nil => exact fun _ => rfl
    | cons d t ih =>
      intro ascii
      obtain ⟨bytes, is⟩ := Option.isSome_iff_exists.mp
        (isSome_unit_of_ascii codec (ascii d List.mem_cons_self))
      have rest := ih fun d mem => ascii d (List.mem_cons_of_mem _ mem)
      obtain ⟨parts, parted, flat⟩ := Option.map_eq_some_iff.mp rest
      rw [List.mapM_cons, is, parted, List.flatMap_cons, is, ← flat]
      rfl
  exact units _ (reference_ascii c)

/-- **Encoding by references** is encoding the text with references, and it always succeeds. -/
theorem encode_references (codec : Codec) (t : Text) : ∃ bytes,
    codec.encode .characterReference t = .ok bytes ∧
      codec.encode .refuse (codec.referenced t) = .ok bytes := by
  have whole : ∀ (t : Text) (offset : Nat), codec.encodeFrom .characterReference offset t =
      .ok ((codec.referenced t).flatMap fun c => (codec.unit? c).getD []) := by
    intro t
    induction t with
    | nil => exact fun offset => rfl
    | cons c t ih =>
      intro offset
      rw [encodeFrom, referenced, List.flatMap_cons, List.flatMap_append, ← referenced]
      cases has : codec.unit? c with
      | some bytes =>
        simp only [ih (offset + 1)]
        simp [has, Except.map]
      | none =>
        -- no neighbour can be refused
        have none (run : Text) : (run.any fun c =>
            (codec.replaced? .characterReference c).isNone) = false := by
          rw [List.any_eq_false]
          intro c _
          rw [replaced_reference]
          exact Bool.false_ne_true
        simp only [none, Bool.false_eq_true, if_false]
        rw [replaced_reference, ih (offset + 1)]
        rfl
  let bytes := (codec.referenced t).flatMap fun c => (codec.unit? c).getD []
  refine ⟨(codec.leadingMark ++ bytes).map UInt8.ofNat, ?_, ?_⟩
  · rw [encode, whole]
    rfl
  · rw [encode, encodeFrom_of_has .refuse (referenced_has t)]
    rfl

end Codec

/-- **Under every accepted name** of an encoding of texts, encoding by references succeeds. -/
theorem Encoding.encode_references {name : Text} (accepted : Accepted name) (text : isText name = true)
    (t : Text) : ∃ codec bytes, find name = .codec codec ∧
      encode name .characterReference t = .ok (.ok bytes) ∧
      codec.encode .refuse (codec.referenced t) = .ok bytes := by
  cases found : find name with
  | codec codec =>
    obtain ⟨bytes, is, is'⟩ := codec.encode_references t
    refine ⟨codec, bytes, rfl, ?_, is'⟩
    rw [encode, accepted.passes, resolve, found]
    simp [is, bind, Except.bind, pure, Except.pure]
  | notText | unknown =>
    rw [isText, found] at text
    cases text

end Stencil
