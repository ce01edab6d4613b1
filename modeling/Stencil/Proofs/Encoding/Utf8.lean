import Mathlib.Data.List.Basic
import Stencil.Encoding.Name
import Stencil.Proofs.Encoding
import Stencil.Proofs.Encoding.References

/-!
# UTF-8 there and back

Decoding undoes encoding, one code point after the other: the bytes of a code point are taken off as one
piece, whatever follows them.

## Main results

- `Codec.nextUtf8_of_bytes` — a code point is taken off its bytes
- `Codec.decode_of_encode_utf8` — what has been encoded is decoded again
- `Encoding.decode_utf8` — the same under the name of the encoding
-/

namespace Stencil

namespace Codec

/-- A code point that has bytes of its own: it is no surrogate, and not beyond the last one. -/
structure Scalar (c : CodePoint) : Prop where
  last : c ≤ 0x10FFFF
  plain : isSurrogate c = false

theorem utf8Bytes_lt {c : CodePoint} (last : c ≤ 0x10FFFF) : ∀ b ∈ utf8Bytes c, b < 256 := by
  have bounded (n : Nat) (last : n ≤ 0x10FFFF) (b : Nat) (mem : b ∈ utf8Bytes n) : b < 256 := by
    unfold utf8Bytes at mem
    by_cases one : n < 0x80
    · rw [if_pos one] at mem
      obtain rfl := List.mem_singleton.mp mem
      omega
    rw [if_neg one] at mem
    by_cases two : n < 0x800
    · rw [if_pos two] at mem
      simp only [List.mem_cons, List.not_mem_nil, or_false] at mem
      omega
    rw [if_neg two] at mem
    by_cases three : n < 0x10000
    · rw [if_pos three] at mem
      simp only [List.mem_cons, List.not_mem_nil, or_false] at mem
      omega
    · rw [if_neg three] at mem
      simp only [List.mem_cons, List.not_mem_nil, or_false] at mem
      omega
  exact bounded c last

/-! ### Taking a piece off -/

section
variable {b b₁ b₂ b₃ : Nat} (rest : List Nat)

/-- The byte after a leading byte is in the range that the leading byte leaves. -/
def Second (b b₁ : Nat) : Prop :=
  (secondByteRange b).1 ≤ b₁ ∧ b₁ ≤ (secondByteRange b).2

theorem nextUtf8_two (lead : 0xC2 ≤ b ∧ b < 0xE0) (second : Second b b₁) :
    nextUtf8 b (b₁ :: rest) = .ok ((b - 0xC0) * 64 + (b₁ - 0x80), 2) := by
  have inside := not_or.mpr ⟨Nat.not_lt.mpr second.1, Nat.not_lt.mpr second.2⟩
  rw [nextUtf8]
  dsimp only
  rw [if_neg (by omega), if_neg (by omega), if_neg inside, if_pos lead.2]

theorem nextUtf8_three (lead : 0xE0 ≤ b ∧ b < 0xF0) (second : Second b b₁) (third : isTail b₂ = true) :
    nextUtf8 b (b₁ :: b₂ :: rest) =
      .ok ((b - 0xE0) * 4096 + (b₁ - 0x80) * 64 + (b₂ - 0x80), 3) := by
  have inside := not_or.mpr ⟨Nat.not_lt.mpr second.1, Nat.not_lt.mpr second.2⟩
  rw [nextUtf8]
  dsimp only
  rw [if_neg (by omega), if_neg (by omega), if_neg inside, if_neg (by omega), third,
    if_neg (by decide), if_pos lead.2]

theorem nextUtf8_four (lead : 0xF0 ≤ b ∧ b ≤ 0xF4) (second : Second b b₁) (third : isTail b₂ = true)
    (fourth : isTail b₃ = true) : nextUtf8 b (b₁ :: b₂ :: b₃ :: rest) =
      .ok ((b - 0xF0) * 262144 + (b₁ - 0x80) * 4096 + (b₂ - 0x80) * 64 + (b₃ - 0x80), 4) := by
  have inside := not_or.mpr ⟨Nat.not_lt.mpr second.1, Nat.not_lt.mpr second.2⟩
  rw [nextUtf8]
  dsimp only
  rw [if_neg (by omega), if_neg (by omega), if_neg inside, if_neg (by omega), third,
    if_neg (by decide), if_neg (by omega), fourth, if_neg (by decide)]

theorem isTail_of_mod (m : Nat) : isTail (0x80 + m % 64) = true := by
  simp only [isTail, Bool.and_eq_true, decide_eq_true_eq]
  omega

end

/-- **A code point is taken off its bytes**, whatever follows them. -/
theorem nextUtf8_of_bytes {c : CodePoint} (scalar : Scalar c) : ∃ b more, utf8Bytes c = b :: more ∧
    ∀ rest, nextUtf8 b (more ++ rest) = .ok (c, more.length + 1) := by
  have taken (n : Nat) (last : n ≤ 0x10FFFF) (plain : n < 0xD800 ∨ 0xDFFF < n) :
      ∃ b more, utf8Bytes n = b :: more ∧
        ∀ rest, nextUtf8 b (more ++ rest) = .ok (n, more.length + 1) := by
    unfold utf8Bytes
    by_cases one : n < 0x80
    · refine ⟨n, [], if_pos one, fun rest => ?_⟩
      exact if_pos one
    rw [if_neg one]
    by_cases two : n < 0x800
    · refine ⟨_, _, if_pos two, fun rest => ?_⟩
      have second : Second (0xC0 + n / 64) (0x80 + n % 64) := by
        unfold Second secondByteRange
        repeat rw [if_neg (by omega)]
        dsimp only
        omega
      have is : (0xC0 + n / 64 - 0xC0) * 64 + (0x80 + n % 64 - 0x80) = n := by omega
      exact (nextUtf8_two rest (by omega) second).trans (by rw [is]; rfl)
    rw [if_neg two]
    by_cases three : n < 0x10000
    · refine ⟨_, _, if_pos three, fun rest => ?_⟩
      -- the first lead is overlong below its range, the one before the surrogates ends early
      have second : Second (0xE0 + n / 4096) (0x80 + n / 64 % 64) := by
        unfold Second secondByteRange
        split
        · dsimp only
          omega
        split
        · dsimp only
          omega
        · rw [if_neg (by omega), if_neg (by omega)]
          dsimp only
          omega
      have is : (0xE0 + n / 4096 - 0xE0) * 4096 + (0x80 + n / 64 % 64 - 0x80) * 64 +
          (0x80 + n % 64 - 0x80) = n := by omega
      exact (nextUtf8_three rest (by omega) second (isTail_of_mod n)).trans (by rw [is]; rfl)
    · refine ⟨_, _, if_neg three, fun rest => ?_⟩
      have second : Second (0xF0 + n / 262144) (0x80 + n / 4096 % 64) := by
        unfold Second secondByteRange
        rw [if_neg (by omega), if_neg (by omega)]
        split
        · dsimp only
          omega
        split
        · dsimp only
          omega
        · dsimp only
          omega
      have is : (0xF0 + n / 262144 - 0xF0) * 262144 + (0x80 + n / 4096 % 64 - 0x80) * 4096 +
          (0x80 + n / 64 % 64 - 0x80) * 64 + (0x80 + n % 64 - 0x80) = n := by omega
      exact (nextUtf8_four rest (by omega) second (isTail_of_mod _) (isTail_of_mod n)).trans
        (by rw [is]; rfl)
  have plain := scalar.plain
  simp only [isSurrogate, Bool.and_eq_false_iff, decide_eq_false_iff_not, Nat.not_le] at plain
  exact taken c scalar.last plain

/-! ### Whole texts -/

/-- Bytes that belong to a piece are counted down. -/
theorem decodeFrom_skip (codec : Codec) (rule : Replacement) (more rest : List Nat) (offset : Nat) :
    codec.decodeFrom rule offset more.length (more ++ rest) =
      codec.decodeFrom rule (offset + more.length) 0 rest := by
  induction more generalizing offset with
  | nil => rfl
  | cons b more ih =>
    rw [List.length_cons, List.cons_append, decodeFrom, ih, Nat.add_assoc, Nat.add_comm 1]

/-- The bytes of a text are decoded to the text. -/
theorem decodeFrom_utf8 (rule : Replacement) {t : Text} (scalars : ∀ c ∈ t, Scalar c) (offset : Nat) :
    utf8.decodeFrom rule offset 0 (t.flatMap utf8Bytes) = .ok t := by
  induction t generalizing offset with
  | nil => rfl
  | cons c t ih =>
    obtain ⟨b, more, bytes, takes⟩ := nextUtf8_of_bytes (scalars c List.mem_cons_self)
    have next : utf8.next b (more ++ t.flatMap utf8Bytes) = .ok (c, more.length + 1) := takes _
    rw [List.flatMap_cons, bytes, List.cons_append, decodeFrom, next]
    simp only [Nat.add_sub_cancel, decodeFrom_skip]
    rw [ih fun d mem => scalars d (List.mem_cons_of_mem _ mem)]
    rfl

/-- **What has been encoded is decoded again.** -/
theorem decode_of_encode_utf8 (rule : Replacement) {t : Text} (points : ∀ c ∈ t, c ≤ 0x10FFFF)
    {bytes : Bytes} (encoded : utf8.encode .refuse t = .ok bytes) :
    utf8.decode rule bytes = .ok t := by
  have scalars : ∀ c ∈ t, Scalar c := by
    intro c mem
    have writes := (utf8.encode_succeeds .refuse t).mp ⟨bytes, encoded⟩ c mem
    refine ⟨points c mem, ?_⟩
    cases surrogate : isSurrogate c with
    | false => rfl
    | true =>
      have lacks : utf8.unit? c = none := if_pos surrogate
      rw [Writes, lacks] at writes
      rcases writes with e | e <;> cases e
  have has : ∀ c ∈ t, utf8.unit? c = some (utf8Bytes c) := fun c mem => by
    rw [unit?, if_neg (by rw [(scalars c mem).plain]; decide)]
  have all : utf8.encodeFrom .refuse 0 t = .ok (t.flatMap utf8Bytes) := by
    rw [utf8.encodeFrom_of_has .refuse fun c mem => by rw [has c mem]; rfl]
    exact congrArg Except.ok (List.flatMap_congr fun c mem => by rw [has c mem]; rfl)
  rw [encode, all] at encoded
  obtain rfl := Except.ok.inj encoded
  -- the bytes are kept as numbers
  have kept : ((t.flatMap utf8Bytes).map UInt8.ofNat).map UInt8.toNat = t.flatMap utf8Bytes := by
    rw [List.map_map]
    refine (List.map_congr_left fun b mem => ?_).trans (List.map_id _)
    obtain ⟨c, inside, mem⟩ := List.mem_flatMap.mp mem
    exact UInt8.toNat_ofNat_of_lt' (utf8Bytes_lt (points c inside) b mem)
  change utf8.decodeFrom rule 0 0 (((t.flatMap utf8Bytes).map UInt8.ofNat).map UInt8.toNat) = _
  rw [kept]
  exact decodeFrom_utf8 rule scalars 0

end Codec

/-- **What has been encoded is decoded again** under the name of the encoding. -/
theorem Encoding.decode_utf8 {t : Text} (points : ∀ c ∈ t, c ≤ 0x10FFFF) {bytes : Bytes}
    (encoded : Codec.utf8.encode .refuse t = .ok bytes) :
    Encoding.decode "utf-8" .refuse bytes = .ok (.ok t) := by
  have decoded := Codec.decode_of_encode_utf8 .refuse points encoded
  have checked : checkName "utf-8" = .ok () := rfl
  have found : resolve "utf-8" "decode" = .ok .utf8 := rfl
  rw [Encoding.decode, checked]
  change (if bytes.isEmpty = true then _ else (resolve "utf-8" "decode").bind _) = _
  split
  · next empty =>
    obtain rfl := List.isEmpty_iff.mp empty
    obtain rfl := Except.ok.inj decoded
    rfl
  · rw [found]
    simp only [Except.bind, decoded]
    rfl

end Stencil
