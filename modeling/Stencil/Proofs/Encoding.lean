import Mathlib.Data.List.TakeWhile
import Stencil.Proofs.Compiler

/-!
# Encodings that settings accept

Settings accept every name that stands for a conversion, also for one that is not for text. Under an
accepted name there is only one way in which a conversion to or from texts can fail but for a fault in
what is converted: that the conversion is not for text.

## Main definitions

- `Encoding.isText` — whether a name stands for an encoding of texts
- `Encoding.Accepted` — what settings know of the name of their encoding

## Main results

- `Codec.encodeFrom_succeeds` — a text can be encoded if each of its code points can
- `Encoding.Accepted.decode_cases`, `Encoding.Accepted.encode_cases` — what conversions come to
- `Compiler.compile_cases` — what compiling comes to
-/

namespace Stencil

/-! ### One code point at a time

Neighbours that an encoding does not have are reported together. Whether a text can be encoded is
nevertheless a matter of its single code points. -/

namespace Codec

/-- A code point is in the encoding, or something stands for it. -/
def Writes (codec : Codec) (rule : Replacement) (c : CodePoint) : Prop :=
  (codec.unit? c).isSome = true ∨ (codec.replaced? rule c).isSome = true

/-- What is refused together with a code point that is not in the encoding. -/
theorem run_points (codec : Codec) {c : CodePoint} (rest : Text) (lacks : codec.unit? c = none) :
    let run := if codec.refusesSingly then [c]
      else (c :: rest).takeWhile fun d => (codec.unit? d).isNone
    c ∈ run ∧ ∀ d ∈ run, d ∈ c :: rest ∧ codec.unit? d = none := by
  intro run
  by_cases singly : codec.refusesSingly = true
  · have only : run = [c] := if_pos singly
    rw [only]
    refine ⟨List.mem_singleton.mpr rfl, fun d mem => ?_⟩
    obtain rfl := List.mem_singleton.mp mem
    exact ⟨List.mem_cons_self, lacks⟩
  · have neighbours : run = (c :: rest).takeWhile fun d => (codec.unit? d).isNone := if_neg singly
    rw [neighbours]
    constructor
    · rw [List.takeWhile_cons_of_pos (by rw [lacks]; rfl)]
      exact List.mem_cons_self
    · intro d mem
      have none : (codec.unit? d).isNone = true :=
        List.mem_takeWhile_imp (p := fun d => (codec.unit? d).isNone) mem
      exact ⟨(List.takeWhile_prefix _).subset mem, Option.isNone_iff_eq_none.mp none⟩

/-- **A text can be encoded** by a rule exactly if each of its code points is in the encoding or can be
replaced. -/
theorem encodeFrom_succeeds (codec : Codec) (rule : Replacement) (t : Text) (offset : Nat) :
    (∃ bytes, codec.encodeFrom rule offset t = .ok bytes) ↔ ∀ c ∈ t, codec.Writes rule c := by
  induction t generalizing offset with
  | nil => exact ⟨fun _ c mem => (by cases mem), fun _ => ⟨[], rfl⟩⟩
  | cons c rest ih =>
    have onward (bytes : List Nat) :
        (∃ all, (codec.encodeFrom rule (offset + 1) rest).map (bytes ++ ·) = .ok all) ↔
          ∀ d ∈ rest, codec.Writes rule d := by
      rw [← ih (offset + 1)]
      cases codec.encodeFrom rule (offset + 1) rest with
      | error fault => exact ⟨fun ⟨_, e⟩ => (by cases e), fun ⟨_, e⟩ => (by cases e)⟩
      | ok more => exact ⟨fun _ => ⟨more, rfl⟩, fun _ => ⟨bytes ++ more, rfl⟩⟩
    rw [List.forall_mem_cons, encodeFrom]
    cases has : codec.unit? c with
    | some bytes =>
      rw [Writes, has]
      exact (onward bytes).trans (and_iff_right (.inl rfl)).symm
    | none =>
      obtain ⟨self, inside⟩ := codec.run_points rest has
      dsimp only at self inside ⊢
      generalize (if codec.refusesSingly then [c] else
        (c :: rest).takeWhile fun d => (codec.unit? d).isNone) = run at self inside ⊢
      cases refusable : run.any fun d => (codec.replaced? rule d).isNone with
      | true =>
        -- one of the neighbours can neither be encoded nor be replaced
        obtain ⟨d, mem, unreplaced⟩ := List.any_eq_true.mp refusable
        obtain ⟨among, lacks⟩ := inside d mem
        have unwritten : ¬codec.Writes rule d := by
          rw [Writes, lacks, Option.isNone_iff_eq_none.mp unreplaced]
          rintro (e | e) <;> cases e
        refine ⟨fun ⟨_, e⟩ => (by cases e), fun ⟨first, others⟩ => ?_⟩
        obtain rfl | later := List.mem_cons.mp among
        · exact absurd first unwritten
        · exact absurd (others d later) unwritten
      | false =>
        have stands := List.any_eq_false.mp refusable c self
        cases is : codec.replaced? rule c with
        | none => exact absurd (by rw [is]; rfl) stands
        | some bytes =>
          rw [Writes, is]
          exact (onward bytes).trans (and_iff_right (.inr rfl)).symm

theorem encode_succeeds (codec : Codec) (rule : Replacement) (t : Text) :
    (∃ b, codec.encode rule t = .ok b) ↔ ∀ c ∈ t, codec.Writes rule c := by
  rw [← codec.encodeFrom_succeeds rule t 0, encode]
  cases codec.encodeFrom rule 0 t with
  | error fault => exact ⟨fun ⟨_, e⟩ => (by cases e), fun ⟨_, e⟩ => (by cases e)⟩
  | ok bytes => exact ⟨fun _ => ⟨bytes, rfl⟩, fun _ => ⟨_, rfl⟩⟩

end Codec

/-! ### Names of encodings -/

namespace Encoding

/-- Whether a name stands for an encoding of texts. -/
def isText (name : Text) : Bool :=
  match find name with
  | .codec _ => true
  | .notText | .unknown => false

/-- A name that can be handed over and stands for a conversion. -/
structure Accepted (name : Text) : Prop where
  passes : checkName name = .ok ()
  stands : find name ≠ .unknown

variable {name : Text}

theorem Accepted.resolve_cases (accepted : Accepted name) (converse : String) :
    (isText name = true ∧ ∃ codec, resolve name converse = .ok codec) ∨
    (isText name = false ∧ ∃ f, resolve name converse = .error f ∧ f.kind = .lookup) := by
  rw [isText, resolve]
  cases found : find name with
  | codec codec => exact .inl ⟨rfl, codec, rfl⟩
  | notText => exact .inr ⟨rfl, _, rfl, rfl⟩
  | unknown => exact absurd found accepted.stands

/-- A fault in bytes is reported as one of decoding. -/
theorem kind_of_undecodable {b : Bytes} {reason : String} {f : Failure}
    (undecodable : decode name .refuse b = .ok (.error (reason, f))) : f.kind = .decoding := by
  rw [decode] at undecodable
  obtain ⟨_, _, undecodable⟩ := ok_of_bind undecodable
  split at undecodable
  · cases undecodable
  · obtain ⟨codec, _, undecodable⟩ := ok_of_bind undecodable
    cases decoded : codec.decode .refuse b with
    | ok t => rw [decoded] at undecodable; cases undecodable
    | error fault => rw [decoded] at undecodable; cases undecodable; rfl

/-- A fault in a text is reported as one of encoding. -/
theorem kind_of_unencodable {rule : Replacement} {t : Text} {reason : String} {f : Failure}
    (unencodable : encode name rule t = .ok (.error (reason, f))) : f.kind = .encoding := by
  rw [encode] at unencodable
  obtain ⟨_, _, unencodable⟩ := ok_of_bind unencodable
  obtain ⟨codec, _, unencodable⟩ := ok_of_bind unencodable
  cases encoded : codec.encode rule t with
  | ok b => rw [encoded] at unencodable; cases unencodable
  | error fault =>
    rw [encoded] at unencodable
    cases usable : defect? false rule with
    | some f => rw [usable] at unencodable; cases unencodable
    | none => rw [usable] at unencodable; cases unencodable; rfl

/-- **What decoding comes to**: a text, a fault in the bytes, or nothing if there is something to decode
and the encoding is not for text. -/
theorem Accepted.decode_cases (accepted : Accepted name) (b : Bytes) :
    (∃ t, decode name .refuse b = .ok (.ok t)) ∨
    (∃ reason f, decode name .refuse b = .ok (.error (reason, f))) ∨
    (isText name = false ∧ b ≠ [] ∧ ∃ f, decode name .refuse b = .error f ∧ f.kind = .lookup) := by
  rw [decode, accepted.passes]
  cases b with
  | nil =>
    -- nothing is decoded without looking at what the name stands for
    exact .inl ⟨[], rfl⟩
  | cons x b =>
    obtain ⟨_, codec, is⟩ | ⟨other, f, is, kind⟩ := accepted.resolve_cases "decode"
    · rw [is]
      cases decoded : codec.decode .refuse (x :: b) with
      | ok t => exact .inl ⟨t, by simp [decoded, bind, Except.bind, pure, Except.pure]⟩
      | error fault =>
        refine .inr (.inl ⟨fault.reason, decodeFailure codec (x :: b) fault, ?_⟩)
        simp [decoded, bind, Except.bind, pure, Except.pure, defect?]
    · exact .inr (.inr ⟨other, List.cons_ne_nil x b, f, by rw [is]; rfl, kind⟩)

/-- **What encoding comes to** by a rule that can be used: bytes, a fault in the text, or nothing if the
encoding is not for text. -/
theorem Accepted.encode_cases (accepted : Accepted name) {rule : Replacement}
    (usable : defect? false rule = none) (t : Text) :
    (isText name = true ∧ ∃ b, encode name rule t = .ok (.ok b)) ∨
    (∃ reason f, encode name rule t = .ok (.error (reason, f))) ∨
    (isText name = false ∧ ∃ f, encode name rule t = .error f ∧ f.kind = .lookup) := by
  rw [encode, accepted.passes]
  obtain ⟨text, codec, is⟩ | ⟨other, f, is, kind⟩ := accepted.resolve_cases "encode"
  · rw [is]
    cases encoded : codec.encode rule t with
    | ok b => exact .inl ⟨text, b, by simp [encoded, bind, Except.bind, pure, Except.pure]⟩
    | error fault =>
      refine .inr (.inl ⟨fault.reason, encodeFailure codec t fault, ?_⟩)
      simp [encoded, usable, bind, Except.bind, pure, Except.pure]
  · exact .inr (.inr ⟨other, f, by rw [is]; rfl, kind⟩)

end Encoding

namespace Compiler

variable {c : Compiler}

/-- What cannot be decoded cannot be compiled, because it cannot be decoded. -/
theorem compile_of_undecodable (name : Text) {b : Bytes} {reason : String} {f : Failure}
    (undecodable : Encoding.decode c.encoding .refuse b = .ok (.error (reason, f))) :
    ∃ g, c.compile name b = .error g ∧ g.kind = .compile ∧ g.cause? = some .decoding := by
  rw [compile, undecodable]
  exact ⟨_, rfl, rfl, congrArg some (Encoding.kind_of_undecodable undecodable)⟩

/-- **What compiling comes to**: a template, a compile problem, or nothing if there is something to
decode and the encoding is not for text. -/
theorem compile_cases (accepted : Encoding.Accepted c.encoding) (name : Text) (b : Bytes) :
    (∃ v, c.compile name b = .ok v) ∨ (∃ f, c.compile name b = .error f ∧ f.kind = .compile) ∨
    (Encoding.isText c.encoding = false ∧ b ≠ [] ∧ ∃ f, c.compile name b = .error f ∧
      f.kind = .lookup) := by
  obtain ⟨t, decoded⟩ | ⟨reason, f, undecodable⟩ | ⟨other, filled, f, fails, kind⟩ :=
    accepted.decode_cases b
  · have compiles : c.compile name b = c.compileText name t := by
      rw [compile, decoded]
      rfl
    cases text : c.compileText name t with
    | ok v => exact .inl ⟨v, compiles.trans text⟩
    | error f => exact .inr (.inl ⟨f, compiles.trans text, compileText_kind text⟩)
  · obtain ⟨g, fails, kind, _⟩ := compile_of_undecodable name undecodable
    exact .inr (.inl ⟨g, fails, kind⟩)
  · refine .inr (.inr ⟨other, filled, f, ?_, kind⟩)
    rw [compile, fails]
    rfl

end Compiler

end Stencil
