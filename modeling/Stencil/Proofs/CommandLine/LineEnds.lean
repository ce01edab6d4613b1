import Stencil.CommandLine.Run
import Stencil.Proofs.Json.Bounds

/-!
# Line ends in a model

Between the values of a JSON text any blanks may stand, and in its strings there are no line ends. So it
does not matter to what is read whether the line ends have been unified, only to the positions of faults.

## Main definitions

- `CommandLine.Alike` — what is read is the same, and what is left differs in its line ends

## Main results

- `CommandLine.alike` — what is read of a text is what is read of it with unified line ends
- `CommandLine.read_unified` — the same of a whole document
-/

namespace Stencil

namespace CommandLine

open Json

/-! ### Unified line ends -/

@[simp] theorem unify_nil : unifyLineEnds [] = [] := rfl

theorem unify_cons {c : CodePoint} (other : c ≠ 13) (t : Text) :
    unifyLineEnds (c :: t) = c :: unifyLineEnds t := by
  rw [unifyLineEnds]
  · exact fun _ e => absurd e other
  · exact other

theorem unify_append {s : Text} (other : ∀ c ∈ s, c ≠ 13) (t : Text) :
    unifyLineEnds (s ++ t) = s ++ unifyLineEnds t := by
  induction s with
  | nil => rfl
  | cons c s ih =>
    rw [List.cons_append, unify_cons (other c List.mem_cons_self),
      ih fun d mem => other d (List.mem_cons_of_mem c mem), List.cons_append]

/-- What is no line feed has been there before. -/
theorem cons_of_unify {c : CodePoint} {t rest : Text} (mark : c ≠ 10) (is : unifyLineEnds t = c :: rest) :
    ∃ behind, t = c :: behind ∧ rest = unifyLineEnds behind := by
  unfold unifyLineEnds at is
  split at is
  · cases is
  · exact absurd (List.cons.inj is).1.symm mark
  · exact absurd (List.cons.inj is).1.symm mark
  · obtain ⟨rfl, rfl⟩ := List.cons.inj is
    exact ⟨_, rfl, rfl⟩

theorem append_of_unify {s t rest : Text} (marks : ∀ c ∈ s, c ≠ 10) (is : unifyLineEnds t = s ++ rest) :
    ∃ behind, t = s ++ behind ∧ rest = unifyLineEnds behind := by
  induction s generalizing t with
  | nil => exact ⟨t, rfl, is.symm⟩
  | cons c s ih =>
    obtain ⟨behind, rfl, within⟩ := cons_of_unify (marks c List.mem_cons_self) is
    obtain ⟨behind', rfl, last⟩ := ih (fun d mem => marks d (List.mem_cons_of_mem c mem)) within.symm
    exact ⟨behind', rfl, last⟩

/-- A text starts with the same mark as before. -/
theorem head_unify {c : CodePoint} (mark : c ≠ 13 ∧ c ≠ 10) (t : Text) :
    (unifyLineEnds t).head? = some c ↔ t.head? = some c := by
  constructor
  · intro head
    obtain ⟨rest, is⟩ := List.head?_eq_some_iff.mp head
    obtain ⟨behind, rfl, -⟩ := cons_of_unify mark.2 is
    rfl
  · intro head
    obtain ⟨rest, rfl⟩ := List.head?_eq_some_iff.mp head
    rw [unify_cons mark.1]
    rfl

theorem unify_eq_nil {t : Text} : unifyLineEnds t = [] ↔ t = [] := by
  constructor
  · intro is
    unfold unifyLineEnds at is
    split at is
    · rfl
    all_goals cases is
  · rintro rfl
    rfl

theorem length_unify (t : Text) : (unifyLineEnds t).length ≤ t.length := by
  fun_induction unifyLineEnds t with
  | case1 => exact Nat.le_refl _
  | case2 => simp only [List.length_cons]; omega
  | case3 => simp only [List.length_cons]; omega
  | case4 => simp only [List.length_cons]; omega

theorem skip_unify (t : Text) : skip (unifyLineEnds t) = unifyLineEnds (skip t) := by
  fun_induction unifyLineEnds t with
  | case1 => rfl
  | case2 rest ih => exact ih
  | case3 rest _ ih => exact ih
  | case4 c rest _ other ih =>
    cases blank : isBlank c with
    | true =>
      rw [skip, skip, List.dropWhile_cons_of_pos blank, List.dropWhile_cons_of_pos blank]
      exact ih
    | false => rw [skip_cons blank, skip_cons blank, unify_cons other]

/-- Digits are not affected. -/
theorem digits_unify (t : Text) :
    (unifyLineEnds t).takeWhile isAsciiDigit = t.takeWhile isAsciiDigit ∧
      (unifyLineEnds t).dropWhile isAsciiDigit = unifyLineEnds (t.dropWhile isAsciiDigit) := by
  fun_induction unifyLineEnds t with
  | case1 => exact ⟨rfl, rfl⟩
  | case2 rest ih => exact ⟨rfl, rfl⟩
  | case3 rest other ih =>
    refine ⟨rfl, ?_⟩
    rw [List.dropWhile_cons_of_neg (by decide), List.dropWhile_cons_of_neg (by decide), unifyLineEnds]
    exact other
  | case4 c rest _ other ih =>
    cases digit : isAsciiDigit c with
    | true =>
      rw [List.takeWhile_cons_of_pos digit, List.takeWhile_cons_of_pos digit,
        List.dropWhile_cons_of_pos digit, List.dropWhile_cons_of_pos digit]
      exact ⟨congrArg (c :: ·) ih.1, ih.2⟩
    | false =>
      have no : ¬isAsciiDigit c = true := by rw [digit]; decide
      rw [List.takeWhile_cons_of_neg no, List.takeWhile_cons_of_neg no,
        List.dropWhile_cons_of_neg no, List.dropWhile_cons_of_neg no, unify_cons other]
      exact ⟨rfl, rfl⟩

/-! ### Reading alike -/

/-- The container of a fault that a text is too deep. -/
def container? : Fault → Option String
  | .tooDeep container => some container
  | _ => none

/-- What is read is the same, and what is left differs in its line ends. Faults may differ, but not in
whether the text is too deep. -/
inductive Alike {α : Type} : Except Fault (α × Text) → Except Fault (α × Text) → Prop where
  | ok (a : α) (rest : Text) : Alike (.ok (a, rest)) (.ok (a, unifyLineEnds rest))
  | error {fault fault' : Fault} (same : container? fault = container? fault') :
      Alike (.error fault) (.error fault')

theorem Alike.malformed {α : Type} {what what' : String} {rest rest' : Text} :
    Alike (α := α) (.error (.malformed what rest)) (.error (.malformed what' rest')) :=
  .error rfl

theorem Alike.bind {α β : Type} {x y : Except Fault (α × Text)}
    {next next' : α × Text → Except Fault (β × Text)} (alike : Alike x y)
    (further : ∀ a rest, Alike (next (a, rest)) (next' (a, unifyLineEnds rest))) :
    Alike (x >>= next) (y >>= next') := by
  cases alike with
  | ok a rest => exact further a rest
  | error same => exact .error same

theorem Alike.map {α β : Type} {x y : Except Fault (α × Text)} (alike : Alike x y) (f : α → β) :
    Alike (x.map fun (a, rest) => (f a, rest)) (y.map fun (a, rest) => (f a, rest)) := by
  cases alike with
  | ok a rest => exact .ok (f a) rest
  | error same => exact .error same

/-! ### Strings and names -/

theorem hexDigit_of_value {a b c d : CodePoint} (hex : (hexValue? a b c d).isSome = true) :
    ∀ e ∈ [a, b, c, d], (hexDigit? e).isSome = true := by
  simp only [hexValue?] at hex
  intro e mem
  cases isA : hexDigit? a with
  | none =>
    rw [isA] at hex
    cases hex
  | some =>
  cases isB : hexDigit? b with
  | none =>
    rw [isA, isB] at hex
    cases hex
  | some =>
  cases isC : hexDigit? c with
  | none =>
    rw [isA, isB, isC] at hex
    cases hex
  | some =>
  cases isD : hexDigit? d with
  | none =>
    rw [isA, isB, isC, isD] at hex
    cases hex
  | some =>
  simp only [List.mem_cons, List.not_mem_nil, or_false] at mem
  rcases mem with rfl | rfl | rfl | rfl
  · rw [isA]; rfl
  · rw [isB]; rfl
  · rw [isC]; rfl
  · rw [isD]; rfl

/-- No string has a line end in it. -/
theorem no_end_of_chars {s : Text} (chars : Chars s) : ∀ c ∈ s, c ≠ 13 ∧ c ≠ 10 := by
  -- what is special for strings is no line end
  have apart {c : CodePoint} {p : CodePoint → Bool} (holds : p c = true) (cr : p 13 = false)
      (lf : p 10 = false) : c ≠ 13 ∧ c ≠ 10 := by
    constructor
    · rintro rfl
      rw [cr] at holds
      cases holds
    · rintro rfl
      rw [lf] at holds
      cases holds
  induction chars with
  | nil => exact nofun
  | @plain c _ _ _ control _ ih =>
    refine List.forall_mem_cons.mpr ⟨?_, ih⟩
    constructor
    · rintro rfl
      exact control (by decide)
    · rintro rfl
      exact control (by decide)
  | escape known _ ih =>
    refine List.forall_mem_cons.mpr ⟨by decide, List.forall_mem_cons.mpr ⟨?_, ih⟩⟩
    exact apart (p := fun c => (escaped? c).isSome) known rfl rfl
  | unit hex _ ih =>
    have digits := hexDigit_of_value hex
    simp only [List.forall_mem_cons] at digits ⊢
    have mark {c : CodePoint} (digit : (hexDigit? c).isSome = true) : c ≠ 13 ∧ c ≠ 10 :=
      apart (p := fun c => (hexDigit? c).isSome) digit rfl rfl
    exact ⟨by decide, by decide, mark digits.1, mark digits.2.1, mark digits.2.2.1, mark digits.2.2.2.1, ih⟩

theorem alike_string (start start' : Text) (pending : Bool) (acc t : Text) :
    Alike (stringBody start pending acc t) (stringBody start' pending acc (unifyLineEnds t)) := by
  -- a string that is read on either side is read on the other
  cases reads : stringBody start pending acc t with
  | ok found =>
    obtain ⟨s, rest⟩ := found
    obtain ⟨body, chars, rfl⟩ := stringBody_sound reads
    obtain ⟨s', complete⟩ := stringBody_complete chars pending acc
    obtain rfl : s' = s := (Prod.mk.inj (Except.ok.inj ((complete start rest).symm.trans reads))).1
    have same : unifyLineEnds (body ++ 34 :: rest) = body ++ 34 :: unifyLineEnds rest := by
      rw [unify_append (fun c mem => (no_end_of_chars chars c mem).1), unify_cons (by decide)]
    rw [same, complete]
    exact .ok s' rest
  | error fault =>
    obtain ⟨what, rest, rfl⟩ := stringBody_error reads
    cases reads' : stringBody start' pending acc (unifyLineEnds t) with
    | error fault' =>
      obtain ⟨what', rest', rfl⟩ := stringBody_error reads'
      exact .malformed
    | ok found =>
      obtain ⟨s, rest'⟩ := found
      obtain ⟨body, chars, spells⟩ := stringBody_sound reads'
      obtain ⟨behind, rfl, within⟩ := append_of_unify (fun c mem => (no_end_of_chars chars c mem).2) spells
      obtain ⟨rest, rfl, -⟩ := cons_of_unify (by decide) within.symm
      obtain ⟨s', complete⟩ := stringBody_complete chars pending acc
      cases (complete start rest).symm.trans reads

theorem alike_name (t : Text) : Alike (memberName t) (memberName (unifyLineEnds t)) := by
  unfold memberName
  split
  · next rest =>
    rw [unify_cons (by decide)]
    refine (alike_string _ _ false [] rest).bind fun name rest => ?_
    dsimp only
    rw [skip_unify]
    split
    · next colon found =>
      rw [found, unify_cons (by decide)]
      change Alike _ (.ok (name, skip (unifyLineEnds colon)))
      rw [skip_unify]
      exact .ok name _
    · next other =>
      split
      · next colon found =>
        obtain ⟨behind, is, -⟩ := cons_of_unify (by decide) found
        exact absurd is (other behind)
      · exact .malformed
  · next other =>
    split
    · next rest found =>
      obtain ⟨behind, is, -⟩ := cons_of_unify (by decide) found
      exact absurd is (other behind)
    · exact .malformed

/-! ### Numbers and words -/

theorem minus_unify (t : Text) : minus (unifyLineEnds t) = ((minus t).1, unifyLineEnds (minus t).2) := by
  by_cases head : t.head? = some 45
  · obtain ⟨rest, rfl⟩ := List.head?_eq_some_iff.mp head
    rw [unify_cons (by decide)]
    rfl
  · have same := mt (head_unify (by decide) t).mp head
    rw [minus_of_head head, minus_of_head same]

theorem whole_unify (t : Text) : whole (unifyLineEnds t) = ((whole t).1, unifyLineEnds (whole t).2) := by
  by_cases head : t.head? = some 48
  · obtain ⟨rest, rfl⟩ := List.head?_eq_some_iff.mp head
    rw [unify_cons (by decide)]
    rfl
  · have plain {t : Text} (head : t.head? ≠ some 48) :
        whole t = (t.takeWhile isAsciiDigit, t.dropWhile isAsciiDigit) := by
      unfold whole
      split
      · exact absurd rfl head
      · rfl
    obtain ⟨taken, left⟩ := digits_unify t
    rw [plain head, plain (mt (head_unify (by decide) t).mp head), taken, left]

theorem fraction_unify (t : Text) :
    fraction (unifyLineEnds t) = ((fraction t).1, unifyLineEnds (fraction t).2) := by
  by_cases head : t.head? = some 46
  · obtain ⟨rest, rfl⟩ := List.head?_eq_some_iff.mp head
    obtain ⟨taken, left⟩ := digits_unify rest
    rw [unify_cons (by decide), fraction, fraction, taken, left]
    split
    · rw [unify_cons (by decide)]
    · rfl
  · have plain {t : Text} (head : t.head? ≠ some 46) : fraction t = ([], t) := by
      unfold fraction
      split
      · exact absurd rfl head
      · rfl
    rw [plain head, plain (mt (head_unify (by decide) t).mp head)]

theorem sign_unify (t : Text) :
    Numeral.sign (unifyLineEnds t) = ((Numeral.sign t).1, unifyLineEnds (Numeral.sign t).2) := by
  by_cases minus : t.head? = some 45
  · obtain ⟨rest, rfl⟩ := List.head?_eq_some_iff.mp minus
    rw [unify_cons (by decide)]
    rfl
  by_cases plus : t.head? = some 43
  · obtain ⟨rest, rfl⟩ := List.head?_eq_some_iff.mp plus
    rw [unify_cons (by decide)]
    rfl
  have plain {t : Text} (minus : t.head? ≠ some 45) (plus : t.head? ≠ some 43) :
      Numeral.sign t = (false, t) := by
    unfold Numeral.sign
    split
    · exact absurd rfl minus
    · exact absurd rfl plus
    · rfl
  rw [plain minus plus, plain (mt (head_unify (by decide) t).mp minus)
    (mt (head_unify (by decide) t).mp plus)]

theorem exponent_unify (t : Text) :
    exponent (unifyLineEnds t) = ((exponent t).1, unifyLineEnds (exponent t).2) := by
  by_cases letter : t.head? = some 101 ∨ t.head? = some 69
  · obtain ⟨c, rest, rfl, marks⟩ : ∃ c rest, t = c :: rest ∧ (c = 101 ∨ c = 69) := by
      rcases letter with head | head
      · obtain ⟨rest, is⟩ := List.head?_eq_some_iff.mp head
        exact ⟨_, rest, is, .inl rfl⟩
      · obtain ⟨rest, is⟩ := List.head?_eq_some_iff.mp head
        exact ⟨_, rest, is, .inr rfl⟩
    have other : c ≠ 13 := by
      rcases marks with rfl | rfl
      · decide
      · decide
    obtain ⟨taken, left⟩ := digits_unify (Numeral.sign rest).2
    rw [unify_cons other, exponent, exponent, if_pos marks, if_pos marks, sign_unify]
    dsimp only
    rw [taken, left]
    split
    · rw [unify_cons other]
    · rfl
  · have plain {t : Text} (letter : ¬(t.head? = some 101 ∨ t.head? = some 69)) :
        exponent t = (none, t) := by
      unfold exponent
      split
      · next mark rest =>
        rw [if_neg]
        rintro (rfl | rfl)
        · exact letter (.inl rfl)
        · exact letter (.inr rfl)
      · rfl
    have same : ¬((unifyLineEnds t).head? = some 101 ∨ (unifyLineEnds t).head? = some 69) := by
      rw [head_unify (by decide), head_unify (by decide)]
      exact letter
    rw [plain letter, plain same]

theorem alike_number (limit : Option Nat) (t : Text) :
    Alike (number limit t) (number limit (unifyLineEnds t)) := by
  rw [number, number, minus_unify]
  dsimp only
  rw [whole_unify]
  dsimp only
  split
  · exact .malformed
  rw [fraction_unify]
  dsimp only
  rw [exponent_unify]
  dsimp only
  cases ofParts limit (minus t).1 (whole (minus t).2).1 (fraction (whole (minus t).2).2).1
      (exponent (fraction (whole (minus t).2).2).2).1 with
  | ok j => exact .ok j _
  | error fault => exact .error rfl

theorem word_unify (t : Text) : word? (unifyLineEnds t) = (word? t).map fun (j, rest) =>
    (j, unifyLineEnds rest) := by
  have plain : ∀ w ∈ words, ∀ c ∈ (w.1 : Text), c ≠ 13 ∧ c ≠ 10 := by
    intro w mem
    simp only [words, List.mem_cons, List.not_mem_nil, or_false] at mem
    rcases mem with rfl | rfl | rfl | rfl | rfl | rfl
    all_goals decide
  rw [word?, word?]
  generalize words = all at plain
  induction all with
  | nil => rfl
  | cons w all ih =>
    obtain ⟨word, j⟩ := w
    have mine := plain (word, j) List.mem_cons_self
    have others := ih fun w mem => plain w (List.mem_cons_of_mem _ mem)
    rw [List.findSome?_cons, List.findSome?_cons]
    dsimp only at mine ⊢
    by_cases starts : (word : Text).isPrefixOf t = true
    · obtain ⟨rest, rfl⟩ := List.isPrefixOf_iff_prefix.mp starts
      have same := unify_append (fun c mem => (mine c mem).1) rest
      rw [same, if_pos starts, if_pos (List.isPrefixOf_iff_prefix.mpr (List.prefix_append _ _)),
        List.drop_left, List.drop_left]
      rfl
    · have unlike : ¬(word : Text).isPrefixOf (unifyLineEnds t) = true := by
        intro starts'
        obtain ⟨rest, is⟩ := List.isPrefixOf_iff_prefix.mp starts'
        obtain ⟨behind, rfl, -⟩ := append_of_unify (fun c mem => (mine c mem).2) is.symm
        exact starts (List.isPrefixOf_iff_prefix.mpr (List.prefix_append _ _))
      rw [if_neg starts, if_neg unlike]
      exact others

theorem alike_scalar (limit : Option Nat) (t : Text) :
    Alike (scalar limit t) (scalar limit (unifyLineEnds t)) := by
  rw [scalar, scalar, word_unify]
  cases word? t with
  | some found => exact .ok found.1 found.2
  | none => exact alike_number limit t

/-! ### Values -/

/-- With the same fuel, a text is read alike with unified line ends. -/
structure Unified (limit : Option Nat) (fuel : Nat) : Prop where
  value : ∀ room t, Alike (value limit room fuel t) (value limit room fuel (unifyLineEnds t))
  members : ∀ room acc t,
    Alike (members limit room fuel acc t) (members limit room fuel acc (unifyLineEnds t))
  items : ∀ room acc t, Alike (items limit room fuel acc t) (items limit room fuel acc (unifyLineEnds t))

namespace Unified

variable {limit : Option Nat} {fuel : Nat} (unified : Unified limit fuel) (room : Nat)
include unified

theorem next_object (t : Text) :
    Alike (insideObject limit room fuel t) (insideObject limit room fuel (unifyLineEnds t)) := by
  rw [insideObject, insideObject, skip_unify]
  split
  · next rest found =>
    rw [found, unify_cons (by decide)]
    exact .ok _ rest
  · next other =>
    split
    · next rest found =>
      obtain ⟨behind, is, -⟩ := cons_of_unify (by decide) found
      exact absurd is (other behind)
    · exact unified.members room [] (skip t)

theorem next_array (t : Text) :
    Alike (insideArray limit room fuel t) (insideArray limit room fuel (unifyLineEnds t)) := by
  rw [insideArray, insideArray, skip_unify]
  split
  · next rest found =>
    rw [found, unify_cons (by decide)]
    exact .ok _ rest
  · next other =>
    split
    · next rest found =>
      obtain ⟨behind, is, -⟩ := cons_of_unify (by decide) found
      exact absurd is (other behind)
    · exact unified.items room [] (skip t)

theorem next_value (t : Text) : Alike (Json.value limit room (fuel + 1) t)
    (Json.value limit room (fuel + 1) (unifyLineEnds t)) := by
  obtain ⟨body, rfl⟩ | ⟨body, rfl⟩ | ⟨body, rfl⟩ | other := start_cases t
  · rw [unify_cons (by decide), value_string, value_string]
    exact (alike_string _ _ false [] body).map Json.str
  · rw [unify_cons (by decide)]
    cases room with
    | zero =>
      rw [value_object_deep, value_object_deep]
      exact .error rfl
    | succ room =>
      rw [value_object, value_object]
      exact unified.next_object room body
  · rw [unify_cons (by decide)]
    cases room with
    | zero =>
      rw [value_array_deep, value_array_deep]
      exact .error rfl
    | succ room =>
      rw [value_array, value_array]
      exact unified.next_array room body
  · have other' : ∀ c, (unifyLineEnds t).head? = some c → c ≠ 34 ∧ c ≠ 123 ∧ c ≠ 91 := by
      intro c head
      have unlike (d : CodePoint) (mark : d ≠ 13 ∧ d ≠ 10) (absent : t.head? ≠ some d) : c ≠ d := by
        rintro rfl
        exact absent ((head_unify mark t).mp head)
      exact ⟨unlike 34 (by decide) fun head => (other 34 head).1 rfl,
        unlike 123 (by decide) fun head => (other 123 head).2.1 rfl,
        unlike 91 (by decide) fun head => (other 91 head).2.2 rfl⟩
    rw [value_scalar _ _ _ other, value_scalar _ _ _ other']
    exact alike_scalar limit t

theorem next_members (acc : List (Text × Json)) (t : Text) :
    Alike (Json.members limit room (fuel + 1) acc t)
      (Json.members limit room (fuel + 1) acc (unifyLineEnds t)) := by
  rw [members_succ, members_succ]
  refine (alike_name t).bind fun name behind => (unified.value room behind).bind fun v after => ?_
  rw [membersAfter, membersAfter]
  dsimp only
  rw [skip_unify]
  split
  · next rest found =>
    rw [found, unify_cons (by decide)]
    exact .ok _ rest
  · next rest found =>
    rw [found, unify_cons (by decide)]
    change Alike _ (Json.members limit room fuel _ (skip (unifyLineEnds rest)))
    rw [skip_unify]
    exact unified.members room _ (skip rest)
  · next closed separated =>
    split
    · next rest found =>
      obtain ⟨behind, is, -⟩ := cons_of_unify (by decide) found
      exact absurd is (closed behind)
    · next rest found =>
      obtain ⟨behind, is, -⟩ := cons_of_unify (by decide) found
      exact absurd is (separated behind)
    · exact .malformed

theorem next_items (acc : List Json) (t : Text) :
    Alike (Json.items limit room (fuel + 1) acc t)
      (Json.items limit room (fuel + 1) acc (unifyLineEnds t)) := by
  rw [items_succ, items_succ]
  refine (unified.value room t).bind fun v after => ?_
  rw [itemsAfter, itemsAfter]
  dsimp only
  rw [skip_unify]
  split
  · next rest found =>
    rw [found, unify_cons (by decide)]
    exact .ok _ rest
  · next rest found =>
    rw [found, unify_cons (by decide)]
    change Alike _ (Json.items limit room fuel _ (skip (unifyLineEnds rest)))
    rw [skip_unify]
    exact unified.items room _ (skip rest)
  · next closed separated =>
    split
    · next rest found =>
      obtain ⟨behind, is, -⟩ := cons_of_unify (by decide) found
      exact absurd is (closed behind)
    · next rest found =>
      obtain ⟨behind, is, -⟩ := cons_of_unify (by decide) found
      exact absurd is (separated behind)
    · exact .malformed

end Unified

/-- **What is read of a text** is what is read of it with unified line ends. -/
theorem unified (limit : Option Nat) (fuel : Nat) : Unified limit fuel := by
  induction fuel with
  | zero =>
    constructor
    · intro room t
      rw [Json.value, Json.value]
      exact .malformed
    · intro room acc t
      rw [Json.members, Json.members]
      exact .malformed
    · intro room acc t
      rw [Json.items, Json.items]
      exact .malformed
  | succ fuel ih => exact ⟨ih.next_value, ih.next_members, ih.next_items⟩

/-! ### Documents -/

/-- What is read of documents is the same, or they are faults of the same kind. -/
inductive AlikeRead : Except Fault Json → Except Fault Json → Prop where
  | ok (j : Json) : AlikeRead (.ok j) (.ok j)
  | error {fault fault' : Fault} (same : container? fault = container? fault') :
      AlikeRead (.error fault) (.error fault')

/-- **A document with unified line ends** has the same value, or it is a fault of the same kind. -/
theorem read_unified (limits : Limits) (t : Text) :
    AlikeRead (Json.read (some limits) t) (Json.read (some limits) (unifyLineEnds t)) := by
  rw [Json.read, Json.read]
  by_cases marked : t.head? = some 0xFEFF
  · rw [if_pos marked, if_pos ((head_unify (by decide) t).mpr marked)]
    exact .error rfl
  rw [if_neg marked, if_neg (mt (head_unify (by decide) t).mp marked), skip_unify]
  -- the fuel for either side is enough for both
  have same : value (some limits.digits) limits.nesting (2 * (unifyLineEnds t).length + 2)
      (unifyLineEnds (skip t)) = value (some limits.digits) limits.nesting (2 * t.length + 2)
      (unifyLineEnds (skip t)) := by
    have shorter := length_unify (skip t)
    have less := (suffix_skip t).length_le
    have less' := (suffix_skip (unifyLineEnds t)).length_le
    rw [skip_unify] at less'
    exact value_fuel (by rw [Enough]; omega) (by rw [Enough]; omega)
  change AlikeRead (value (some limits.digits) limits.nesting _ _ >>= _)
    (value (some limits.digits) limits.nesting _ _ >>= _)
  rw [same]
  have alike := (unified (some limits.digits) (2 * t.length + 2)).value limits.nesting (skip t)
  generalize value (some limits.digits) limits.nesting (2 * t.length + 2) (skip t) = x at alike ⊢
  generalize value (some limits.digits) limits.nesting (2 * t.length + 2) (unifyLineEnds (skip t)) = y
    at alike ⊢
  cases alike with
  | error same => exact .error same
  | ok j rest =>
    simp only [bind, Except.bind, skip_unify]
    cases skip rest with
    | nil => exact .ok j
    | cons c behind =>
      cases found : unifyLineEnds (c :: behind) with
      | nil => cases unify_eq_nil.mp found
      | cons c' behind' => exact .error rfl

end CommandLine

end Stencil
