import Mathlib.Data.List.TakeWhile
import Mathlib.Tactic.Ring
import Stencil.Text.Numeral

/-!
# Integers as they are spelled

The grammar of a decimal integer: blanks around it, an optional sign, and digits of any script with single
underscores between them. Reading an integer is shown to accept just these texts, and each with its value.

## Main definitions

- `Numeral.Grouped` — digits with single underscores between them
- `Numeral.Spells` — a text spells an integer

## Main results

- `Numeral.readInt?_eq_some_iff` — what is read as an integer is what spells it
- `Numeral.Spells.lt` — an integer is below the power of ten that its digits are fewer than
-/

namespace Stencil

namespace Text

/-- What stands between blanks is left when blanks are trimmed. -/
theorem trim_between {p : CodePoint → Bool} {left body right : Text} (before : ∀ c ∈ left, p c = true)
    (after : ∀ c ∈ right, p c = true) (first : ∀ c, body.head? = some c → p c = false)
    (last : ∀ c, body.getLast? = some c → p c = false) (some : body ≠ []) :
    (left ++ body ++ right).trim p = body := by
  have started : (left ++ (body ++ right)).dropWhile p = body ++ right := by
    rw [List.dropWhile_append_of_pos before]
    cases body with
    | nil => exact absurd rfl some
    | cons c body => rw [List.cons_append, List.dropWhile_cons_of_neg (by simp [first c rfl])]
  rw [trim, trimLeft, trimRight, List.append_assoc, started, List.reverse_append,
    List.dropWhile_append_of_pos fun c mem => after c (List.mem_reverse.mp mem)]
  have ended : body.reverse.dropWhile p = body.reverse := by
    cases reversed : body.reverse with
    | nil => rfl
    | cons c rest =>
      have is : body.getLast? = Option.some c := by rw [← List.head?_reverse, reversed]; rfl
      rw [List.dropWhile_cons_of_neg (by simp [last c is])]
  rw [ended, List.reverse_reverse]

/-- A text is what is left of it between what is trimmed. -/
theorem exists_trim (p : CodePoint → Bool) (t : Text) : ∃ left right, t = left ++ t.trim p ++ right ∧
    (∀ c ∈ left, p c = true) ∧ ∀ c ∈ right, p c = true := by
  refine ⟨t.takeWhile p, ((t.dropWhile p).reverse.takeWhile p).reverse, ?_, ?_, ?_⟩
  · rw [trim, trimLeft, trimRight, List.append_assoc, ← List.reverse_append, List.takeWhile_append_dropWhile,
      List.reverse_reverse, List.takeWhile_append_dropWhile]
  · exact fun c mem => List.mem_takeWhile_imp mem
  · exact fun c mem => List.mem_takeWhile_imp (List.mem_reverse.mp mem)

end Text

namespace Numeral

/-! ### Digits -/

/-- Digits by their values, with single underscores between some of them. -/
inductive Grouped : Text → List Nat → Prop
  | last {c : CodePoint} {v : Nat} (digit : decimalValue? c = some v) : Grouped [c] [v]
  | next {c : CodePoint} {v : Nat} {t : Text} {vs : List Nat} (digit : decimalValue? c = some v)
      (rest : Grouped t vs) : Grouped (c :: t) (v :: vs)
  | split {c : CodePoint} {v : Nat} {t : Text} {vs : List Nat} (digit : decimalValue? c = some v)
      (rest : Grouped t vs) : Grouped (c :: 95 :: t) (v :: vs)

/-- The value of digits, most significant first. -/
def ofDigits (vs : List Nat) : Nat :=
  vs.foldl (fun n v => n * 10 + v) 0

/-- A text spells an integer: blanks, a sign, digits in groups, blanks. -/
def Spells (t : Text) (i : Int) : Prop :=
  ∃ left sign body right vs, t = left ++ (sign ++ body) ++ right ∧ (∀ c ∈ left, isSpace c = true) ∧
    (∀ c ∈ right, isSpace c = true) ∧ Grouped body vs ∧
    ((sign = [45] ∧ i = -(ofDigits vs : Int)) ∨ ((sign = [] ∨ sign = [43]) ∧ i = ofDigits vs))

theorem decimalValue_lt {c : CodePoint} {v : Nat} (digit : decimalValue? c = some v) : v < 10 := by
  rw [decimalValue?] at digit
  split at digit
  · split at digit
    · next ascii =>
      rw [isAsciiDigit, Bool.and_eq_true, decide_eq_true_eq, decide_eq_true_eq] at ascii
      obtain rfl := Option.some.inj digit
      omega
    · cases digit
  · obtain ⟨r, _, rfl⟩ := Option.map_eq_some_iff.mp digit
    exact Nat.mod_lt _ (by decide)

/-- A digit is no blank. -/
theorem not_space_of_digit {c v : Nat} (digit : decimalValue? c = some v) :
    isSpace c = false := by
  have apart : ∀ r ∈ Property.decimalRanges, ∀ s ∈ Property.spaceRanges, r.2 < s.1 ∨ s.2 < r.1 := by
    decide +kernel
  rw [decimalValue?] at digit
  rw [isSpace]
  split at digit
  · next small =>
    split at digit
    · next ascii =>
      rw [isAsciiDigit, Bool.and_eq_true, decide_eq_true_eq, decide_eq_true_eq] at ascii
      simp only [small, if_true, Bool.or_eq_false_iff, Bool.and_eq_false_iff, decide_eq_false_iff_not]
      omega
    · cases digit
  · next large =>
    obtain ⟨r, found, _⟩ := Option.map_eq_some_iff.mp digit
    rw [if_neg large, Bool.eq_false_iff]
    intro blank
    have inside := List.find?_some found
    obtain ⟨s, mem, within⟩ : ∃ s ∈ Property.spaceRanges, s.1 ≤ c ∧ c ≤ s.2 := by
      simpa [Property.member] using blank
    simp only [Bool.and_eq_true, decide_eq_true_eq] at inside
    have := apart r (List.mem_of_find?_eq_some found) s mem
    omega

/-! ### Reading -/

/-- In base ten no letter is a digit. -/
theorem digitValue?_ten (c : Nat) :
    (digitValue? c).bind (fun d => if d < 10 then some d else none) = decimalValue? c := by
  rw [digitValue?]
  cases is : decimalValue? c with
  | some v => exact if_pos (decimalValue_lt is)
  | none =>
    dsimp only
    split
    · next letter =>
      rw [Bool.and_eq_true, decide_eq_true_eq, decide_eq_true_eq] at letter
      have above : 97 ≤ c := letter.1
      exact if_neg (by omega)
    · split
      · next letter =>
        rw [Bool.and_eq_true, decide_eq_true_eq, decide_eq_true_eq] at letter
        have above : 65 ≤ c := letter.1
        exact if_neg (by omega)
      · rfl

theorem value?_ten (t : Text) (n : Nat) : value? 10 t = some n ↔
    ∃ vs : List Nat, t.map decimalValue? = vs.map some ∧ n = ofDigits vs := by
  have onward (t : Text) (start : Nat) : t.foldlM (fun n c => do
      let d ← digitValue? c
      if d < 10 then some (n * 10 + d) else none) start = some n ↔
      ∃ vs : List Nat, t.map decimalValue? = vs.map some ∧ n = vs.foldl (fun n v => n * 10 + v) start := by
    induction t generalizing start with
    | nil =>
      constructor
      · intro is
        exact ⟨[], rfl, (Option.some.inj is).symm⟩
      · rintro ⟨vs, none, rfl⟩
        obtain rfl := List.map_eq_nil_iff.mp none.symm
        rfl
    | cons c t ih =>
      have one : (do
          let d ← digitValue? c
          if d < 10 then some (start * 10 + d) else none) =
          (decimalValue? c).map fun v => start * 10 + v := by
        rw [← digitValue?_ten]
        cases digitValue? c with
        | none => rfl
        | some d => by_cases small : d < 10 <;> simp [small]
      rw [List.foldlM_cons, one]
      cases is : decimalValue? c with
      | none =>
        constructor
        · intro fails
          cases fails
        · rintro ⟨vs, same, -⟩
          cases vs with
          | nil => cases same
          | cons v vs =>
            rw [List.map_cons, is] at same
            cases same
      | some v =>
        refine (ih (start * 10 + v)).trans ⟨?_, ?_⟩
        · rintro ⟨vs, same, rfl⟩
          exact ⟨v :: vs, by rw [List.map_cons, is, same, List.map_cons], rfl⟩
        · rintro ⟨vs, same, rfl⟩
          cases vs with
          | nil => cases same
          | cons w vs =>
            rw [List.map_cons, is, List.map_cons] at same
            obtain ⟨first, rest⟩ := List.cons.inj same
            obtain rfl := Option.some.inj first
            exact ⟨vs, rest, rfl⟩
  exact onward t 0

/-- Without its underscores, what was digits in groups is digits. It does not matter whether a digit came
before. -/
theorem Grouped.withoutUnderscores {t : Text} {vs : List Nat} (grouped : Grouped t vs) (after : Bool) :
    ∃ digits, withoutUnderscores?.go after t = some digits ∧ digits.map decimalValue? = vs.map some := by
  have other {c : CodePoint} {v : Nat} (digit : decimalValue? c = some v) : c ≠ 95 := by
    rintro rfl
    cases digit
  induction grouped generalizing after with
  | @last c v digit =>
    refine ⟨[c], ?_, by rw [List.map_singleton, digit]; rfl⟩
    rw [withoutUnderscores?.go.eq_3 after c [] (other digit)]
    rfl
  | @next c v t vs digit rest ih =>
    obtain ⟨digits, is, values⟩ := ih true
    refine ⟨c :: digits, ?_, by rw [List.map_cons, digit, values]; rfl⟩
    rw [withoutUnderscores?.go.eq_3 after c t (other digit), is]
    rfl
  | @split c v t vs digit rest ih =>
    obtain ⟨digits, is, values⟩ := ih false
    refine ⟨c :: digits, ?_, by rw [List.map_cons, digit, values]; rfl⟩
    rw [withoutUnderscores?.go.eq_3 after c _ (other digit), withoutUnderscores?.go.eq_2, if_pos rfl, is]
    rfl

/-- What becomes digits without its underscores was digits in groups. Behind a digit it may also be nothing
at all, or start with an underscore. -/
theorem grouped_of_withoutUnderscores {t : Text} {after : Bool} {digits : Text} {vs : List Nat}
    (is : withoutUnderscores?.go after t = some digits) (values : digits.map decimalValue? = vs.map some) :
    Grouped t vs ∨ (after = true ∧ ((t = [] ∧ vs = []) ∨ ∃ rest, t = 95 :: rest ∧ Grouped rest vs)) := by
  induction t generalizing after digits vs with
  | nil =>
    cases after with
    | false => cases is
    | true =>
      obtain rfl := Option.some.inj is
      exact .inr ⟨rfl, .inl ⟨rfl, List.map_eq_nil_iff.mp values.symm⟩⟩
  | cons c rest ih =>
    by_cases under : c = 95
    · subst under
      rw [withoutUnderscores?.go.eq_2] at is
      cases after with
      | false => cases is
      | true =>
        obtain grouped | ⟨wrong, -⟩ := ih is values
        · exact .inr ⟨rfl, .inr ⟨rest, rfl, grouped⟩⟩
        · cases wrong
    · rw [withoutUnderscores?.go.eq_3 after c rest under] at is
      obtain ⟨digits, whole, rfl⟩ := Option.map_eq_some_iff.mp is
      cases vs with
      | nil => cases values
      | cons v vs =>
        obtain ⟨digit, values⟩ := List.cons.inj values
        obtain grouped | ⟨-, ⟨rfl, rfl⟩ | ⟨behind, rfl, grouped⟩⟩ := ih whole values
        · exact .inl (.next digit grouped)
        · exact .inl (.last digit)
        · exact .inl (.split digit grouped)

theorem grouped_iff (t : Text) (vs : List Nat) : Grouped t vs ↔
    ∃ digits, withoutUnderscores? t = some digits ∧ digits.map decimalValue? = vs.map some := by
  constructor
  · intro grouped
    exact grouped.withoutUnderscores false
  · rintro ⟨digits, is, values⟩
    obtain grouped | ⟨wrong, -⟩ := grouped_of_withoutUnderscores is values
    · exact grouped
    · cases wrong

/-- Base ten has no marker. -/
theorem resolveBase?_ten (t : Text) : resolveBase? 10 t = some (10, t) := by
  simp only [resolveBase?, ne_eq, OfNat.ofNat_ne_zero, not_false_eq_true, if_true, false_or]
  split
  · next marker rest =>
    cases marked : markedBase? marker with
    | none => rfl
    | some base =>
      have other : 10 ≠ base := by
        simp only [markedBase?] at marked
        split_ifs at marked <;> obtain rfl := Option.some.inj marked <;> decide
      exact if_neg other
  · rfl

theorem Grouped.head {t : Text} {vs : List Nat} (grouped : Grouped t vs) :
    ∃ c v rest, t = c :: rest ∧ decimalValue? c = some v := by
  cases grouped with
  | last digit => exact ⟨_, _, _, rfl, digit⟩
  | next digit rest => exact ⟨_, _, _, rfl, digit⟩
  | split digit rest => exact ⟨_, _, _, rfl, digit⟩

theorem Grouped.getLast {t : Text} {vs : List Nat} (grouped : Grouped t vs) :
    ∃ c v, t.getLast? = some c ∧ decimalValue? c = some v := by
  induction grouped with
  | last digit => exact ⟨_, _, rfl, digit⟩
  | next digit rest ih =>
    obtain ⟨c, v, is, digit⟩ := ih
    refine ⟨c, v, ?_, digit⟩
    rw [List.getLast?_cons, is]
    rfl
  | split digit rest ih =>
    obtain ⟨c, v, is, digit⟩ := ih
    refine ⟨c, v, ?_, digit⟩
    rw [List.getLast?_cons, List.getLast?_cons, is]
    rfl

theorem sign_cases (t : Text) : ∃ s, t = s ++ (sign t).2 ∧
    ((s = [45] ∧ (sign t).1 = true) ∨ ((s = [] ∨ s = [43]) ∧ (sign t).1 = false)) := by
  rw [sign.eq_def]
  split
  · exact ⟨[45], rfl, .inl ⟨rfl, rfl⟩⟩
  · exact ⟨[43], rfl, .inr ⟨.inr rfl, rfl⟩⟩
  · exact ⟨[], rfl, .inr ⟨.inl rfl, rfl⟩⟩

section

variable {s body : Text} {vs : List Nat} (grouped : Grouped body vs) (signs : s = [45] ∨ s = [] ∨ s = [43])

include grouped signs

/-- A digit is no sign. -/
theorem Grouped.sign_eq : sign (s ++ body) = (s == [45], body) := by
  obtain ⟨c, v, rest, rfl, digit⟩ := grouped.head
  obtain rfl | rfl | rfl := signs
  · rfl
  · rw [List.nil_append, sign.eq_def]
    split
    · next is =>
      obtain ⟨rfl, -⟩ := List.cons.inj is
      cases digit
    · next is =>
      obtain ⟨rfl, -⟩ := List.cons.inj is
      cases digit
    · rfl
  · rfl

/-- Neither a sign nor a digit is a blank. -/
theorem Grouped.trim_eq {left right : Text} (before : ∀ c ∈ left, isSpace c = true)
    (after : ∀ c ∈ right, isSpace c = true) : (left ++ (s ++ body) ++ right).trim isSpace = s ++ body := by
  obtain ⟨c, v, rest, rfl, digit⟩ := grouped.head
  obtain ⟨d, w, last, digit'⟩ := grouped.getLast
  refine Text.trim_between before after ?_ ?_ (by simp)
  · intro x first
    obtain rfl | rfl | rfl := signs <;> obtain rfl := Option.some.inj first
    · rfl
    · exact not_space_of_digit digit
    · rfl
  · intro x final
    rw [List.getLast?_append, last] at final
    obtain rfl := Option.some.inj final
    exact not_space_of_digit digit'

end

/-- **What is read as an integer** is what spells it. -/
theorem readInt?_eq_some_iff {t : Text} {i : Int} : readInt? 10 t = some i ↔ Spells t i := by
  -- digits behind a sign
  have read (digits : Text) (negative : Bool) (i : Int) :
      (do
        let n ← value? 10 (← withoutUnderscores? digits)
        pure (if negative then -(n : Int) else n)) = some i ↔
      ∃ vs, Grouped digits vs ∧ i = if negative then -(ofDigits vs : Int) else ofDigits vs := by
    constructor
    · intro is
      obtain ⟨bare, whole, is⟩ := Option.bind_eq_some_iff.mp is
      obtain ⟨n, value, is⟩ := Option.bind_eq_some_iff.mp is
      obtain ⟨vs, values, rfl⟩ := (value?_ten bare n).mp value
      exact ⟨vs, (grouped_iff digits vs).mpr ⟨bare, whole, values⟩, (Option.some.inj is).symm⟩
    · rintro ⟨vs, grouped, rfl⟩
      obtain ⟨bare, whole, values⟩ := (grouped_iff digits vs).mp grouped
      have value := (value?_ten bare _).mpr ⟨vs, values, rfl⟩
      simp [whole, value]
  -- blanks around it, and a sign before it
  rw [readInt?]
  obtain ⟨s, whole, signed⟩ := sign_cases (t.trim isSpace)
  cases split : sign (t.trim isSpace) with
  | mk negative body =>
  rw [split] at whole signed
  change ((resolveBase? 10 body).bind _) = some i ↔ _
  rw [resolveBase?_ten, Option.bind_some]
  refine (read body negative i).trans ?_
  constructor
  · rintro ⟨vs, grouped, rfl⟩
    obtain ⟨left, right, is, before, after⟩ := Text.exists_trim isSpace t
    refine ⟨left, s, body, right, vs, whole ▸ is, before, after, grouped, ?_⟩
    obtain ⟨rfl, rfl⟩ | ⟨positive, rfl⟩ := signed
    · exact .inl ⟨rfl, rfl⟩
    · exact .inr ⟨positive, rfl⟩
  · rintro ⟨left, s', body', right, vs, is, before, after, grouped, value⟩
    have signs : s' = [45] ∨ s' = [] ∨ s' = [43] := by
      obtain ⟨is, -⟩ | ⟨is, -⟩ := value
      · exact .inl is
      · exact .inr is
    rw [is, grouped.trim_eq signs before after, grouped.sign_eq signs] at split
    obtain ⟨rfl, rfl⟩ := Prod.mk.inj split
    refine ⟨vs, grouped, ?_⟩
    obtain ⟨rfl, rfl⟩ | ⟨rfl | rfl, rfl⟩ := value <;> rfl

/-! ### Size -/

theorem ofDigits_lt {vs : List Nat} (digits : ∀ v ∈ vs, v < 10) : ofDigits vs < 10 ^ vs.length := by
  have onward (vs : List Nat) (digits : ∀ v ∈ vs, v < 10) (start below : Nat) (less : start < below) :
      vs.foldl (fun n v => n * 10 + v) start < below * 10 ^ vs.length := by
    induction vs generalizing start below with
    | nil => simpa using less
    | cons v vs ih =>
      have small := digits v List.mem_cons_self
      have next := ih (fun w mem => digits w (List.mem_cons_of_mem _ mem)) (start * 10 + v) (below * 10) (by omega)
      rw [List.foldl_cons, List.length_cons]
      calc vs.foldl (fun n v => n * 10 + v) (start * 10 + v)
          < below * 10 * 10 ^ vs.length := next
        _ = below * 10 ^ (vs.length + 1) := by ring
  have below := onward vs digits 0 1 (by decide)
  rwa [Nat.one_mul] at below

theorem Grouped.digits {t : Text} {vs : List Nat} (grouped : Grouped t vs) :
    (∀ v ∈ vs, v < 10) ∧ vs.length ≤ digitCount t := by
  have counts {c : CodePoint} {v : Nat} (digit : decimalValue? c = some v) (t : Text) :
      digitCount (c :: t) = digitCount t + 1 := by
    rw [digitCount, List.filter_cons_of_pos (by rw [digit]; rfl)]
    rfl
  induction grouped with
  | last digit =>
    refine ⟨fun w mem => ?_, by rw [counts digit]; simp⟩
    exact List.mem_singleton.mp mem ▸ decimalValue_lt digit
  | next digit rest ih =>
    refine ⟨fun w mem => ?_, ?_⟩
    · obtain rfl | mem := List.mem_cons.mp mem
      · exact decimalValue_lt digit
      · exact ih.1 w mem
    · rw [counts digit, List.length_cons]
      exact Nat.succ_le_succ ih.2
  | split digit rest ih =>
    refine ⟨fun w mem => ?_, ?_⟩
    · obtain rfl | mem := List.mem_cons.mp mem
      · exact decimalValue_lt digit
      · exact ih.1 w mem
    · rw [counts digit, List.length_cons]
      exact Nat.succ_le_succ ih.2

/-- **An integer is below** the power of ten that has as many zeros as the integer has digits. -/
theorem Spells.lt {t : Text} {i : Int} (spells : Spells t i) : i.natAbs < 10 ^ digitCount t := by
  obtain ⟨left, s, body, right, vs, rfl, -, -, grouped, value⟩ := spells
  have size : i.natAbs = ofDigits vs := by
    obtain ⟨-, rfl⟩ | ⟨-, rfl⟩ := value
    · rw [Int.natAbs_neg, Int.natAbs_natCast]
    · exact Int.natAbs_natCast _
  have more : digitCount body ≤ digitCount (left ++ (s ++ body) ++ right) := by
    simp only [digitCount, List.filter_append, List.length_append]
    omega
  rw [size]
  calc ofDigits vs < 10 ^ vs.length := ofDigits_lt grouped.digits.1
    _ ≤ 10 ^ digitCount (left ++ (s ++ body) ++ right) :=
      Nat.pow_le_pow_right (by decide) (grouped.digits.2.trans more)

end Numeral

/-! ### Writing -/

/-- **An integer has a text** exactly if it has no more digits than the limit. -/
theorem intText_cases (i : Int) :
    (i.natAbs < 10 ^ intDigitLimit ∧ intText i = .ok (Text.ofInt i)) ∨
      (¬i.natAbs < 10 ^ intDigitLimit ∧ ∃ r, intText i = .error r ∧ r.kind = .badValue) := by
  have length : (Text.ofNat i.natAbs).length ≤ intDigitLimit ↔ i.natAbs < 10 ^ intDigitLimit := by
    rw [Text.ofNat, Text.ofString, List.length_map, Nat.repr_eq_ofList_toDigits, String.toList_ofList,
      Nat.length_toDigits_le_iff (by decide) (show 0 < intDigitLimit by decide)]
  rw [intText]
  split
  · next small =>
    refine .inl ⟨?_, rfl⟩
    have power (n : Nat) : 2 ^ (714 * n) ≤ 10 ^ (215 * n) := by
      rw [Nat.pow_mul, Nat.pow_mul]
      exact Nat.pow_le_pow_left (by decide +kernel) n
    have below {k : Nat} (bits : i.natAbs.log2 < k) : i.natAbs < 2 ^ k := by
      by_cases zero : i.natAbs = 0
      · exact zero ▸ Nat.two_pow_pos k
      · exact (Nat.log2_lt zero).mp bits
    have bits : i.natAbs.log2 < 714 * 20 := small
    have limit : intDigitLimit = 215 * 20 := rfl
    rw [limit]
    exact (below bits).trans_le (power 20)
  · dsimp only
    split
    · next long => exact .inr ⟨fun less => Nat.not_lt.mpr (length.mpr less) long, _, rfl, rfl⟩
    · next short => exact .inl ⟨length.mp (Nat.not_lt.mp short), rfl⟩

end Stencil
