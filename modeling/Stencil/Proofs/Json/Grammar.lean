import Mathlib.Data.List.TakeWhile
import Stencil.Json.Reader

/-!
# The grammar of JSON

What a JSON text is, without a reader: blanks, strings, numbers, and objects and arrays of them. Numbers
may be `NaN` or infinite, and an integer may have a bounded number of digits.

## Main definitions

- `Json.Chars`, `Json.IsNumber` — what stands between quotes, and what is a number
- `Json.Is` — a text is a value, or a member, the members or the items of one
- `Json.Document`, `Json.ObjectDocument` — a value, or an object, between blanks

## Main results

- `Json.Is.head_value` — how a value starts
-/

namespace Stencil

namespace Json

def Blank (t : Text) : Prop :=
  ∀ c ∈ t, isBlank c = true

/-- What stands between the quotes of a string. -/
inductive Chars : Text → Prop where
  | nil : Chars []
  | plain {c : CodePoint} {rest : Text} (quote : c ≠ 34) (escape : c ≠ 92) (control : ¬c ≤ 0x1F) :
      Chars rest → Chars (c :: rest)
  | escape {c : CodePoint} {rest : Text} (known : (escaped? c).isSome = true) :
      Chars rest → Chars (92 :: c :: rest)
  | unit {a b c d : CodePoint} {rest : Text} (hex : (hexValue? a b c d).isSome = true) :
      Chars rest → Chars (92 :: 117 :: a :: b :: c :: d :: rest)

/-! ### Numbers -/

def Digits (t : Text) : Prop :=
  t ≠ [] ∧ ∀ c ∈ t, isAsciiDigit c = true

/-- The digits in front of a point: only a zero by itself starts with a zero. -/
inductive Whole : Text → Prop where
  | zero : Whole [48]
  | digits {t : Text} (digits : Digits t) (first : t.head? ≠ some 48) : Whole t

/-- A point with its digits, or nothing. -/
inductive Fraction : Text → Prop where
  | none : Fraction []
  | point {t : Text} (digits : Digits t) : Fraction (46 :: t)

/-- An exponent, or nothing. -/
inductive Power : Text → Prop where
  | none : Power []
  | mark {c : CodePoint} {sign t : Text} (letter : c = 101 ∨ c = 69)
      (signed : sign = [] ∨ sign = [43] ∨ sign = [45]) (digits : Digits t) : Power (c :: (sign ++ t))

/-- A number. If it is an integer, it has no more digits than the limit. -/
inductive IsNumber (limit : Option Nat) : Text → Prop where
  | parts {sign whole fraction power : Text} (signed : sign = [] ∨ sign = [45]) (digits : Whole whole)
      (decimals : Fraction fraction) (exponent : Power power)
      (short : fraction = [] → power = [] → ∀ n, limit = some n → whole.length ≤ n) :
      IsNumber limit (sign ++ (whole ++ (fraction ++ power)))

/-- A word or a number. -/
inductive IsScalar (limit : Option Nat) : Text → Prop where
  | word {word : String} {j : Json} (known : (word, j) ∈ words) : IsScalar limit word
  | number {t : Text} (number : IsNumber limit t) : IsScalar limit t

/-! ### Values -/

/-- The parts of a value that are made of other parts. -/
inductive Part where
  | value
  /-- A name with its value. -/
  | member
  /-- What stands in an object that is not empty, without blanks in front. -/
  | members
  /-- What stands in an array that is not empty, without blanks in front. -/
  | items

/-- A text is a part of a JSON text, with no more than `room` objects and arrays in one another. -/
inductive Is (limit : Option Nat) : Part → Nat → Text → Prop where
  | scalar {room : Nat} {t : Text} (scalar : IsScalar limit t) : Is limit .value room t
  | string {room : Nat} {t : Text} (chars : Chars t) : Is limit .value room (34 :: (t ++ [34]))
  | emptyObject {room : Nat} {blanks : Text} (blank : Blank blanks) :
      Is limit .value (room + 1) (123 :: (blanks ++ [125]))
  | object {room : Nat} {blanks t : Text} (blank : Blank blanks) (members : Is limit .members room t) :
      Is limit .value (room + 1) (123 :: (blanks ++ (t ++ [125])))
  | emptyArray {room : Nat} {blanks : Text} (blank : Blank blanks) :
      Is limit .value (room + 1) (91 :: (blanks ++ [93]))
  | array {room : Nat} {blanks t : Text} (blank : Blank blanks) (items : Is limit .items room t) :
      Is limit .value (room + 1) (91 :: (blanks ++ (t ++ [93])))
  | member {room : Nat} {name before after t : Text} (chars : Chars name) (front : Blank before)
      (back : Blank after) (value : Is limit .value room t) :
      Is limit .member room (34 :: (name ++ 34 :: (before ++ 58 :: (after ++ t))))
  | lastMember {room : Nat} {t blanks : Text} (member : Is limit .member room t) (blank : Blank blanks) :
      Is limit .members room (t ++ blanks)
  | nextMember {room : Nat} {t before after rest : Text} (member : Is limit .member room t)
      (front : Blank before) (back : Blank after) (others : Is limit .members room rest) :
      Is limit .members room (t ++ (before ++ 44 :: (after ++ rest)))
  | lastItem {room : Nat} {t blanks : Text} (item : Is limit .value room t) (blank : Blank blanks) :
      Is limit .items room (t ++ blanks)
  | nextItem {room : Nat} {t before after rest : Text} (item : Is limit .value room t)
      (front : Blank before) (back : Blank after) (others : Is limit .items room rest) :
      Is limit .items room (t ++ (before ++ 44 :: (after ++ rest)))

/-- A text is a value between blanks. -/
def Document (limits : Limits) (t : Text) : Prop :=
  ∃ before s after, t = before ++ (s ++ after) ∧ Blank before ∧ Blank after ∧
    Is (some limits.digits) .value limits.nesting s

/-- A text is an object between blanks. -/
def ObjectDocument (limits : Limits) (t : Text) : Prop :=
  ∃ before s after, t = before ++ (s ++ after) ∧ Blank before ∧ Blank after ∧
    Is (some limits.digits) .value limits.nesting s ∧ s.head? = some 123

/-! ### How parts start -/

theorem Whole.head {t : Text} (is : Whole t) : ∃ c rest, t = c :: rest ∧ isAsciiDigit c = true := by
  cases is with
  | zero => exact ⟨48, [], rfl, rfl⟩
  | digits digits first =>
    obtain ⟨some, all⟩ := digits
    obtain ⟨c, rest, rfl⟩ := List.exists_cons_of_ne_nil some
    exact ⟨c, rest, rfl, all c List.mem_cons_self⟩

/-- A number starts with a digit, or with a minus sign and a digit. -/
theorem IsNumber.head {limit : Option Nat} {t : Text} (is : IsNumber limit t) :
    ∃ c rest, isAsciiDigit c = true ∧ (t = c :: rest ∨ t = 45 :: c :: rest) := by
  cases is with
  | parts signed digits decimals exponent short =>
    obtain ⟨c, rest, rfl, digit⟩ := digits.head
    rcases signed with rfl | rfl
    · exact ⟨c, _, digit, .inl rfl⟩
    · exact ⟨c, _, digit, .inr rfl⟩

theorem IsScalar.head {limit : Option Nat} {t : Text} (is : IsScalar limit t) : ∃ c rest, t = c :: rest ∧
    isBlank c = false ∧ c ∉ ([34, 44, 91, 93, 123, 125, 0xFEFF] : List CodePoint) := by
  cases is with
  | word known =>
    simp only [words, List.mem_cons, List.not_mem_nil, or_false, Prod.mk.injEq] at known
    rcases known with ⟨rfl, _⟩ | ⟨rfl, _⟩ | ⟨rfl, _⟩ | ⟨rfl, _⟩ | ⟨rfl, _⟩ | ⟨rfl, _⟩
    all_goals exact ⟨_, _, rfl, by decide, by decide⟩
  | number number =>
    obtain ⟨c, rest, digit, rfl | rfl⟩ := number.head
    · have digit : 48 ≤ c ∧ c ≤ 57 := by
        simpa only [isAsciiDigit, Bool.and_eq_true, decide_eq_true_eq] using digit
      have other {d : CodePoint} (apart : d < 48 ∨ 57 < d) : c ≠ d := by
        rintro rfl
        exact apart.elim (Nat.not_lt.mpr digit.1) (Nat.not_lt.mpr digit.2)
      refine ⟨c, rest, rfl, ?_, ?_⟩
      · simp only [isBlank, Bool.or_eq_false_iff, beq_eq_false_iff_ne]
        exact ⟨⟨⟨other (by decide), other (by decide)⟩, other (by decide)⟩, other (by decide)⟩
      · intro mem
        simp only [List.mem_cons, List.not_mem_nil, or_false] at mem
        rcases mem with is | is | is | is | is | is | is
        all_goals exact absurd is (other (by decide))
    · exact ⟨_, _, rfl, by decide, by decide⟩

/-- **How a value starts**: with no blank, and with nothing that ends or separates. -/
theorem Is.head_value {limit : Option Nat} {room : Nat} {t : Text} (is : Is limit .value room t) :
    ∃ c rest, t = c :: rest ∧ isBlank c = false ∧ c ∉ ([44, 93, 125, 0xFEFF] : List CodePoint) := by
  cases is with
  | scalar scalar =>
    obtain ⟨c, rest, is, mark, other⟩ := scalar.head
    have among : ([44, 93, 125, 0xFEFF] : List CodePoint) ⊆ [34, 44, 91, 93, 123, 125, 0xFEFF] := by
      decide
    exact ⟨c, rest, is, mark, fun mem => other (among mem)⟩
  | string => exact ⟨_, _, rfl, by decide, by decide⟩
  | emptyObject => exact ⟨_, _, rfl, by decide, by decide⟩
  | object => exact ⟨_, _, rfl, by decide, by decide⟩
  | emptyArray => exact ⟨_, _, rfl, by decide, by decide⟩
  | array => exact ⟨_, _, rfl, by decide, by decide⟩

theorem Is.head_member {limit : Option Nat} {room : Nat} {t : Text} (is : Is limit .member room t) :
    ∃ rest, t = 34 :: rest := by
  cases is with
  | member => exact ⟨_, rfl⟩

theorem Is.head_members {limit : Option Nat} {room : Nat} {t : Text} (is : Is limit .members room t) :
    ∃ rest, t = 34 :: rest := by
  cases is with
  | lastMember member =>
    obtain ⟨rest, rfl⟩ := member.head_member
    exact ⟨_, rfl⟩
  | nextMember member =>
    obtain ⟨rest, rfl⟩ := member.head_member
    exact ⟨_, rfl⟩

theorem Is.head_items {limit : Option Nat} {room : Nat} {t : Text} (is : Is limit .items room t) :
    ∃ c rest, t = c :: rest ∧ isBlank c = false ∧ c ≠ 93 := by
  cases is with
  | lastItem item =>
    obtain ⟨c, rest, rfl, blank, other⟩ := item.head_value
    exact ⟨c, _, rfl, blank, fun e => other (by simp [e])⟩
  | nextItem item =>
    obtain ⟨c, rest, rfl, blank, other⟩ := item.head_value
    exact ⟨c, _, rfl, blank, fun e => other (by simp [e])⟩

end Json

end Stencil
