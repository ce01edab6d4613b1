import Mathlib.Data.List.TakeWhile
import Stencil.Proofs.Fallible
import Stencil.Proofs.Json.Grammar

/-!
# Reading strings and numbers

The reader takes the longest string, number or word off the head of a text: what it takes is one by the
grammar, and one by the grammar is taken if what follows it does not go on with it.

## Main definitions

- `Json.Stops` — what may follow a value

## Main results

- `Json.stringBody_sound`, `Json.stringBody_complete` — strings
- `Json.scalar_sound`, `Json.scalar_complete` — numbers and words
-/

namespace Stencil

namespace Json

/-- Nothing of a value: a blank, the end of an object or an array, a comma, or the end of the text. -/
def Stops (rest : Text) : Prop :=
  ∀ c, rest.head? = some c → isBlank c = true ∨ c = 44 ∨ c = 93 ∨ c = 125

/-! ### Blanks -/

theorem exists_skip (t : Text) : ∃ blanks, Blank blanks ∧ t = blanks ++ skip t :=
  ⟨t.takeWhile isBlank, fun _ mem => List.mem_takeWhile_imp mem,
    (List.takeWhile_append_dropWhile (p := isBlank) (l := t)).symm⟩

theorem skip_append {blanks : Text} (blank : Blank blanks) (rest : Text) :
    skip (blanks ++ rest) = skip rest :=
  List.dropWhile_append_of_pos blank

theorem skip_cons {c : CodePoint} (mark : isBlank c = false) (rest : Text) :
    skip (c :: rest) = c :: rest :=
  List.dropWhile_cons_of_neg (by simp [mark])

theorem stops_append {blanks rest : Text} (blank : Blank blanks) (stops : Stops rest) :
    Stops (blanks ++ rest) := by
  cases blanks with
  | nil => exact stops
  | cons b blanks =>
    intro c head
    obtain rfl := Option.some.inj head
    exact .inl (blank b List.mem_cons_self)

theorem Stops.not_digit {rest : Text} (stops : Stops rest) :
    ∀ c, rest.head? = some c → isAsciiDigit c = false := by
  intro c head
  rcases stops c head with blank | rfl | rfl | rfl
  · simp only [isBlank, Bool.or_eq_true, beq_iff_eq] at blank
    rcases blank with ((rfl | rfl) | rfl) | rfl <;> rfl
  all_goals rfl

theorem Stops.not_mark {rest : Text} (stops : Stops rest) :
    ∀ c, rest.head? = some c → c ≠ 46 ∧ c ≠ 101 ∧ c ≠ 69 := by
  intro c head
  rcases stops c head with blank | rfl | rfl | rfl
  · simp only [isBlank, Bool.or_eq_true, beq_iff_eq] at blank
    rcases blank with ((rfl | rfl) | rfl) | rfl <;> decide
  all_goals decide

/-! ### Strings -/

/-- What is read as a string ends with a quote. -/
theorem stringBody_sound {start t : Text} {pending : Bool} {acc s rest : Text}
    (reads : stringBody start pending acc t = .ok (s, rest)) :
    ∃ body, Chars body ∧ t = body ++ 34 :: rest := by
  fun_induction stringBody start pending acc t with
  | case1 => cases reads
  | case2 =>
    obtain ⟨-, rfl⟩ := Prod.mk.inj (Except.ok.inj reads)
    exact ⟨[], .nil, rfl⟩
  | case3 => cases reads
  | case4 pending acc a b c d next rest' unit hex ih =>
    obtain ⟨body, chars, is⟩ := ih reads
    exact ⟨_, .unit (by rw [hex]; rfl) chars, by rw [is]; rfl⟩
  | case5 => cases reads
  | case6 => cases reads
  | case7 pending acc c rest' _ _ point known ih =>
    obtain ⟨body, chars, rfl⟩ := ih reads
    exact ⟨_, .escape (by rw [known]; rfl) chars, rfl⟩
  | case8 => cases reads
  | case9 => cases reads
  | case10 pending acc c rest' quote alone _ _ other control ih =>
    have escape : c ≠ 92 := by
      intro escape
      cases rest' with
      | nil => exact alone escape rfl
      | cons d rest' => exact other d rest' escape rfl
    obtain ⟨body, chars, rfl⟩ := ih reads
    exact ⟨_, .plain quote escape control chars, rfl⟩

/-- A string is read in one way, whatever follows its quote. -/
theorem stringBody_complete {body : Text} (chars : Chars body) : ∀ pending acc, ∃ s, ∀ start rest,
    stringBody start pending acc (body ++ 34 :: rest) = .ok (s, rest) := by
  induction chars with
  | nil => exact fun pending acc => ⟨acc.reverse, fun start rest => rfl⟩
  | @plain c _ quote escape control _ ih =>
    intro pending acc
    obtain ⟨s, reads⟩ := ih false (c :: acc)
    refine ⟨s, fun start rest => ?_⟩
    rw [List.cons_append, stringBody.eq_7 _ _ _ _ _ quote (fun e => absurd e escape)
      (fun _ _ _ _ _ _ e => absurd e escape) (fun _ e => absurd e escape) (fun _ _ e => absurd e escape),
      if_neg control]
    exact reads start rest
  | @escape c _ known _ ih =>
    intro pending acc
    have other : c ≠ 117 := by
      rintro rfl
      cases known
    obtain ⟨point, is⟩ := Option.isSome_iff_exists.mp known
    obtain ⟨s, reads⟩ := ih false (point :: acc)
    refine ⟨s, fun start rest => ?_⟩
    rw [List.cons_append, List.cons_append, stringBody.eq_6 _ _ _ _ _
      (fun _ _ _ _ _ _ e => absurd e other) (fun e => absurd e other), is]
    exact reads start rest
  | @unit a b c d body hex _ ih =>
    intro pending acc
    obtain ⟨value, hex⟩ := Option.isSome_iff_exists.mp hex
    obtain ⟨s, reads⟩ := ih (0xD800 ≤ value && value ≤ 0xDBFF) (pushUnit value pending acc)
    refine ⟨s, fun start rest => ?_⟩
    obtain ⟨next, more, is⟩ : ∃ next more, body ++ 34 :: rest = next :: more :=
      List.exists_cons_of_ne_nil (by simp)
    simp only [List.cons_append]
    rw [is, stringBody.eq_4, hex, ← is]
    exact reads start rest

theorem stringBody_error {start t : Text} {pending : Bool} {acc : Text} {fault : Fault}
    (fails : stringBody start pending acc t = .error fault) : ∃ what rest, fault = .malformed what rest := by
  fun_induction stringBody start pending acc t with
  | case4 _ _ _ _ _ _ _ _ _ _ ih => exact ih fails
  | case7 _ _ _ _ _ _ _ _ ih => exact ih fails
  | case10 _ _ _ _ _ _ _ _ _ _ ih => exact ih fails
  | case2 => cases fails
  | _ => exact ⟨_, _, (Except.error.inj fails).symm⟩

/-- The name of a member with the colon and the blanks around it. -/
theorem memberName_sound {t name rest : Text} (reads : memberName t = .ok (name, rest)) :
    ∃ s before after, Chars s ∧ Blank before ∧ Blank after ∧
      t = 34 :: (s ++ 34 :: (before ++ 58 :: (after ++ rest))) := by
  unfold memberName at reads
  split at reads
  · obtain ⟨⟨_, behind⟩, string, marked⟩ := ok_of_bind reads
    dsimp only at marked
    obtain ⟨s, chars, rfl⟩ := stringBody_sound string
    obtain ⟨before, blank, is⟩ := exists_skip behind
    split at marked
    · next colon found =>
      obtain ⟨-, rfl⟩ := Prod.mk.inj (Except.ok.inj marked)
      obtain ⟨after, blank', is'⟩ := exists_skip colon
      exact ⟨s, before, after, chars, blank, blank', by rw [← is', ← found, ← is]⟩
    · cases marked
  · cases reads

theorem memberName_complete {s before after : Text} (chars : Chars s) (front : Blank before)
    (back : Blank after) (rest : Text) :
    ∃ name, memberName (34 :: (s ++ 34 :: (before ++ 58 :: (after ++ rest)))) = .ok (name, skip rest) := by
  obtain ⟨name, reads⟩ := stringBody_complete chars false []
  refine ⟨name, ?_⟩
  have behind : skip (before ++ 58 :: (after ++ rest)) = 58 :: (after ++ rest) := by
    rw [skip_append front, skip_cons (by decide)]
  simp only [memberName, reads, bind, Except.bind, behind, skip_append back]

theorem memberName_error {t : Text} {fault : Fault} (fails : memberName t = .error fault) :
    ∃ what rest, fault = .malformed what rest := by
  unfold memberName at fails
  split at fails
  · obtain fails | ⟨_, _, fails⟩ := error_of_bind fails
    · exact stringBody_error fails
    · dsimp only at fails
      split at fails
      · cases fails
      · exact ⟨_, _, (Except.error.inj fails).symm⟩
  · exact ⟨_, _, (Except.error.inj fails).symm⟩

/-! ### The parts of a number -/

theorem minus_spells (t : Text) : (minus t).1 = true ∧ t = 45 :: (minus t).2 ∨
    (minus t).1 = false ∧ t = (minus t).2 := by
  unfold minus
  split
  · exact .inl ⟨rfl, rfl⟩
  · exact .inr ⟨rfl, rfl⟩

theorem minus_of_head {t : Text} (head : t.head? ≠ some 45) : minus t = (false, t) := by
  unfold minus
  split
  · exact absurd rfl head
  · rfl

/-- The digits that are taken are all that a text starts with. -/
theorem takeWhile_digits {digits rest : Text} (all : ∀ c ∈ digits, isAsciiDigit c = true)
    (stops : ∀ c, rest.head? = some c → isAsciiDigit c = false) :
    (digits ++ rest).takeWhile isAsciiDigit = digits ∧
      (digits ++ rest).dropWhile isAsciiDigit = rest := by
  rw [List.takeWhile_append_of_pos all, List.dropWhile_append_of_pos all]
  cases rest with
  | nil => exact ⟨List.append_nil _, rfl⟩
  | cons c rest =>
    have mark := stops c rfl
    rw [List.takeWhile_cons_of_neg (by simp [mark]), List.dropWhile_cons_of_neg (by simp [mark])]
    exact ⟨List.append_nil _, rfl⟩

theorem digits_takeWhile {t : Text} (some : t.takeWhile isAsciiDigit ≠ []) :
    Digits (t.takeWhile isAsciiDigit) :=
  ⟨some, fun _ mem => List.mem_takeWhile_imp mem⟩

theorem whole_sound {t : Text} (some : (whole t).1 ≠ []) :
    Whole (whole t).1 ∧ t = (whole t).1 ++ (whole t).2 := by
  unfold whole at some ⊢
  split
  · exact ⟨.zero, rfl⟩
  · next zero =>
    refine ⟨.digits (digits_takeWhile ?_) ?_, List.takeWhile_append_dropWhile.symm⟩
    · split at some
      · next zero => exact absurd rfl (zero _)
      · exact some
    · cases t with
      | nil => exact nofun
      | cons c t =>
        intro head
        rw [List.takeWhile_cons] at head
        split at head
        · obtain rfl := Option.some.inj head
          exact zero t rfl
        · cases head

theorem whole_complete {digits rest : Text} (is : Whole digits)
    (stops : ∀ c, rest.head? = some c → isAsciiDigit c = false) :
    whole (digits ++ rest) = (digits, rest) := by
  cases is with
  | zero => rfl
  | digits digits first =>
    obtain ⟨some, all⟩ := digits
    obtain ⟨taken, left⟩ := takeWhile_digits all stops
    unfold whole
    split
    · next rest' is =>
      cases digits with
      | nil => exact absurd rfl some
      | cons c more =>
        obtain ⟨rfl, -⟩ := List.cons.inj is
        exact absurd rfl first
    · rw [taken, left]

theorem fraction_sound (t : Text) : ∃ s, Fraction s ∧ t = s ++ (fraction t).2 ∧
    (s = [] ↔ (fraction t).1 = []) := by
  unfold fraction
  split
  · next rest =>
    dsimp only
    split
    · exact ⟨[], .none, rfl, Iff.rfl⟩
    · next some =>
      have some : rest.takeWhile isAsciiDigit ≠ [] := fun none => some (List.isEmpty_iff.mpr none)
      refine ⟨46 :: rest.takeWhile isAsciiDigit, .point (digits_takeWhile some), ?_, ?_⟩
      · exact congrArg (46 :: ·) List.takeWhile_append_dropWhile.symm
      · exact ⟨nofun, fun none => absurd none some⟩
  · exact ⟨[], .none, rfl, Iff.rfl⟩

theorem fraction_complete {s rest : Text} (is : Fraction s)
    (stops : ∀ c, rest.head? = some c → isAsciiDigit c = false ∧ c ≠ 46) :
    ∃ digits, fraction (s ++ rest) = (digits, rest) ∧ (digits = [] ↔ s = []) := by
  cases is with
  | none =>
    refine ⟨[], ?_, Iff.rfl⟩
    rw [List.nil_append]
    unfold fraction
    split
    · exact absurd rfl (stops 46 rfl).2
    · rfl
  | @point digits all =>
    obtain ⟨taken, left⟩ := takeWhile_digits all.2 fun c head => (stops c head).1
    refine ⟨digits, ?_, fun none => absurd none all.1, nofun⟩
    rw [List.cons_append, fraction, taken, left, if_neg fun none => all.1 (List.isEmpty_iff.mp none)]

theorem sign_spells (t : Text) : ∃ s, (s = [] ∨ s = [43] ∨ s = [45]) ∧ t = s ++ (Numeral.sign t).2 := by
  unfold Numeral.sign
  split
  · exact ⟨[45], .inr (.inr rfl), rfl⟩
  · exact ⟨[43], .inr (.inl rfl), rfl⟩
  · exact ⟨[], .inl rfl, rfl⟩

theorem sign_append {s digits rest : Text} (signed : s = [] ∨ s = [43] ∨ s = [45]) (is : Digits digits) :
    (Numeral.sign (s ++ (digits ++ rest))).2 = digits ++ rest := by
  rcases signed with rfl | rfl | rfl
  · obtain ⟨c, more, rfl⟩ := List.exists_cons_of_ne_nil is.1
    have digit := is.2 c List.mem_cons_self
    obtain ⟨s, signed, spells⟩ := sign_spells (c :: (more ++ rest))
    rcases signed with rfl | rfl | rfl
    · exact spells.symm
    · obtain ⟨rfl, -⟩ := List.cons.inj spells
      cases digit
    · obtain ⟨rfl, -⟩ := List.cons.inj spells
      cases digit
  · rfl
  · rfl

theorem exponent_sound (t : Text) : ∃ s, Power s ∧ t = s ++ (exponent t).2 ∧
    (s = [] ↔ (exponent t).1 = none) := by
  unfold exponent
  split
  · next mark rest =>
    split
    · next letter =>
      obtain ⟨s, signed, is⟩ := sign_spells rest
      dsimp only
      split
      · exact ⟨[], .none, rfl, fun _ => rfl, fun _ => rfl⟩
      · next some =>
        have some : (Numeral.sign rest).2.takeWhile isAsciiDigit ≠ [] :=
          fun none => some (List.isEmpty_iff.mpr none)
        refine ⟨_, .mark letter signed (digits_takeWhile some), ?_, nofun, nofun⟩
        rw [List.cons_append, List.append_assoc, List.takeWhile_append_dropWhile, ← is]
    · exact ⟨[], .none, rfl, fun _ => rfl, fun _ => rfl⟩
  · exact ⟨[], .none, rfl, fun _ => rfl, fun _ => rfl⟩

theorem exponent_complete {s rest : Text} (is : Power s) (stops : Stops rest) :
    ∃ power, exponent (s ++ rest) = (power, rest) ∧ (power = none ↔ s = []) := by
  cases is with
  | none =>
    refine ⟨none, ?_, fun _ => rfl, fun _ => rfl⟩
    rw [List.nil_append]
    cases rest with
    | nil => rfl
    | cons c rest =>
      obtain ⟨-, small, large⟩ := stops.not_mark c rfl
      exact if_neg (not_or.mpr ⟨small, large⟩)
  | @mark c sign digits letter signed all =>
    obtain ⟨taken, left⟩ := takeWhile_digits all.2 stops.not_digit
    refine ⟨some ((Numeral.sign (sign ++ (digits ++ rest))).1, digits), ?_, nofun, nofun⟩
    rw [List.cons_append, List.append_assoc, exponent, if_pos letter]
    dsimp only
    rw [sign_append signed all, taken, left, if_neg fun none => all.1 (List.isEmpty_iff.mp none)]

/-! ### Numbers -/

theorem ofParts_ok {limit : Option Nat} {negative : Bool} {digits decimals : Text}
    {power : Option (Bool × Text)} {j : Json} (is : ofParts limit negative digits decimals power = .ok j) :
    (∀ members, j ≠ .obj members) ∧
      (decimals = [] → power = none → ∀ n, limit = some n → digits.length ≤ n) := by
  unfold ofParts at is
  split at is
  · split at is
    · split at is
      · cases is
      · next n long =>
        obtain rfl := Except.ok.inj is
        refine ⟨nofun, fun _ _ m e => ?_⟩
        obtain rfl := Option.some.inj e
        exact Nat.not_lt.mp long
    · obtain rfl := Except.ok.inj is
      exact ⟨nofun, fun _ _ => nofun⟩
  · next apart =>
    obtain rfl := Except.ok.inj is
    exact ⟨nofun, fun none absent => absurd absent (apart none)⟩

theorem ofParts_complete (limit : Option Nat) (negative : Bool) (digits decimals : Text)
    (power : Option (Bool × Text))
    (short : decimals = [] → power = none → ∀ n, limit = some n → digits.length ≤ n) :
    ∃ j, ofParts limit negative digits decimals power = .ok j := by
  unfold ofParts
  split
  · split
    · next n =>
      rw [if_neg (Nat.not_lt.mpr (short rfl rfl n rfl))]
      exact ⟨_, rfl⟩
    · exact ⟨_, rfl⟩
  · exact ⟨_, rfl⟩

theorem ofParts_error {limit : Option Nat} {negative : Bool} {digits decimals : Text}
    {power : Option (Bool × Text)} {fault : Fault}
    (is : ofParts limit negative digits decimals power = .error fault) :
    ∃ n length, fault = .tooLong n length := by
  unfold ofParts at is
  split at is
  · split at is
    · split at is
      · exact ⟨_, _, (Except.error.inj is).symm⟩
      · cases is
    · cases is
  · cases is

/-- **What is read as a number** is one. -/
theorem number_sound {limit : Option Nat} {t rest : Text} {j : Json}
    (reads : number limit t = .ok (j, rest)) :
    ∃ s, IsNumber limit s ∧ t = s ++ rest ∧ ∀ members, j ≠ .obj members := by
  rw [number] at reads
  dsimp only at reads
  split at reads
  · cases reads
  next some =>
  have some : (whole (minus t).2).1 ≠ [] := fun none => some (List.isEmpty_iff.mpr none)
  obtain ⟨digits, body⟩ := whole_sound some
  obtain ⟨decimals, isDecimals, behind, decimals_iff⟩ := fraction_sound (whole (minus t).2).2
  obtain ⟨power, isPower, behind', power_iff⟩ := exponent_sound (fraction (whole (minus t).2).2).2
  cases parts : ofParts limit (minus t).1 (whole (minus t).2).1 (fraction (whole (minus t).2).2).1
      (exponent (fraction (whole (minus t).2).2).2).1 with
  | error fault =>
    rw [parts] at reads
    cases reads
  | ok j' =>
    rw [parts] at reads
    obtain ⟨rfl, rfl⟩ := Prod.mk.inj (Except.ok.inj reads)
    obtain ⟨other, short⟩ := ofParts_ok parts
    have short : decimals = [] → power = [] → ∀ n, limit = Option.some n →
        (whole (minus t).2).1.length ≤ n :=
      fun none absent => short (decimals_iff.mp none) (power_iff.mp absent)
    have spelled : (minus t).2 = (whole (minus t).2).1 ++ (decimals ++ (power ++
        (exponent (fraction (whole (minus t).2).2).2).2)) := by
      rw [← behind', ← behind]
      exact body
    obtain ⟨-, is⟩ | ⟨-, is⟩ := minus_spells t
    · refine ⟨_, .parts (.inr rfl) digits isDecimals isPower short, ?_, other⟩
      refine is.trans ((congrArg (45 :: ·) spelled).trans ?_)
      simp only [List.append_assoc, List.cons_append, List.nil_append]
    · refine ⟨_, .parts (.inl rfl) digits isDecimals isPower short, ?_, other⟩
      refine is.trans (spelled.trans ?_)
      simp only [List.append_assoc, List.nil_append]

/-- **A number is read** if what follows stops it. -/
theorem number_complete {limit : Option Nat} {s rest : Text} (is : IsNumber limit s) (stops : Stops rest) :
    ∃ j, number limit (s ++ rest) = .ok (j, rest) := by
  cases is with
  | @parts sign digits decimals power signed isWhole isFraction isPower short =>
    -- what is left behind each part does not go on with it
    have behindFraction : ∀ c, (power ++ rest).head? = some c → isAsciiDigit c = false ∧ c ≠ 46 := by
      cases isPower with
      | none => exact fun c head => ⟨stops.not_digit c head, (stops.not_mark c head).1⟩
      | mark letter =>
        intro c head
        obtain rfl := Option.some.inj head
        rcases letter with rfl | rfl <;> exact ⟨rfl, by decide⟩
    have behindWhole : ∀ c, (decimals ++ (power ++ rest)).head? = some c → isAsciiDigit c = false := by
      cases isFraction with
      | none => exact fun c head => (behindFraction c head).1
      | point =>
        intro c head
        obtain rfl := Option.some.inj head
        rfl
    have first : minus (sign ++ (digits ++ (decimals ++ (power ++ rest)))) =
        (!sign.isEmpty, digits ++ (decimals ++ (power ++ rest))) := by
      rcases signed with rfl | rfl
      · obtain ⟨c, more, rfl, digit⟩ := isWhole.head
        refine minus_of_head fun head => ?_
        obtain rfl := Option.some.inj head
        cases digit
      · rfl
    obtain ⟨ds, fractional, none_iff⟩ := fraction_complete isFraction behindFraction
    obtain ⟨e, exponential, absent_iff⟩ := exponent_complete isPower stops
    obtain ⟨j, made⟩ := ofParts_complete limit (!sign.isEmpty) digits ds e fun none absent =>
      short (none_iff.mp none) (absent_iff.mp absent)
    obtain ⟨c, more, some, -⟩ := isWhole.head
    refine ⟨j, ?_⟩
    simp only [List.append_assoc]
    rw [number, first]
    dsimp only
    rw [whole_complete isWhole behindWhole]
    dsimp only
    rw [if_neg (by rw [some]; exact nofun), fractional]
    dsimp only
    rw [exponential]
    dsimp only
    rw [made]
    rfl

theorem number_error {limit : Option Nat} {t : Text} {fault : Fault}
    (fails : number limit t = .error fault) : ∀ container, fault ≠ .tooDeep container := by
  rw [number] at fails
  dsimp only at fails
  split at fails
  · obtain rfl := Except.error.inj fails
    exact nofun
  · cases parts : ofParts limit (minus t).1 (whole (minus t).2).1 (fraction (whole (minus t).2).2).1
        (exponent (fraction (whole (minus t).2).2).2).1 with
    | ok j =>
      rw [parts] at fails
      cases fails
    | error fault' =>
      rw [parts] at fails
      obtain rfl := Except.error.inj fails
      obtain ⟨_, _, rfl⟩ := ofParts_error parts
      exact nofun

/-! ### Values without parts -/

theorem word_sound {t rest : Text} {j : Json} (reads : word? t = some (j, rest)) :
    ∃ word : String, (word, j) ∈ words ∧ t = (word : Text) ++ rest := by
  obtain ⟨⟨word, j'⟩, mem, is⟩ := List.exists_of_findSome?_eq_some reads
  dsimp only at is
  split at is
  · next starts =>
    obtain ⟨rfl, rfl⟩ := Prod.mk.inj (Option.some.inj is)
    obtain ⟨rest, rfl⟩ := List.isPrefixOf_iff_prefix.mp starts
    exact ⟨word, mem, by rw [List.drop_left]⟩
  · cases is

theorem word_complete {word : String} {j : Json} (known : (word, j) ∈ words) (rest : Text) :
    word? ((word : Text) ++ rest) = some (j, rest) := by
  simp only [words, List.mem_cons, List.not_mem_nil, or_false, Prod.mk.injEq] at known
  rcases known with ⟨rfl, rfl⟩ | ⟨rfl, rfl⟩ | ⟨rfl, rfl⟩ | ⟨rfl, rfl⟩ | ⟨rfl, rfl⟩ | ⟨rfl, rfl⟩
  all_goals rfl

/-- No number starts like a word. -/
theorem word_of_number {limit : Option Nat} {s : Text} (is : IsNumber limit s) (rest : Text) :
    word? (s ++ rest) = none := by
  cases reads : word? (s ++ rest) with
  | none => rfl
  | some found =>
    obtain ⟨word, known, spells⟩ := word_sound reads
    obtain ⟨c, more, digit, rfl | rfl⟩ := is.head
    all_goals
      simp only [words, List.mem_cons, List.not_mem_nil, or_false, Prod.mk.injEq] at known
      rcases known with ⟨rfl, _⟩ | ⟨rfl, _⟩ | ⟨rfl, _⟩ | ⟨rfl, _⟩ | ⟨rfl, _⟩ | ⟨rfl, _⟩
      all_goals
        injection spells with first behind
        first
        | cases first
          done
        | subst first
          cases digit
        | injection behind with first
          subst first
          cases digit

/-- **What is read as a value without parts** is one, and no object. -/
theorem scalar_sound {limit : Option Nat} {t rest : Text} {j : Json}
    (reads : scalar limit t = .ok (j, rest)) :
    ∃ s, IsScalar limit s ∧ t = s ++ rest ∧ ∀ members, j ≠ .obj members := by
  rw [scalar] at reads
  cases found : word? t with
  | none =>
    rw [found] at reads
    obtain ⟨s, is, spells, other⟩ := number_sound reads
    exact ⟨s, .number is, spells, other⟩
  | some r =>
    rw [found] at reads
    obtain rfl := Except.ok.inj reads
    obtain ⟨word, known, spells⟩ := word_sound found
    refine ⟨word, .word known, spells, ?_⟩
    rintro members rfl
    simp only [words, List.mem_cons, List.not_mem_nil, or_false, Prod.mk.injEq, reduceCtorEq, and_false]
      at known

/-- **A value without parts is read** if what follows stops it. -/
theorem scalar_complete {limit : Option Nat} {s rest : Text} (is : IsScalar limit s) (stops : Stops rest) :
    ∃ j, scalar limit (s ++ rest) = .ok (j, rest) := by
  rw [scalar]
  cases is with
  | word known =>
    rw [word_complete known]
    exact ⟨_, rfl⟩
  | number is =>
    rw [word_of_number is]
    exact number_complete is stops

theorem scalar_error {limit : Option Nat} {t : Text} {fault : Fault}
    (fails : scalar limit t = .error fault) : ∀ container, fault ≠ .tooDeep container := by
  rw [scalar] at fails
  split at fails
  · cases fails
  · exact number_error fails

end Json

end Stencil
