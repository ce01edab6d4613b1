import Stencil.Proofs.Json.Leaves

/-!
# Reading by the grammar

The reader accepts a text exactly if the grammar does, objects and arrays included, up to the depth and
the length of integers that it is limited to. What it reads as an object starts with a brace.

## Main definitions

- `Json.Sound` — what is read with some fuel is a part of a JSON text
- `Json.Reads` — a part of a JSON text is read, whatever follows it

## Main results

- `Json.sound`, `Json.Is.reads` — by induction over the fuel, and over the grammar
- `Json.read_ok_iff` — a text is read exactly if it is a document
- `Json.read_obj_iff` — and as an object exactly if it is an object
-/

namespace Stencil

namespace Json

variable {limit : Option Nat} {room fuel : Nat} {t rest : Text} {j : Json}

/-! ### What the reader does -/

section
variable (limit : Option Nat) (room fuel : Nat)

/-- An object from behind its brace on. -/
def insideObject (t : Text) : Except Fault (Json × Text) :=
  match skip t with
  | 125 :: rest => .ok (.obj [], rest)
  | rest => members limit room fuel [] rest

/-- An array from behind its bracket on. -/
def insideArray (t : Text) : Except Fault (Json × Text) :=
  match skip t with
  | 93 :: rest => .ok (.arr [], rest)
  | rest => items limit room fuel [] rest

theorem value_string (t : Text) : value limit room (fuel + 1) (34 :: t) =
    (stringBody (34 :: t) false [] t).map fun (s, rest) => (.str s, rest) := by
  rw [value.eq_def]
  rfl

theorem value_object (t : Text) :
    value limit (room + 1) (fuel + 1) (123 :: t) = insideObject limit room fuel t := by
  rw [value.eq_def]
  rfl

theorem value_array (t : Text) :
    value limit (room + 1) (fuel + 1) (91 :: t) = insideArray limit room fuel t := by
  rw [value.eq_def]
  rfl

theorem value_object_deep (t : Text) :
    value limit 0 (fuel + 1) (123 :: t) = .error (.tooDeep "object") := by
  rw [value.eq_def]
  rfl

theorem value_array_deep (t : Text) :
    value limit 0 (fuel + 1) (91 :: t) = .error (.tooDeep "array") := by
  rw [value.eq_def]
  rfl

theorem value_scalar {t : Text} (other : ∀ c, t.head? = some c → c ≠ 34 ∧ c ≠ 123 ∧ c ≠ 91) :
    value limit room (fuel + 1) t = scalar limit t := by
  rw [value.eq_def]
  dsimp only
  split
  · rfl
  · exact absurd rfl (other _ rfl).1
  · exact absurd rfl (other _ rfl).2.1
  · exact absurd rfl (other _ rfl).2.2
  · rfl

end

/-- The first code point of a text tells what kind of value it can be. -/
theorem start_cases (t : Text) : (∃ rest, t = 34 :: rest) ∨ (∃ rest, t = 123 :: rest) ∨
    (∃ rest, t = 91 :: rest) ∨ ∀ c, t.head? = some c → c ≠ 34 ∧ c ≠ 123 ∧ c ≠ 91 := by
  cases t with
  | nil => exact .inr (.inr (.inr nofun))
  | cons c rest =>
    by_cases quote : c = 34
    · exact .inl ⟨rest, by rw [quote]⟩
    by_cases brace : c = 123
    · exact .inr (.inl ⟨rest, by rw [brace]⟩)
    by_cases bracket : c = 91
    · exact .inr (.inr (.inl ⟨rest, by rw [bracket]⟩))
    refine .inr (.inr (.inr fun d head => ?_))
    obtain rfl := Option.some.inj head
    exact ⟨quote, brace, bracket⟩

/-- The members of an object once one of them has been read. -/
def membersAfter (limit : Option Nat) (room fuel : Nat) (acc : List (Text × Json)) (rest : Text) :
    Except Fault (Json × Text) :=
  match skip rest with
  | 125 :: rest => .ok (ofMembers acc.reverse, rest)
  | 44 :: rest => members limit room fuel acc (skip rest)
  | rest => .error (.malformed "Expecting ',' delimiter" rest)

theorem members_succ (limit : Option Nat) (room fuel : Nat) (acc : List (Text × Json)) (t : Text) :
    members limit room (fuel + 1) acc t = (memberName t >>= fun named =>
      value limit room fuel named.2 >>= fun valued =>
        membersAfter limit room fuel ((named.1, valued.1) :: acc) valued.2) := by
  rw [members]
  rfl

/-- The items of an array once one of them has been read. -/
def itemsAfter (limit : Option Nat) (room fuel : Nat) (acc : List Json) (rest : Text) :
    Except Fault (Json × Text) :=
  match skip rest with
  | 93 :: rest => .ok (.arr acc.reverse, rest)
  | 44 :: rest => items limit room fuel acc (skip rest)
  | rest => .error (.malformed "Expecting ',' delimiter" rest)

theorem items_succ (limit : Option Nat) (room fuel : Nat) (acc : List Json) (t : Text) :
    items limit room (fuel + 1) acc t = (value limit room fuel t >>= fun valued =>
      itemsAfter limit room fuel (valued.1 :: acc) valued.2) := by
  rw [items]
  rfl

/-! ### What is read is in the grammar -/

/-- What is read with some fuel is a part of a JSON text. -/
structure Sound (limit : Option Nat) (fuel : Nat) : Prop where
  value : ∀ {room t j rest}, value limit room fuel t = .ok (j, rest) →
    ∃ s, Is limit .value room s ∧ t = s ++ rest ∧ (s.head? = some 123 ↔ ∃ ms, j = .obj ms)
  members : ∀ {room acc t j rest}, members limit room fuel acc t = .ok (j, rest) →
    ∃ s, Is limit .members room s ∧ t = s ++ 125 :: rest ∧ ∃ ms, j = .obj ms
  items : ∀ {room acc t j rest}, items limit room fuel acc t = .ok (j, rest) →
    ∃ s, Is limit .items room s ∧ t = s ++ 93 :: rest ∧ ∀ ms, j ≠ .obj ms

namespace Sound

variable (sound : Sound limit fuel)
include sound

theorem next_object (reads : insideObject limit room fuel t = .ok (j, rest)) :
    ∃ s, Is limit .value (room + 1) (123 :: s) ∧ t = s ++ rest ∧ ∃ ms, j = .obj ms := by
  obtain ⟨blanks, blank, is⟩ := exists_skip t
  rw [insideObject] at reads
  split at reads
  · next found =>
    obtain ⟨rfl, rfl⟩ := Prod.mk.inj (Except.ok.inj reads)
    refine ⟨_, .emptyObject blank, ?_, [], rfl⟩
    rw [is, found]
    simp
  · obtain ⟨s, members, behind, object⟩ := sound.members reads
    refine ⟨_, .object blank members, ?_, object⟩
    rw [is, behind]
    simp

theorem next_array (reads : insideArray limit room fuel t = .ok (j, rest)) :
    ∃ s, Is limit .value (room + 1) (91 :: s) ∧ t = s ++ rest ∧ ∀ ms, j ≠ .obj ms := by
  obtain ⟨blanks, blank, is⟩ := exists_skip t
  rw [insideArray] at reads
  split at reads
  · next found =>
    obtain ⟨rfl, rfl⟩ := Prod.mk.inj (Except.ok.inj reads)
    refine ⟨_, .emptyArray blank, ?_, nofun⟩
    rw [is, found]
    simp
  · obtain ⟨s, items, behind, other⟩ := sound.items reads
    refine ⟨_, .array blank items, ?_, other⟩
    rw [is, behind]
    simp

theorem next_value (reads : Json.value limit room (fuel + 1) t = .ok (j, rest)) :
    ∃ s, Is limit .value room s ∧ t = s ++ rest ∧ (s.head? = some 123 ↔ ∃ ms, j = .obj ms) := by
  -- only what starts with a brace is an object
  have apart {c : CodePoint} {s : Text} (mark : c ≠ 123) (other : ∀ ms, j ≠ .obj ms) :
      (c :: s).head? = some 123 ↔ ∃ ms, j = .obj ms :=
    ⟨fun head => absurd (Option.some.inj head) mark, fun ⟨ms, e⟩ => absurd e (other ms)⟩
  obtain ⟨body, rfl⟩ | ⟨body, rfl⟩ | ⟨body, rfl⟩ | other := start_cases t
  · rw [value_string] at reads
    cases read : stringBody (34 :: body) false [] body with
    | error fault =>
      rw [read] at reads
      cases reads
    | ok found =>
      obtain ⟨string, behind⟩ := found
      rw [read] at reads
      obtain ⟨rfl, rfl⟩ := Prod.mk.inj (Except.ok.inj reads)
      obtain ⟨s, chars, rfl⟩ := stringBody_sound read
      exact ⟨_, .string chars, by simp, apart (by decide) nofun⟩
  · cases room with
    | zero =>
      rw [value_object_deep] at reads
      cases reads
    | succ room =>
      rw [value_object] at reads
      obtain ⟨s, is, rfl, object⟩ := sound.next_object reads
      exact ⟨_, is, rfl, fun _ => object, fun _ => rfl⟩
  · cases room with
    | zero =>
      rw [value_array_deep] at reads
      cases reads
    | succ room =>
      rw [value_array] at reads
      obtain ⟨s, is, rfl, other⟩ := sound.next_array reads
      exact ⟨_, is, rfl, apart (by decide) other⟩
  · rw [value_scalar limit room fuel other] at reads
    obtain ⟨s, scalar, rfl, different⟩ := scalar_sound reads
    obtain ⟨c, more, rfl, -⟩ := scalar.head
    exact ⟨_, .scalar scalar, rfl, apart (other c rfl).2.1 different⟩

theorem next_members {acc : List (Text × Json)}
    (reads : Json.members limit room (fuel + 1) acc t = .ok (j, rest)) :
    ∃ s, Is limit .members room s ∧ t = s ++ 125 :: rest ∧ ∃ ms, j = .obj ms := by
  rw [members_succ] at reads
  obtain ⟨⟨name, behind⟩, named, further⟩ := ok_of_bind reads
  obtain ⟨⟨v, after⟩, valued, separated⟩ := ok_of_bind further
  obtain ⟨n, front, back, chars, blank, blank', rfl⟩ := memberName_sound named
  obtain ⟨s, value, rfl, -⟩ := sound.value valued
  obtain ⟨blanks, spaced, is⟩ := exists_skip after
  rw [membersAfter] at separated
  split at separated
  · next found =>
    obtain ⟨rfl, rfl⟩ := Prod.mk.inj (Except.ok.inj separated)
    refine ⟨_, .lastMember (.member chars blank blank' value) spaced, ?_, _, rfl⟩
    rw [is, found]
    simp
  · next more found =>
    obtain ⟨others, are, behind, object⟩ := sound.members separated
    obtain ⟨blanks', spaced', is'⟩ := exists_skip more
    refine ⟨_, .nextMember (.member chars blank blank' value) spaced spaced' are, ?_, object⟩
    rw [is, found, is', behind]
    simp
  · cases separated

theorem next_items {acc : List Json}
    (reads : Json.items limit room (fuel + 1) acc t = .ok (j, rest)) :
    ∃ s, Is limit .items room s ∧ t = s ++ 93 :: rest ∧ ∀ ms, j ≠ .obj ms := by
  rw [items_succ] at reads
  obtain ⟨⟨v, after⟩, valued, separated⟩ := ok_of_bind reads
  obtain ⟨s, value, rfl, -⟩ := sound.value valued
  obtain ⟨blanks, spaced, is⟩ := exists_skip after
  rw [itemsAfter] at separated
  split at separated
  · next found =>
    obtain ⟨rfl, rfl⟩ := Prod.mk.inj (Except.ok.inj separated)
    refine ⟨_, .lastItem value spaced, ?_, nofun⟩
    rw [is, found]
    simp
  · next more found =>
    obtain ⟨others, are, behind, other⟩ := sound.items separated
    obtain ⟨blanks', spaced', is'⟩ := exists_skip more
    refine ⟨_, .nextItem value spaced spaced' are, ?_, other⟩
    rw [is, found, is', behind]
    simp
  · cases separated

end Sound

theorem sound (limit : Option Nat) (fuel : Nat) : Sound limit fuel := by
  induction fuel with
  | zero =>
    constructor
    · intro room t j rest reads
      rw [value] at reads
      cases reads
    · intro room acc t j rest reads
      rw [members] at reads
      cases reads
    · intro room acc t j rest reads
      rw [items] at reads
      cases reads
  | succ fuel ih => exact ⟨ih.next_value, ih.next_members, ih.next_items⟩

/-! ### What is in the grammar is read -/

/-- The fuel is enough for a text. -/
def Enough (fuel : Nat) (t : Text) : Prop :=
  2 * t.length < fuel

theorem Enough.succ (enough : Enough fuel t) : ∃ n, fuel = n + 1 :=
  Nat.exists_eq_add_one.mpr (Nat.zero_lt_of_lt enough)

/-- A part of a JSON text is read, whatever follows it. -/
def Reads (limit : Option Nat) (room : Nat) (s : Text) : Part → Prop
  | .value => ∀ fuel rest, Enough fuel (s ++ rest) → Stops rest →
      ∃ j, value limit room fuel (s ++ rest) = .ok (j, rest)
  | .member => ∀ fuel rest, Enough fuel (s ++ rest) → Stops rest →
      ∃ name v, ∀ acc, members limit room (fuel + 1) acc (s ++ rest) =
        membersAfter limit room fuel ((name, v) :: acc) rest
  | .members => ∀ fuel rest, Enough fuel (s ++ 125 :: rest) →
      ∀ acc, ∃ j, members limit room (fuel + 1) acc (s ++ 125 :: rest) = .ok (j, rest)
  | .items => ∀ fuel rest, Enough fuel (s ++ 93 :: rest) →
      ∀ acc, ∃ j, items limit room (fuel + 1) acc (s ++ 93 :: rest) = .ok (j, rest)

theorem stops_cons {c : CodePoint} (mark : isBlank c = true ∨ c = 44 ∨ c = 93 ∨ c = 125) (rest : Text) :
    Stops (c :: rest) := by
  intro d head
  obtain rfl := Option.some.inj head
  exact mark

/-- **A part of a JSON text is read**, whatever follows it. -/
theorem Is.reads {part : Part} {s : Text} (is : Is limit part room s) : Reads limit room s part := by
  induction is with
  | scalar scalar =>
    intro fuel rest enough stops
    obtain ⟨fuel, rfl⟩ := enough.succ
    obtain ⟨c, more, start, -, other⟩ := scalar.head
    obtain ⟨j, reads⟩ := scalar_complete scalar stops
    refine ⟨j, (value_scalar limit _ fuel ?_).trans reads⟩
    intro d head
    rw [start] at head
    obtain rfl := Option.some.inj head
    simp only [List.mem_cons, not_or] at other
    exact ⟨other.1, other.2.2.2.2.1, other.2.2.1⟩
  | @string room body chars =>
    intro fuel rest enough stops
    obtain ⟨fuel, rfl⟩ := enough.succ
    obtain ⟨t, reads⟩ := stringBody_complete chars false []
    refine ⟨.str t, ?_⟩
    rw [List.cons_append, List.append_assoc, List.singleton_append, value_string, reads]
    rfl
  | @emptyObject room blanks blank =>
    intro fuel rest enough stops
    obtain ⟨fuel, rfl⟩ := enough.succ
    refine ⟨.obj [], ?_⟩
    rw [List.cons_append, List.append_assoc, List.singleton_append, value_object, insideObject,
      skip_append blank, skip_cons (by decide)]
    rfl
  | @object room blanks s blank are ih =>
    intro fuel rest enough stops
    have size : 2 * (s ++ 125 :: rest).length + 2 < fuel := by
      simp only [Enough, List.length_append, List.length_cons, List.length_nil] at enough ⊢
      omega
    obtain ⟨fuel, rfl⟩ : ∃ n, fuel = n + 2 := ⟨fuel - 2, by omega⟩
    obtain ⟨j, reads⟩ := ih fuel rest (by rw [Enough]; omega) []
    obtain ⟨more, start⟩ := are.head_members
    refine ⟨j, ?_⟩
    rw [start, List.cons_append] at reads
    simp only [List.cons_append, List.append_assoc, List.nil_append]
    rw [value_object, insideObject, skip_append blank, start, List.cons_append, skip_cons (by decide)]
    exact reads
  | @emptyArray room blanks blank =>
    intro fuel rest enough stops
    obtain ⟨fuel, rfl⟩ := enough.succ
    refine ⟨.arr [], ?_⟩
    rw [List.cons_append, List.append_assoc, List.singleton_append, value_array, insideArray,
      skip_append blank, skip_cons (by decide)]
    rfl
  | @array room blanks s blank are ih =>
    intro fuel rest enough stops
    have size : 2 * (s ++ 93 :: rest).length + 2 < fuel := by
      simp only [Enough, List.length_append, List.length_cons, List.length_nil] at enough ⊢
      omega
    obtain ⟨fuel, rfl⟩ : ∃ n, fuel = n + 2 := ⟨fuel - 2, by omega⟩
    obtain ⟨j, reads⟩ := ih fuel rest (by rw [Enough]; omega) []
    obtain ⟨c, more, start, mark, other⟩ := are.head_items
    refine ⟨j, ?_⟩
    rw [start, List.cons_append] at reads
    simp only [List.cons_append, List.append_assoc, List.nil_append]
    rw [value_array, insideArray, skip_append blank, start, List.cons_append, skip_cons mark]
    split
    · next is => exact absurd (List.cons.inj is).1 other
    · exact reads
  | @member room n front back s chars blank blank' is ih =>
    intro fuel rest enough stops
    obtain ⟨c, more, start, mark, -⟩ := is.head_value
    have size : Enough fuel (s ++ rest) := by
      simp only [Enough, List.length_append, List.length_cons] at enough ⊢
      omega
    obtain ⟨v, reads⟩ := ih fuel rest size stops
    obtain ⟨name, named⟩ := memberName_complete chars blank blank' (s ++ rest)
    refine ⟨name, v, fun acc => ?_⟩
    have skipped : skip (s ++ rest) = s ++ rest := by rw [start, List.cons_append, skip_cons mark]
    simp only [List.cons_append, List.append_assoc]
    rw [members_succ, named]
    change (value limit room fuel (skip (s ++ rest)) >>= fun _ => _) = _
    rw [skipped, reads]
    rfl
  | @lastMember room s blanks _ blank ih =>
    intro fuel rest enough acc
    rw [List.append_assoc] at enough ⊢
    obtain ⟨name, v, reads⟩ := ih fuel _ enough (stops_append blank (stops_cons (by decide) rest))
    rw [reads, membersAfter, skip_append blank, skip_cons (by decide)]
    exact ⟨_, rfl⟩
  | @nextMember room s front back others _ blank blank' are ih ih' =>
    intro fuel rest enough acc
    simp only [List.append_assoc, List.cons_append] at enough ⊢
    obtain ⟨name, v, reads⟩ := ih fuel _ enough (stops_append blank (stops_cons (by decide) _))
    obtain ⟨more, start⟩ := are.head_members
    have skipped : skip (back ++ (others ++ 125 :: rest)) = others ++ 125 :: rest := by
      rw [skip_append blank', start, List.cons_append, skip_cons (by decide)]
    have size : 2 * (others ++ 125 :: rest).length + 2 < fuel := by
      simp only [Enough, List.length_append, List.length_cons] at enough ⊢
      omega
    obtain ⟨fuel, rfl⟩ : ∃ n, fuel = n + 1 := ⟨fuel - 1, by omega⟩
    rw [reads, membersAfter, skip_append blank, skip_cons (by decide)]
    change ∃ j, members limit room (fuel + 1) _ (skip _) = .ok (j, rest)
    rw [skipped]
    exact ih' fuel rest (by rw [Enough]; omega) _
  | @lastItem room s blanks _ blank ih =>
    intro fuel rest enough acc
    rw [List.append_assoc] at enough ⊢
    obtain ⟨v, reads⟩ := ih fuel _ enough (stops_append blank (stops_cons (by decide) rest))
    rw [items_succ, reads]
    refine ⟨.arr (v :: acc).reverse, ?_⟩
    change itemsAfter limit room fuel (v :: acc) (blanks ++ 93 :: rest) = _
    rw [itemsAfter, skip_append blank, skip_cons (by decide)]
    rfl
  | @nextItem room s front back others _ blank blank' are ih ih' =>
    intro fuel rest enough acc
    simp only [List.append_assoc, List.cons_append] at enough ⊢
    obtain ⟨v, reads⟩ := ih fuel _ enough (stops_append blank (stops_cons (by decide) _))
    obtain ⟨c, more, start, mark, -⟩ := are.head_items
    have skipped : skip (back ++ (others ++ 93 :: rest)) = others ++ 93 :: rest := by
      rw [skip_append blank', start, List.cons_append, skip_cons mark]
    have size : 2 * (others ++ 93 :: rest).length + 2 < fuel := by
      simp only [Enough, List.length_append, List.length_cons] at enough ⊢
      omega
    obtain ⟨fuel, rfl⟩ : ∃ n, fuel = n + 1 := ⟨fuel - 1, by omega⟩
    rw [items_succ, reads]
    change ∃ j, itemsAfter limit room (fuel + 1) (v :: acc)
      (front ++ 44 :: (back ++ (others ++ 93 :: rest))) = .ok (j, rest)
    rw [itemsAfter, skip_append blank, skip_cons (by decide)]
    change ∃ j, items limit room (fuel + 1) _ (skip _) = .ok (j, rest)
    rw [skipped]
    exact ih' fuel rest (by rw [Enough]; omega) _

/-! ### Documents -/

variable (limits : Limits)

theorem stops_nil : Stops [] := nofun

theorem stops_blank {blanks : Text} (blank : Blank blanks) : Stops blanks := by
  simpa using stops_append blank stops_nil

/-- What is read as a document is a value between blanks. -/
theorem read_sound (reads : read (some limits) t = .ok j) :
    ∃ before s after, t = before ++ (s ++ after) ∧ Blank before ∧ Blank after ∧
      Is (some limits.digits) .value limits.nesting s ∧
      (s.head? = some 123 ↔ ∃ ms, j = .obj ms) := by
  rw [read] at reads
  split at reads
  · cases reads
  obtain ⟨⟨v, behind⟩, valued, ended⟩ := ok_of_bind reads
  obtain ⟨before, front, is⟩ := exists_skip t
  obtain ⟨s, value, spells, object⟩ := (sound _ _).value valued
  obtain ⟨after, back, is'⟩ := exists_skip behind
  dsimp only at ended
  split at ended
  · next found =>
    obtain rfl := Except.ok.inj ended
    rw [found, List.append_nil] at is'
    exact ⟨before, s, after, by rw [← is', ← spells, ← is], front, back, value, object⟩
  · cases ended

/-- A value between blanks is read as a document. -/
theorem read_complete {before s after : Text} (front : Blank before) (back : Blank after)
    (is : Is (some limits.digits) .value limits.nesting s) :
    ∃ j, read (some limits) (before ++ (s ++ after)) = .ok j := by
  obtain ⟨c, more, start, mark, other⟩ := is.head_value
  have unmarked : (before ++ (s ++ after)).head? ≠ some 0xFEFF := by
    cases before with
    | nil =>
      rw [start]
      exact fun head => absurd (by rw [Option.some.inj head]; decide) other
    | cons b before =>
      intro head
      have blank := front b List.mem_cons_self
      obtain rfl := Option.some.inj head
      cases blank
  have skipped : skip (before ++ (s ++ after)) = s ++ after := by
    rw [skip_append front, start, List.cons_append, skip_cons mark]
  have enough : Enough (2 * (before ++ (s ++ after)).length + 2) (s ++ after) := by
    simp only [Enough, List.length_append]
    omega
  obtain ⟨j, reads⟩ := is.reads _ after enough (stops_blank back)
  have ended : skip after = [] := by simpa [skip] using skip_append back []
  refine ⟨j, ?_⟩
  rw [read, if_neg unmarked]
  change (value (some limits.digits) limits.nesting _ (skip _) >>= fun _ => _) = _
  rw [skipped, reads]
  simp only [bind, Except.bind, ended]

/-- **A text is read exactly if it is a document.** -/
theorem read_ok_iff : (∃ j, read (some limits) t = .ok j) ↔ Document limits t := by
  constructor
  · rintro ⟨j, reads⟩
    obtain ⟨before, s, after, spells, front, back, is, -⟩ := read_sound limits reads
    exact ⟨before, s, after, spells, front, back, is⟩
  · rintro ⟨before, s, after, rfl, front, back, is⟩
    exact read_complete limits front back is

/-- **A text is read as an object exactly if it is one.** -/
theorem read_obj_iff : (∃ ms, read (some limits) t = .ok (.obj ms)) ↔ ObjectDocument limits t := by
  constructor
  · rintro ⟨ms, reads⟩
    obtain ⟨before, s, after, spells, front, back, is, object⟩ := read_sound limits reads
    exact ⟨before, s, after, spells, front, back, is, object.mpr ⟨ms, rfl⟩⟩
  · rintro ⟨before, s, after, rfl, front, back, is, head⟩
    obtain ⟨j, reads⟩ := read_complete limits front back is
    obtain ⟨before', s', after', spells, front', back', is', object⟩ := read_sound limits reads
    -- a text can be split in only one way
    have head' : s'.head? = some 123 := by
      obtain ⟨c, more, start, mark, -⟩ := is.head_value
      obtain ⟨c', more', start', mark', -⟩ := is'.head_value
      have same : skip (before ++ (s ++ after)) = skip (before' ++ (s' ++ after')) := by rw [spells]
      rw [skip_append front, skip_append front', start, start', List.cons_append, List.cons_append,
        skip_cons mark, skip_cons mark'] at same
      rw [start] at head
      rw [start', ← (List.cons.inj same).1]
      exact head
    obtain ⟨ms, rfl⟩ := object.mp head'
    exact ⟨ms, reads⟩

end Json

end Stencil
