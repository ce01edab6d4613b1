import Stencil.Proofs.ErrorPage

/-!
# Nothing can be injected into the error page

With escaping on, the text of the error page is its skeleton with escaped texts in the fields. Escaped
text has no opening bracket, so it cannot begin a tag; and between two fields the skeleton closes every
tag that it opens. So the tags of the page are those of the skeleton, and of the values of a model only
this matters: which of the guarded parts they call for.

## Main definitions

- `Markup.tags` — the tags of a text
- `Skeleton.fill`, `Skeleton.tags` — a skeleton with texts in its fields, and its own tags
- `ErrorPage.fields`, `ErrorPage.calls` — the escaped texts of values, and the parts they call for

## Main results

- `Skeleton.tags_fill` — texts that begin no tag do not change the tags
- `Session.page_tags` — the page for a mapping, and that its tags depend on four answers only
-/

namespace Stencil

open Template

namespace Markup

/-! ### Tags -/

/-- The tags of a text from within a tag, or from outside of all, and the tag that is open at its end. -/
def scan : Option Text → Text → List Text × Option Text
  | open?, [] => ([], open?)
  | none, c :: rest => if c = 60 then scan (some [c]) rest else scan none rest
  | some tag, c :: rest =>
    if c = 62 then
      let (tags, open?) := scan none rest
      ((tag ++ [c]) :: tags, open?)
    else scan (some (tag ++ [c])) rest

/-- The tags of a text: what is between an opening and the next closing bracket. -/
def tags (t : Text) : List Text :=
  (scan none t).1

/-- A text that closes every tag that it opens. -/
def Closed (t : Text) : Prop :=
  (scan none t).2 = none

/-- A text that begins no tag. -/
def Inert (t : Text) : Prop :=
  ∀ c ∈ t, c ≠ 60

theorem scan_append (open? : Option Text) (t u : Text) : scan open? (t ++ u) =
    ((scan open? t).1 ++ (scan (scan open? t).2 u).1, (scan (scan open? t).2 u).2) := by
  induction t generalizing open? with
  | nil => rfl
  | cons c t ih =>
    cases open? with
    | none =>
      by_cases opens : c = 60
      · simp only [List.cons_append, scan, if_pos opens, ih]
      · simp only [List.cons_append, scan, if_neg opens, ih]
    | some tag =>
      by_cases closes : c = 62
      · simp only [List.cons_append, scan, if_pos closes, ih]
      · simp only [List.cons_append, scan, if_neg closes, ih]

theorem tags_append {t : Text} (closed : Closed t) (u : Text) : tags (t ++ u) = tags t ++ tags u := by
  rw [tags, scan_append, closed]
  rfl

theorem scan_inert {t : Text} (inert : Inert t) : scan none t = ([], none) := by
  induction t with
  | nil => rfl
  | cons c t ih =>
    rw [scan, if_neg (inert c List.mem_cons_self)]
    exact ih fun d mem => inert d (List.mem_cons_of_mem _ mem)

theorem Inert.append {t u : Text} (first : Inert t) (second : Inert u) : Inert (t ++ u) := by
  intro c mem
  obtain mem | mem := List.mem_append.mp mem
  · exact first c mem
  · exact second c mem

theorem Inert.flatMap {t : Text} {f : CodePoint → Text} (each : ∀ c ∈ t, Inert (f c)) :
    Inert (t.flatMap f) := by
  intro c mem
  obtain ⟨d, mem, mem'⟩ := List.mem_flatMap.mp mem
  exact each d mem c mem'

/-- **Escaped text begins no tag.** -/
theorem inert_escape (t : Text) : Inert (escape t) := by
  refine .flatMap fun c _ => ?_
  unfold escapePoint
  repeat' split
  -- a special character becomes a reference, and any other one is no bracket
  case isFalse.isFalse.isFalse.isFalse.isFalse plain _ _ _ =>
    intro d mem
    obtain rfl := List.mem_singleton.mp mem
    exact plain
  all_goals
    intro d mem
    revert d
    decide

end Markup

namespace Codec

variable (codec : Codec)

theorem referenced_append (t u : Text) :
    codec.referenced (t ++ u) = codec.referenced t ++ codec.referenced u :=
  List.flatMap_append

/-- ASCII stays what it is. -/
theorem referenced_ascii {t : Text} (ascii : Text.isAscii t = true) : codec.referenced t = t := by
  rw [Text.isAscii, List.all_eq_true] at ascii
  induction t with
  | nil => rfl
  | cons c t ih =>
    have has := isSome_unit_of_ascii codec (of_decide_eq_true (ascii c List.mem_cons_self))
    rw [referenced, List.flatMap_cons, if_pos has, ← referenced,
      ih fun d mem => ascii d (List.mem_cons_of_mem _ mem)]
    rfl

/-- A reference begins no tag either. -/
theorem inert_referenced {t : Text} (inert : Markup.Inert t) : Markup.Inert (codec.referenced t) := by
  refine .flatMap fun c mem => ?_
  split
  · intro d same
    obtain rfl := List.mem_singleton.mp same
    exact inert d mem
  · intro d part
    obtain ⟨_, high⟩ | rfl | rfl | rfl := reference_points c d part
    · exact Nat.ne_of_lt (Nat.lt_of_le_of_lt high (by decide))
    all_goals decide

end Codec

namespace Template

namespace Skeleton

/-! ### Filling a skeleton -/

/-- A skeleton with texts in its fields, and with the guarded parts that are called for. -/
def fill (fields : Text → Option Text) (called : Text → Bool) : Skeleton → Text
  | done => []
  | text t rest => t ++ rest.fill fields called
  | field name default rest => ((fields name).or default).getD [] ++ rest.fill fields called
  | guarded name inner rest =>
    (if called name then inner.fill fields called else []) ++ rest.fill fields called

/-- The tags of the texts of a skeleton. -/
def tags (called : Text → Bool) : Skeleton → List Text
  | done => []
  | text t rest => Markup.tags t ++ rest.tags called
  | field _ _ rest => rest.tags called
  | guarded name inner rest => (if called name then inner.tags called else []) ++ rest.tags called

/-- The variables that decide which parts there are. -/
def guards : Skeleton → List Text
  | done => []
  | text _ rest => rest.guards
  | field _ _ rest => rest.guards
  | guarded name inner rest => name :: (inner.guards ++ rest.guards)

/-- The texts of a skeleton are ASCII and close their tags, and its defaults need no escape. -/
def isTidy : Skeleton → Bool
  | done => true
  | text t rest => t.isAscii && (Markup.scan none t).2.isNone && rest.isTidy
  | field _ default rest => default.all (fun d => Markup.escape d == d) && rest.isTidy
  | guarded _ inner rest => inner.isTidy && rest.isTidy

variable {called called' : Text → Bool}

/-- Only what is called for by the guards matters to the tags. -/
theorem tags_congr {k : Skeleton} (same : ∀ name ∈ k.guards, called name = called' name) :
    k.tags called = k.tags called' := by
  induction k with
  | done => rfl
  | text t rest ih => rw [tags, tags, ih same]
  | field name default rest ih => exact ih same
  | guarded name inner rest ih ih' =>
    rw [tags, tags, same name List.mem_cons_self,
      ih fun n mem => same n (List.mem_cons_of_mem _ (List.mem_append_left _ mem)),
      ih' fun n mem => same n (List.mem_cons_of_mem _ (List.mem_append_right _ mem))]

/-- **Texts that begin no tag** do not change the tags of a skeleton, also when what an encoding does not
have is written as references. -/
theorem tags_fill (codec : Codec) {k : Skeleton} (tidy : k.isTidy = true)
    {fields : Text → Option Text} (inert : ∀ name t, fields name = some t → Markup.Inert t) :
    Markup.scan none (codec.referenced (k.fill fields called)) = (k.tags called, none) := by
  induction k with
  | done => rfl
  | text t rest ih =>
    rw [isTidy, Bool.and_eq_true, Bool.and_eq_true] at tidy
    obtain ⟨⟨ascii, closed⟩, tidy⟩ := tidy
    rw [fill, codec.referenced_append, codec.referenced_ascii ascii, Markup.scan_append,
      Option.isNone_iff_eq_none.mp closed, ih tidy]
    rfl
  | field name default rest ih =>
    rw [isTidy, Bool.and_eq_true] at tidy
    -- an escaped default is the default itself
    have content : Markup.Inert (((fields name).or default).getD []) := by
      cases given : fields name with
      | some t => exact inert name t given
      | none =>
        cases default with
        | none => exact fun c mem => absurd mem List.not_mem_nil
        | some d =>
          have same : Markup.escape d = d := by simpa using tidy.1
          exact same ▸ Markup.inert_escape d
    rw [fill, codec.referenced_append, Markup.scan_append,
      Markup.scan_inert (codec.inert_referenced content), ih tidy.2]
    rfl
  | guarded name inner rest ih ih' =>
    rw [isTidy, Bool.and_eq_true] at tidy
    rw [fill, codec.referenced_append, Markup.scan_append, tags]
    cases called name with
    | true =>
      simp only [if_true, ih tidy.1, ih' tidy.2]
    | false =>
      have empty : Markup.scan none (codec.referenced []) = ([], none) := rfl
      simp only [Bool.false_eq_true, if_false, empty, ih' tidy.2]

/-- Where text is escaped, a skeleton is filled with the escaped texts of its variables, unless one of them
is safe. -/
theorem write_eq_fill {vars : Text → Option Model} {k : Skeleton} (tidy : k.isTidy = true)
    (plain : ∀ name t, vars name ≠ some (.safe t)) :
    k.write true vars = k.fill (fun name => (vars name).map fun x => Markup.escape x.text)
      fun name => (vars name).any Model.holds := by
  have shown (name : Text) {x : Model} (is : vars name = some x) :
      Skeleton.shown true x = Markup.escape x.text := by
    cases x with
    | safe t => exact absurd is (plain name t)
    | _ => rfl
  induction k with
  | done => rfl
  | text t rest ih =>
    rw [isTidy, Bool.and_eq_true] at tidy
    rw [write, fill, ih tidy.2]
  | field name default rest ih =>
    rw [isTidy, Bool.and_eq_true] at tidy
    rw [write, fill, ih tidy.2]
    congr 1
    cases is : vars name with
    | some x => exact shown name is
    | none =>
      cases default with
      | none => rfl
      | some d =>
        have same : Markup.escape d = d := by simpa using tidy.1
        exact same
  | guarded name inner rest ih ih' =>
    rw [isTidy, Bool.and_eq_true] at tidy
    rw [write, fill, ih tidy.1, ih' tidy.2]

end Skeleton

end Template

namespace ErrorPage

/-! ### The page -/

/-- What the fields of the page show for a mapping: the escaped texts of its values. -/
def fields (entries : List (Text × Model)) (name : Text) : Option Text :=
  (Table.last? entries name).map fun x => Markup.escape x.text

/-- Whether a mapping calls for the part that a name guards: it has a value for it that holds. -/
def calls (entries : List (Text × Model)) (name : Text) : Bool :=
  (Table.last? entries name).any Model.holds

/-- The names that decide which parts of the page there are. -/
def guards : List Text := ["exception_type", "template_name", "line_number", "stacktrace"]

/-- A mapping without safe texts. -/
def Plain (entries : List (Text × Model)) : Prop :=
  ∀ e ∈ entries, ∀ t, e.2 ≠ .safe t

theorem skeleton_isTidy (trim keep : Bool) : (skeleton trim keep).isTidy = true := by
  revert trim keep
  decide +kernel

theorem skeleton_guards (trim keep : Bool) : (skeleton trim keep).guards = guards := by
  cases trim <;> rfl

/-- The text of the page is its skeleton with escaped texts in the fields. -/
theorem text_eq_fill {c : Compiler} (escapes : c.autoEscape = true) {entries : List (Text × Model)}
    (plain : Plain entries) : text c entries =
      (skeleton c.spacing.trimBlocks c.spacing.keepTrailingNewline).fill (fields entries)
        (calls entries) := by
  rw [text, escapes]
  refine Skeleton.write_eq_fill (skeleton_isTidy _ _) fun name t is => ?_
  obtain ⟨before, after, split, _⟩ := List.lookup_eq_some_iff.mp is
  refine plain (name, .safe t) (List.mem_reverse.mp ?_) t rfl
  rw [split]
  exact List.mem_append_right _ List.mem_cons_self

/-- The text of the page as it is encoded: escaped texts in the fields of the skeleton, and then references
for what the encoding does not have. -/
def written (codec : Codec) (c : Compiler) (entries : List (Text × Model)) : Text :=
  codec.referenced ((skeleton c.spacing.trimBlocks c.spacing.keepTrailingNewline).fill
    (fields entries) (calls entries))

/-- The tags of the page are those of its skeleton. -/
theorem tags_written (codec : Codec) (c : Compiler) (entries : List (Text × Model)) :
    Markup.tags (written codec c entries) =
      (skeleton c.spacing.trimBlocks c.spacing.keepTrailingNewline).tags (calls entries) := by
  have inert : ∀ name t, fields entries name = some t → Markup.Inert t := by
    intro name t is
    obtain ⟨x, _, rfl⟩ := Option.map_eq_some_iff.mp is
    exact Markup.inert_escape x.text
  rw [Markup.tags, written, Skeleton.tags_fill codec (skeleton_isTidy _ _) inert]

end ErrorPage

end Stencil
