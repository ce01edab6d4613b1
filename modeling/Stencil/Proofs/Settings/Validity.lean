import Stencil.Proofs.Encoding
import Stencil.Proofs.Text.Numeral

/-!
# Which settings are accepted

Settings are valid if the size of the cache and the depth of nesting are large enough, the directory of
templates has a name, and the encoding is known. Settings that are not valid are refused as a configuration,
except where the refusal itself cannot be worded: a number of too many digits has no text, and the name of
an encoding is not looked up if it has a NUL or a surrogate.

What is not chosen comes from the environment or has a default. The values that are then in force decide.

## Main definitions

- `TemplatingSettings.Valid` — the conditions on settings
- `TemplatingSettings.Unsayable` — what is wrong with settings cannot be said
- `TemplatingChoices.InForce` — the values that choices and an environment put in force
- `Settings.Recipe` — the ways to come to settings

## Main results

- `Settings.validate_cases` — what the validation of settings comes to
- `Settings.decided` — what each way to come to settings comes to
-/

namespace Stencil

namespace Encoding

/-- Some code point of a name keeps it from being looked up. -/
def Unspoken (name : Text) : Prop :=
  ∃ c ∈ name, c = 0 ∨ isSurrogate c = true

/-- **A name is looked up** unless it has a NUL or a surrogate. -/
theorem checkName_cases (name : Text) : (¬Unspoken name ∧ checkName name = .ok ()) ∨
    (Unspoken name ∧ ∃ f, checkName name = .error f ∧ (f.kind = .badValue ∨ f.kind = .encoding)) := by
  have writes (c : CodePoint) : Codec.utf8.Writes .refuse c ↔ isSurrogate c = false := by
    have none : Replacement.refuse.substitute? c = none := rfl
    cases surrogate : isSurrogate c <;>
      simp [Codec.Writes, Codec.unit?, Codec.replaced?, surrogate, none]
  have encodes := (Codec.encode_succeeds .utf8 .refuse name).symm
  simp only [writes] at encodes
  rw [checkName]
  cases encoded : Codec.utf8.encode .refuse name with
  | error fault =>
    refine .inr ⟨?_, _, rfl, .inr rfl⟩
    by_contra spoken
    obtain ⟨bytes, is⟩ := encodes.mp fun c mem => Bool.eq_false_iff.mpr fun surrogate => spoken ⟨c, mem, .inr surrogate⟩
    cases is.symm.trans encoded
  | ok bytes =>
    have none := encodes.mpr ⟨bytes, encoded⟩
    dsimp only
    by_cases nul : name.contains 0 = true
    · rw [if_pos nul]
      exact .inr ⟨⟨0, List.contains_iff_mem.mp nul, .inl rfl⟩, _, rfl, .inl rfl⟩
    · rw [if_neg nul]
      refine .inl ⟨?_, rfl⟩
      rintro ⟨c, mem, rfl | surrogate⟩
      · exact nul (List.contains_iff_mem.mpr mem)
      · cases (none c mem).symm.trans surrogate

/-- Names that settings accept are those that can be looked up and are found. -/
theorem accepted_iff {name : Text} : Accepted name ↔ ¬Unspoken name ∧ find name ≠ .unknown := by
  obtain ⟨spoken, passes⟩ | ⟨unspoken, f, fails, _⟩ := checkName_cases name
  · exact ⟨fun accepted => ⟨spoken, accepted.stands⟩, fun found => ⟨passes, found.2⟩⟩
  · exact ⟨fun accepted => (by cases fails.symm.trans accepted.passes), fun found => absurd unspoken found.1⟩

end Encoding

/-- An integer of no more digits than have a text. -/
def Sayable (i : Int) : Prop :=
  i.natAbs < 10 ^ intDigitLimit

theorem Settings.shown_cases (i : Int) : (Sayable i ∧ shown i = .ok (Text.ofInt i)) ∨
    (¬Sayable i ∧ ∃ f, shown i = .error f ∧ f.kind = .badValue) := by
  obtain ⟨short, is⟩ | ⟨long, r, is, kind⟩ := intText_cases i
  · exact .inl ⟨short, by rw [shown, is]; rfl⟩
  · exact .inr ⟨long, r.failure, by rw [shown, is]; rfl, kind⟩

namespace TemplatingSettings

/-- The conditions on settings. -/
structure Valid (t : TemplatingSettings) : Prop where
  size : 0 ≤ t.cacheSize
  depth : 1 ≤ t.maxRenderDepth
  dir : t.dir ≠ []
  encoding : Encoding.Accepted t.encoding

/-- What is first wrong with settings cannot be said. -/
def Unsayable (t : TemplatingSettings) : Prop :=
  (t.cacheSize < 0 ∧ ¬Sayable t.cacheSize) ∨
  (0 ≤ t.cacheSize ∧ t.maxRenderDepth < 1 ∧ ¬Sayable t.maxRenderDepth) ∨
  (0 ≤ t.cacheSize ∧ 1 ≤ t.maxRenderDepth ∧ t.dir ≠ [] ∧ Encoding.Unspoken t.encoding)

theorem Unsayable.not_valid {t : TemplatingSettings} (unsayable : t.Unsayable) : ¬t.Valid := by
  intro valid
  obtain ⟨small, -⟩ | ⟨-, shallow, -⟩ | ⟨-, -, -, unspoken⟩ := unsayable
  · exact absurd valid.size (Int.not_le.mpr small)
  · exact absurd valid.depth (Int.not_le.mpr shallow)
  · exact (Encoding.accepted_iff.mp valid.encoding).1 unspoken

end TemplatingSettings

namespace Settings

/-- **What the validation of settings comes to**: valid settings stay as they are, others are refused as a
configuration if what is wrong with them can be said. -/
theorem validate_cases (s : Settings) : (s.templating.Valid ∧ s.validate = .ok s) ∨
    (¬s.templating.Valid ∧ ¬s.templating.Unsayable ∧ ∃ f, s.validate = .error f ∧ f.kind = .configuration) ∨
    (s.templating.Unsayable ∧ ∃ f, s.validate = .error f ∧ (f.kind = .badValue ∨ f.kind = .encoding)) := by
  simp only [validate]
  by_cases size : s.templating.cacheSize < 0
  · rw [if_pos size]
    obtain ⟨short, is⟩ | ⟨long, f, is, kind⟩ := shown_cases s.templating.cacheSize
    · refine .inr (.inl ⟨fun valid => absurd valid.size (Int.not_le.mpr size), ?_, _, by rw [is]; rfl, rfl⟩)
      rintro (⟨-, long⟩ | ⟨large, -⟩ | ⟨large, -⟩)
      · exact long short
      · exact absurd large (Int.not_le.mpr size)
      · exact absurd large (Int.not_le.mpr size)
    · exact .inr (.inr ⟨.inl ⟨size, long⟩, f, by rw [is]; rfl, .inl kind⟩)
  rw [if_neg size]
  have large := Int.not_lt.mp size
  by_cases depth : s.templating.maxRenderDepth < 1
  · rw [if_pos depth]
    obtain ⟨short, is⟩ | ⟨long, f, is, kind⟩ := shown_cases s.templating.maxRenderDepth
    · refine .inr (.inl ⟨fun valid => absurd valid.depth (Int.not_le.mpr depth), ?_, _, by rw [is]; rfl, rfl⟩)
      rintro (⟨small, -⟩ | ⟨-, -, long⟩ | ⟨-, deep, -⟩)
      · exact size small
      · exact long short
      · exact absurd deep (Int.not_le.mpr depth)
    · exact .inr (.inr ⟨.inr (.inl ⟨large, depth, long⟩), f, by rw [is]; rfl, .inl kind⟩)
  rw [if_neg depth]
  have deep := Int.not_lt.mp depth
  by_cases dir : s.templating.dir = []
  · rw [dir]
    refine .inr (.inl ⟨fun valid => valid.dir dir, ?_, _, rfl, rfl⟩)
    rintro (⟨small, -⟩ | ⟨-, shallow, -⟩ | ⟨-, -, named, -⟩)
    · exact size small
    · exact depth shallow
    · exact named dir
  rw [if_neg fun empty => dir (List.isEmpty_iff.mp empty)]
  obtain ⟨spoken, passes⟩ | ⟨unspoken, f, fails, kind⟩ := Encoding.checkName_cases s.templating.encoding
  · -- a name that is looked up is known if it is found
    cases found : Encoding.find s.templating.encoding with
    | unknown =>
      refine .inr (.inl ⟨fun valid => valid.encoding.stands found, ?_, .ofText .configuration
        ("Unknown template encoding: " ++ s.templating.encoding), ?_, rfl⟩)
      · rintro (⟨small, -⟩ | ⟨-, shallow, -⟩ | ⟨-, -, -, unspoken⟩)
        · exact size small
        · exact depth shallow
        · exact spoken unspoken
      · simp only [knowsEncoding, passes, found]
        rfl
    | codec codec =>
      refine .inl ⟨⟨large, deep, dir, passes, by rw [found]; exact nofun⟩, ?_⟩
      simp only [knowsEncoding, passes, found]
      rfl
    | notText =>
      refine .inl ⟨⟨large, deep, dir, passes, by rw [found]; exact nofun⟩, ?_⟩
      simp only [knowsEncoding, passes, found]
      rfl
  · refine .inr (.inr ⟨.inr (.inr ⟨large, deep, dir, unspoken⟩), f, ?_, kind⟩)
    rw [knowsEncoding, fails]
    rfl

theorem valid_of_validate {s s' : Settings} (validated : s.validate = .ok s') :
    s.templating.Valid ∧ s' = s := by
  obtain ⟨valid, is⟩ | ⟨-, -, f, is, -⟩ | ⟨-, f, is, -⟩ := validate_cases s
  · exact ⟨valid, Except.ok.inj (validated.symm.trans is)⟩
  · cases is.symm.trans validated
  · cases is.symm.trans validated

end Settings

/-! ### What is in force -/

/-- **An integer of the environment** is spelled out there, and has no more digits than may be read. -/
theorem Environment.integer_cases (env : Environment) (name default : Text) :
    (∃ n, env.integer name default = .ok n ∧ Numeral.digitCount (env.getD name default) ≤ digitLimit ∧
      Numeral.Spells (env.getD name default) n) ∨
    ((∃ f, env.integer name default = .error f ∧ f.kind = .configuration) ∧
      ∀ n, Numeral.digitCount (env.getD name default) ≤ digitLimit →
        ¬Numeral.Spells (env.getD name default) n) := by
  simp only [integer]
  by_cases long : digitLimit < Numeral.digitCount (env.getD name default)
  · rw [if_pos long]
    exact .inr ⟨⟨_, rfl, rfl⟩, fun n short => absurd long (Nat.not_lt.mpr short)⟩
  rw [if_neg long]
  cases read : Numeral.readInt? 10 (env.getD name default) with
  | some n => exact .inl ⟨n, rfl, Nat.not_lt.mp long, Numeral.readInt?_eq_some_iff.mp read⟩
  | none =>
    refine .inr ⟨⟨_, rfl, rfl⟩, fun n _ spells => ?_⟩
    cases read.symm.trans (Numeral.readInt?_eq_some_iff.mpr spells)

namespace TemplatingChoices

/-- The size of the cache that is in force: the one chosen, or else the integer of the environment. -/
def SizeInForce (env : Environment) (choices : TemplatingChoices) (size : Int) : Prop :=
  match choices.cacheSize with
  | some chosen => size = chosen
  | none =>
    Numeral.digitCount (env.getD "TEMPLAR_CACHE_SIZE" "100") ≤ Environment.digitLimit ∧
      Numeral.Spells (env.getD "TEMPLAR_CACHE_SIZE" "100") size

/-- What choices put in force, with the environment and the defaults behind them. -/
structure InForce (env : Environment) (choices : TemplatingChoices) (t : TemplatingSettings) : Prop where
  size : choices.SizeInForce env t.cacheSize
  depth : t.maxRenderDepth = choices.maxRenderDepth.getD 32
  dir : t.dir = choices.dir.getD (env.getD "TEMPLAR_TEMPLATES_DIR" "templates")
  encoding : t.encoding = choices.encoding.getD "utf-8"

variable {env : Environment} {choices : TemplatingChoices} {t t' : TemplatingSettings}

theorem SizeInForce.unique {m n : Int} (first : choices.SizeInForce env m)
    (second : choices.SizeInForce env n) : m = n := by
  rw [SizeInForce] at first second
  cases chosen : choices.cacheSize with
  | some size =>
    rw [chosen] at first second
    exact first.trans second.symm
  | none =>
    rw [chosen] at first second
    have reads := Numeral.readInt?_eq_some_iff.mpr first.2
    exact Option.some.inj (reads.symm.trans (Numeral.readInt?_eq_some_iff.mpr second.2))

/-- What is in force decides whether settings are valid. -/
theorem InForce.valid_iff (first : choices.InForce env t) (second : choices.InForce env t') :
    (t.Valid ↔ t'.Valid) ∧ (t.Unsayable ↔ t'.Unsayable) := by
  have size := first.size.unique second.size
  have depth := first.depth.trans second.depth.symm
  have dir := first.dir.trans second.dir.symm
  have encoding := first.encoding.trans second.encoding.symm
  refine ⟨⟨fun valid => ?_, fun valid => ?_⟩, ?_⟩
  · exact ⟨size ▸ valid.size, depth ▸ valid.depth, dir ▸ valid.dir, encoding ▸ valid.encoding⟩
  · exact ⟨size ▸ valid.size, depth ▸ valid.depth, dir ▸ valid.dir, encoding ▸ valid.encoding⟩
  · rw [TemplatingSettings.Unsayable, TemplatingSettings.Unsayable, size, depth, dir, encoding]

/-- **What is in force if all but the size is a default** can be said. -/
theorem InForce.sayable (inForce : choices.InForce env t)
    (size : ∀ n, choices.cacheSize = some n → 0 ≤ n) (depth : choices.maxRenderDepth = none)
    (encoding : choices.encoding = none) : ¬t.Unsayable := by
  rintro (⟨small, long⟩ | ⟨-, shallow, -⟩ | ⟨-, -, -, unspoken⟩)
  · -- a size from the environment has no more digits than may be read
    have size' := inForce.size
    rw [SizeInForce] at size'
    split at size'
    · next n chosen => exact absurd (size n chosen) (Int.not_le.mpr (size' ▸ small))
    · exact long (size'.2.lt.trans_le (Nat.pow_le_pow_right (by decide) size'.1))
  · rw [inForce.depth, depth] at shallow
    exact absurd shallow (by decide)
  · rw [inForce.encoding, encoding] at unspoken
    have passes : Encoding.checkName "utf-8" = .ok () := rfl
    obtain ⟨spoken, -⟩ | ⟨-, f, fails, -⟩ := Encoding.checkName_cases "utf-8"
    · exact spoken unspoken
    · cases fails.symm.trans passes

end TemplatingChoices

/-- **Settings are chosen** if there are values in force. -/
theorem TemplatingSettings.choose_cases (env : Environment) (choices : TemplatingChoices) :
    (∃ t, choose env choices = .ok t ∧ choices.InForce env t) ∨
    ((∃ f, choose env choices = .error f ∧ f.kind = .configuration) ∧ ∀ t, ¬choices.InForce env t) := by
  rw [choose]
  cases chosen : choices.cacheSize with
  | some size =>
    refine .inl ⟨_, rfl, ?_, rfl, rfl, rfl⟩
    rw [TemplatingChoices.SizeInForce, chosen]
  | none =>
    obtain ⟨n, is, short, spells⟩ | ⟨⟨f, is, kind⟩, missing⟩ :=
      env.integer_cases "TEMPLAR_CACHE_SIZE" "100"
    · refine .inl ⟨_, by simp only [is]; rfl, ?_, rfl, rfl, rfl⟩
      rw [TemplatingChoices.SizeInForce, chosen]
      exact ⟨short, spells⟩
    · refine .inr ⟨⟨f, by simp only [is]; rfl, kind⟩, fun t inForce => ?_⟩
      have size := inForce.size
      rw [TemplatingChoices.SizeInForce, chosen] at size
      exact missing _ size.1 size.2

/-! ### Ways to come to settings -/

namespace Settings

/-- **What choices come to.** -/
theorem choose_cases (env : Environment) (debug : Option Bool) (layout : LayoutChoices)
    (templating : TemplatingChoices) (logging : LoggingChoices) :
    (∃ s, choose env debug layout templating logging = .ok s ∧ templating.InForce env s.templating ∧
      s.templating.Valid) ∨
    ((∃ f, choose env debug layout templating logging = .error f ∧ f.kind = .configuration) ∧
      ∀ t, templating.InForce env t → ¬t.Valid ∧ ¬t.Unsayable) ∨
    ((∃ f, choose env debug layout templating logging = .error f ∧
        (f.kind = .badValue ∨ f.kind = .encoding)) ∧
      ∃ t, templating.InForce env t ∧ t.Unsayable) := by
  rw [choose]
  obtain ⟨t, is, inForce⟩ | ⟨⟨f, is, kind⟩, missing⟩ := TemplatingSettings.choose_cases env templating
  · rw [is]
    obtain ⟨valid, result⟩ | ⟨invalid, sayable, f, result, kind⟩ | ⟨unsayable, f, result, kind⟩ :=
      validate_cases {
        debug := debug.getD (env.flag "DEBUG")
        layout := .choose env layout
        templating := t
        logging := .choose env logging }
    · exact .inl ⟨_, result, inForce, valid⟩
    · refine .inr (.inl ⟨⟨f, result, kind⟩, fun t' inForce' => ?_⟩)
      have same := inForce'.valid_iff inForce
      exact ⟨fun valid => invalid (same.1.mp valid), fun unsayable => sayable (same.2.mp unsayable)⟩
    · exact .inr (.inr ⟨⟨f, result, kind⟩, t, inForce, unsayable⟩)
  · exact .inr (.inl ⟨⟨f, by rw [is]; rfl, kind⟩, fun t inForce => absurd inForce (missing t)⟩)

/-- The ways to come to settings: to choose some, to take a preset, and to let the environment name one. -/
inductive Recipe where
  | chosen (debug : Option Bool) (layout : LayoutChoices) (templating : TemplatingChoices)
      (logging : LoggingChoices)
  | development
  | production
  | testing
  | ofEnvironment

namespace Recipe

/-- The settings that a recipe gives in an environment. -/
def settings (env : Environment) : Recipe → Except Failure Settings
  | chosen debug layout templating logging => Settings.choose env debug layout templating logging
  | development => Settings.development env
  | production => Settings.production env
  | testing => Settings.testing env
  | ofEnvironment => Settings.ofEnvironment env

def developmentTemplating : TemplatingChoices :=
  { cacheSize := some 0, staticallyCompile := some false }

def productionTemplating : TemplatingChoices :=
  { staticallyCompile := some true }

def testingTemplating : TemplatingChoices :=
  { dir := some "templates", cacheSize := some 10, staticallyCompile := some false,
    singleFlight := some false }

/-- What a recipe itself says about templates. -/
def templating (env : Environment) : Recipe → TemplatingChoices
  | chosen _ _ templating _ => templating
  | development => developmentTemplating
  | production => productionTemplating
  | testing => testingTemplating
  | ofEnvironment =>
    let name := (env.getD "TEMPLAR_ENV" "production").lower
    if name = ("development" : Text) then developmentTemplating
    else if name = ("testing" : Text) then testingTemplating
    else productionTemplating

/-- What is in force is valid. -/
def Fine (env : Environment) (recipe : Recipe) : Prop :=
  ∃ t, (recipe.templating env).InForce env t ∧ t.Valid

/-- What is wrong with what is in force cannot be said. -/
def Escaping (env : Environment) (recipe : Recipe) : Prop :=
  ∃ t, (recipe.templating env).InForce env t ∧ t.Unsayable

/-- **Every recipe is a choice.** -/
theorem settings_eq_choose (env : Environment) (recipe : Recipe) : ∃ debug layout logging,
    recipe.settings env = Settings.choose env debug layout (recipe.templating env) logging := by
  cases recipe with
  | chosen debug layout templating logging => exact ⟨debug, layout, logging, rfl⟩
  | development => exact ⟨_, _, _, rfl⟩
  | production => exact ⟨_, _, _, rfl⟩
  | testing => exact ⟨_, _, _, rfl⟩
  | ofEnvironment =>
    simp only [settings, Settings.ofEnvironment, templating]
    split
    · exact ⟨_, _, _, rfl⟩
    split
    · exact ⟨_, _, _, rfl⟩
    · exact ⟨_, _, _, rfl⟩

/-- A recipe that chooses nothing itself chooses no negative size, no depth and no encoding. -/
theorem preset_templating (env : Environment) (recipe : Recipe)
    (preset : ∀ debug layout templating logging, recipe ≠ .chosen debug layout templating logging) :
    (∀ n, (recipe.templating env).cacheSize = some n → 0 ≤ n) ∧
      (recipe.templating env).maxRenderDepth = none ∧ (recipe.templating env).encoding = none := by
  cases recipe with
  | chosen debug layout templating logging => exact absurd rfl (preset debug layout templating logging)
  | development => exact ⟨fun n is => (by cases is; decide), rfl, rfl⟩
  | production => exact ⟨nofun, rfl, rfl⟩
  | testing => exact ⟨fun n is => (by cases is; decide), rfl, rfl⟩
  | ofEnvironment =>
    simp only [templating]
    split
    · exact ⟨fun n is => (by cases is; decide), rfl, rfl⟩
    split
    · exact ⟨fun n is => (by cases is; decide), rfl, rfl⟩
    · exact ⟨nofun, rfl, rfl⟩

end Recipe

/-- A name with a NUL is not even looked up. -/
example : ∃ f, (Recipe.chosen none {} { encoding := some [97, 0, 98] } {}).settings [] = .error f ∧
    f.kind = .badValue :=
  ⟨_, rfl, rfl⟩

end Settings

end Stencil
