import Mathlib.Data.List.Basic
import Stencil.Proofs.Encoding
import Stencil.Proofs.Storage.Leads
import Stencil.Storage.Local

/-!
# Reading files

What a template source in a file is read as depends on what its path leads to: a regular file gives its
bytes, nothing and a directory are templates that are not there, and whatever else keeps the path from
being followed is a failure to read. That leaves the paths that no file can have. They are not looked
up at all, and what is raised for them is no problem of the template family.

## Main definitions

- `Path.Filable` — the code points that the path of a file can have
- `LocalStorage.Refused` — a read that was refused, with the refusal as its cause

## Main results

- `LocalStorage.filable_resolve` — the resolved path has the code points of the path and of its base
- `LocalStorage.read_classified` — what every read comes to
-/

namespace Stencil

namespace Text

theorem append_of_cut? {sep : Text} : ∀ {t before after : Text},
    cut? sep t = some (before, after) → t = before ++ sep ++ after := by
  intro t
  induction t with
  | nil =>
    intro before after cut
    rw [cut?] at cut
    split at cut
    · next empty =>
      obtain ⟨rfl, rfl⟩ := Prod.mk.inj (Option.some.inj cut)
      rw [List.isEmpty_iff.mp empty]
      rfl
    · cases cut
  | cons c rest ih =>
    intro before after cut
    rw [cut?] at cut
    split at cut
    · next starts =>
      obtain ⟨rfl, rfl⟩ := Prod.mk.inj (Option.some.inj cut)
      obtain ⟨behind, is⟩ := List.isPrefixOf_iff_prefix.mp starts
      rw [← is, List.drop_left]
      rfl
    · obtain ⟨⟨before', after'⟩, cut', same⟩ := Option.map_eq_some_iff.mp cut
      obtain ⟨rfl, rfl⟩ := Prod.mk.inj same
      rw [ih cut']
      rfl

/-- The parts of a text, joined again. -/
theorem join_splitAtMost (sep : Text) (limit : Nat) (t : Text) :
    join sep (splitAtMost sep limit t) = t := by
  induction limit generalizing t with
  | zero => exact List.intercalate_singleton
  | succ limit ih =>
    rw [splitAtMost]
    cases cut : cut? sep t with
    | none => exact List.intercalate_singleton
    | some found =>
      obtain ⟨before, after⟩ := found
      have joined := ih after
      dsimp only
      rw [append_of_cut? cut]
      cases parts : splitAtMost sep limit after with
      | nil =>
        -- there is always a part
        cases limit with
        | zero => cases parts
        | succ limit =>
          rw [splitAtMost] at parts
          split at parts <;> cases parts
      | cons part parts' =>
        rw [parts] at joined
        rw [join, List.intercalate_cons_cons, ← join, joined]

/-- The part before a separator does not have it, and what cannot be cut does not either. -/
theorem not_mem_of_cut? {c : CodePoint} (t : Text) :
    (∀ before after, cut? [c] t = some (before, after) → c ∉ before) ∧ (cut? [c] t = none → c ∉ t) := by
  induction t with
  | nil => exact ⟨fun before after cut => (by cases cut), fun _ => List.not_mem_nil⟩
  | cons d rest ih =>
    rw [cut?]
    split
    · refine ⟨fun before after cut => ?_, fun cut => (by cases cut)⟩
      obtain ⟨rfl, -⟩ := Prod.mk.inj (Option.some.inj cut)
      exact List.not_mem_nil
    · next other =>
      have other : c ≠ d := by
        rintro rfl
        exact other (List.isPrefixOf_iff_prefix.mpr (List.prefix_append [c] rest))
      constructor
      · intro before after cut
        obtain ⟨⟨before', after'⟩, cut', same⟩ := Option.map_eq_some_iff.mp cut
        obtain ⟨rfl, -⟩ := Prod.mk.inj same
        exact List.not_mem_cons_of_ne_of_not_mem other (ih.1 before' after' cut')
      · intro cut
        exact List.not_mem_cons_of_ne_of_not_mem other (ih.2 (Option.map_eq_none_iff.mp cut))

/-- The parts between a code point do not have it. -/
theorem not_mem_of_mem_splitOn {c : CodePoint} {t part : Text} (among : part ∈ splitOn [c] t) :
    c ∉ part := by
  have each : ∀ (limit : Nat) (t : Text), t.length < limit →
      ∀ part ∈ splitAtMost [c] limit t, c ∉ part := by
    intro limit
    induction limit with
    | zero => exact fun t short => absurd short (Nat.not_lt_zero _)
    | succ limit ih =>
      intro t short part among
      rw [splitAtMost] at among
      cases cut : cut? [c] t with
      | none =>
        rw [cut] at among
        exact List.mem_singleton.mp among ▸ (not_mem_of_cut? t).2 cut
      | some found =>
        obtain ⟨before, after⟩ := found
        rw [cut] at among
        obtain rfl | among := List.mem_cons.mp among
        · exact (not_mem_of_cut? t).1 part after cut
        · refine ih after ?_ part among
          have whole := congrArg List.length (append_of_cut? cut)
          rw [List.length_append, List.length_append, List.length_singleton] at whole
          omega
  exact each (t.length + 1) t (Nat.lt_succ_self _) part among

/-- A code point of joined parts is one of the separator or of a part. -/
theorem mem_join {sep : Text} {parts : List Text} {c : CodePoint} (mem : c ∈ join sep parts) :
    c ∈ sep ∨ ∃ part ∈ parts, c ∈ part := by
  induction parts with
  | nil => cases mem
  | cons part parts ih =>
    cases parts with
    | nil =>
      rw [join, List.intercalate_singleton] at mem
      exact .inr ⟨part, List.mem_cons_self, mem⟩
    | cons part' parts =>
      rw [join, List.intercalate_cons_cons, List.mem_append, List.mem_append] at mem
      obtain (mem | mem) | mem := mem
      · exact .inr ⟨part, List.mem_cons_self, mem⟩
      · exact .inl mem
      · obtain mem | ⟨other, among, mem⟩ := ih mem
        · exact .inl mem
        · exact .inr ⟨other, List.mem_cons_of_mem _ among, mem⟩

theorem mem_join_of_mem (sep : Text) {parts : List Text} {part : Text} {c : CodePoint}
    (among : part ∈ parts) (mem : c ∈ part) : c ∈ join sep parts := by
  induction parts with
  | nil => cases among
  | cons first parts ih =>
    cases parts with
    | nil =>
      obtain rfl := List.mem_singleton.mp among
      rwa [join, List.intercalate_singleton]
    | cons second parts =>
      rw [join, List.intercalate_cons_cons, List.mem_append, List.mem_append]
      obtain rfl | among := List.mem_cons.mp among
      · exact .inl (.inl mem)
      · exact .inr (ih among)

end Text

namespace Path

/-- A code point that the path of a file can have: no NUL, and no surrogate but one that stands for a
byte. -/
def Filable (c : CodePoint) : Prop :=
  c ≠ 0 ∧ (isSurrogate c = true → 0xDC80 ≤ c ∧ c ≤ 0xDCFF)

instance : DecidablePred Filable := fun c => by
  unfold Filable
  infer_instance

theorem filable_slash : Filable slash := by decide

theorem mem_of_mem_parts {p part : Text} {c : CodePoint} (among : part ∈ parts p) (mem : c ∈ part) :
    c ∈ p := by
  have joined := Text.join_splitAtMost [slash] (p.length + 1) p
  rw [← joined]
  exact Text.mem_join_of_mem _ (List.mem_filter.mp among).1 mem

theorem mem_parts {p : Text} {c : CodePoint} (mem : c ∈ p) (other : c ≠ slash) (noDot : c ≠ 46) :
    ∃ part ∈ parts p, c ∈ part := by
  rw [← Text.join_splitAtMost [slash] (p.length + 1) p] at mem
  obtain mem | ⟨part, among, mem⟩ := Text.mem_join mem
  · exact absurd (List.mem_singleton.mp mem) other
  · refine ⟨part, List.mem_filter.mpr ⟨among, ?_⟩, mem⟩
    rw [Bool.and_eq_true]
    constructor
    · cases part with
      | nil => cases mem
      | cons => rfl
    · refine bne_iff_ne.mpr ?_
      rintro rfl
      exact noDot (List.mem_singleton.mp mem)

theorem root_slashes {p : Text} {c : CodePoint} (mem : c ∈ root p) : c = slash := by
  rw [root.eq_def] at mem
  split at mem
  · exact List.mem_singleton.mp mem
  · obtain rfl | mem := List.mem_cons.mp mem
    · rfl
    · exact List.mem_singleton.mp mem
  · exact List.mem_singleton.mp mem
  · cases mem

/-- The file form of a path can be the path of a file exactly if the path can. -/
theorem filable_fileForm (p : Text) : (∀ c ∈ fileForm p, Filable c) ↔ ∀ c ∈ p, Filable c := by
  have dot : ∀ c ∈ ([46] : Text), Filable c := by decide
  constructor
  · intro filable c mem
    by_cases plain : c = slash ∨ c = 46
    · obtain rfl | rfl := plain <;> decide
    · obtain ⟨part, among, inside⟩ := mem_parts mem (fun e => plain (.inl e)) fun e => plain (.inr e)
      refine filable c ?_
      rw [fileForm]
      have kept := Text.mem_join_of_mem [slash] among inside
      split
      · next empty =>
        rw [List.isEmpty_iff, List.append_eq_nil_iff] at empty
        rw [empty.2] at kept
        cases kept
      · exact List.mem_append_right _ kept
  · intro filable c mem
    rw [fileForm] at mem
    split at mem
    · exact dot c mem
    · obtain mem | mem := List.mem_append.mp mem
      · exact root_slashes mem ▸ filable_slash
      · obtain mem | ⟨part, among, mem⟩ := Text.mem_join mem
        · exact List.mem_singleton.mp mem ▸ filable_slash
        · exact filable c (mem_of_mem_parts among mem)

theorem root_of_relative {p : Text} (relative : isAbsolute p = false) : root p = [] := by
  rw [root.eq_def]
  split <;> first | rfl | cases relative

/-- The file form of a path starts at the root exactly if the path does. -/
theorem isAbsolute_fileForm (p : Text) : isAbsolute (fileForm p) = isAbsolute p := by
  by_cases absolute : isAbsolute p = true
  · obtain ⟨rest, rfl⟩ : ∃ rest, p = slash :: rest := by
      cases p with
      | nil => cases absolute
      | cons c rest =>
        obtain rfl : c = slash := Option.some.inj (beq_iff_eq.mp absolute)
        exact ⟨rest, rfl⟩
    obtain ⟨more, is⟩ : ∃ more, root (slash :: rest) = slash :: more := by
      rw [root.eq_def]
      split <;> first | exact ⟨_, rfl⟩ | skip
      next other => exact absurd rfl (other rest)
    rw [absolute, fileForm, is]
    rfl
  · rw [Bool.not_eq_true] at absolute
    rw [absolute, fileForm, root_of_relative absolute, List.nil_append]
    split
    · rfl
    · -- the first code point is one of a part
      rw [isAbsolute, Bool.eq_false_iff]
      intro first
      have first := beq_iff_eq.mp first
      cases body : parts p with
      | nil =>
        rw [body] at first
        cases first
      | cons part others =>
        have among : part ∈ parts p := body ▸ List.mem_cons_self
        obtain ⟨split, kept⟩ := List.mem_filter.mp among
        cases part with
        | nil => cases kept
        | cons c part =>
          have head : (Text.join [slash] (parts p)).head? = some c := by
            rw [body]
            cases others with
            | nil => rfl
            | cons other others => rw [Text.join, List.intercalate_cons_cons]; rfl
          obtain rfl := Option.some.inj (head.symm.trans first)
          exact Text.not_mem_of_mem_splitOn split List.mem_cons_self

theorem mem_join {a b : Text} {c : CodePoint} (mem : c ∈ join a b) : c ∈ a ∨ c ∈ b ∨ c = slash := by
  rw [join] at mem
  split at mem
  · exact .inr (.inl mem)
  · split at mem
    · obtain mem | mem := List.mem_append.mp mem
      · exact .inl mem
      · exact .inr (.inl mem)
    · obtain mem | mem := List.mem_append.mp mem
      · exact .inl mem
      · obtain rfl | mem := List.mem_cons.mp mem
        · exact .inr (.inr rfl)
        · exact .inr (.inl mem)

theorem mem_join_right (a : Text) {b : Text} {c : CodePoint} (mem : c ∈ b) : c ∈ join a b := by
  rw [join]
  split
  · exact mem
  · split
    · exact List.mem_append_right _ mem
    · exact List.mem_append_right _ (List.mem_cons_of_mem _ mem)

theorem mem_join_left {a b : Text} {c : CodePoint} (relative : isAbsolute b = false) (mem : c ∈ a) :
    c ∈ join a b := by
  rw [join, if_neg (Bool.eq_false_iff.mp relative)]
  split <;> exact List.mem_append_left _ mem

end Path

namespace LocalStorage

/-- A path can be read: no code point of it, or of a base that it is relative to, is one that the path of
a file cannot have. -/
def Usable (base : Option Text) (path : Text) : Prop :=
  (∀ c ∈ path, Path.Filable c) ∧
    (Path.isAbsolute path = false → ∀ b ∈ base, ∀ c ∈ b, Path.Filable c)

/-- **The resolved path** can be the path of a file exactly if the path itself can and, unless it is
absolute, its base. -/
theorem filable_resolve (base : Option Text) (path : Text) :
    (∀ c ∈ resolve base path, Path.Filable c) ↔ Usable base path := by
  rw [Usable]
  cases base with
  | none =>
    rw [resolve, Path.filable_fileForm]
    exact ⟨fun filable => ⟨filable, fun _ b is => (by cases is)⟩, And.left⟩
  | some base =>
    rw [resolve, Path.filable_fileForm, ← Path.filable_fileForm path, ← Path.isAbsolute_fileForm path]
    constructor
    · intro filable
      refine ⟨fun c mem => filable c (Path.mem_join_right _ mem), ?_⟩
      rintro relative _ ⟨⟩
      rw [← Path.filable_fileForm]
      exact fun c mem => filable c (Path.mem_join_left relative mem)
    · rintro ⟨own, above⟩ c mem
      cases absolute : Path.isAbsolute (Path.fileForm path) with
      | true =>
        rw [Path.join, if_pos absolute] at mem
        exact own c mem
      | false =>
        have above := (Path.filable_fileForm base).mpr (above absolute base rfl)
        obtain mem | mem | rfl := Path.mem_join mem
        · exact above c mem
        · exact own c mem
        · exact Path.filable_slash

/-! ### What a read comes to -/

/-- Nothing keeps a path from being looked up exactly if it can be the path of a file. -/
theorem unusable_eq_none (path : Text) :
    unusable? path = none ↔ ∀ c ∈ path, Path.Filable c := by
  have writes (c : CodePoint) : Codec.utf8.Writes .loneBytes c ↔
      (isSurrogate c = true → 0xDC80 ≤ c ∧ c ≤ 0xDCFF) := by
    cases surrogate : isSurrogate c <;>
      simp [Codec.Writes, Codec.unit?, Codec.replaced?, Codec.refusesSingly, surrogate]
  have whole : (∀ c ∈ path, Path.Filable c) ↔
      ¬path.contains 0 = true ∧ ∀ c ∈ path, Codec.utf8.Writes .loneBytes c := by
    simp only [Path.Filable, writes, List.contains_iff_mem]
    constructor
    · intro each
      exact ⟨fun mem => (each 0 mem).1 rfl, fun c mem => (each c mem).2⟩
    · rintro ⟨noNul, each⟩ c mem
      exact ⟨fun e => noNul (e ▸ mem), each c mem⟩
  rw [whole, ← Codec.encode_succeeds, unusable?]
  cases Codec.encode .utf8 .loneBytes path with
  | error fault => simp
  | ok bytes => cases path.contains 0 <;> simp

/-- What is raised for a path that no file can have is no problem of the template family, and it says
nothing about the path. -/
theorem problem_of_unusable {path : Text} {f : Failure} (is : unusable? path = some f) :
    (f.kind = .badValue ∨ f.kind = .encoding) ∧ f.problem.path = none := by
  rw [unusable?] at is
  split at is
  · obtain rfl := Option.some.inj is
    exact ⟨.inr rfl, rfl⟩
  · split at is <;> cases is
    exact ⟨.inl rfl, rfl⟩

/-- A read was refused: it failed with a problem of the given kind that names the file, and the refusal
is all that caused it. -/
def Refused (tree : FileTree) (base : Option Text) (path : Text) (kind : Kind)
    (r : FileTree.Refusal) : Prop :=
  ∃ f, read tree base path = .error f ∧ f.kind = kind ∧ f.problem.path = some (resolve base path) ∧
    f.causes = [(r.failure (resolve base path)).problem]

theorem read_of_usable {base : Option Text} {path : Text} (usable : Usable base path)
    (tree : FileTree) :
    read tree base path = answer (resolve base path) (tree.read (resolve base path)) := by
  have none := (unusable_eq_none _).mpr ((filable_resolve base path).mpr usable)
  rw [read, file, none]
  rfl

/-- The kind of problem that a refusal is reported as. -/
def reported (r : FileTree.Refusal) : Kind :=
  if r = .missing ∨ r = .isDirectory then .notFound else .storage

/-- A refused read names the file, and the refusal is its cause. -/
theorem refused_of_read {tree : FileTree} {base : Option Text} {path : Text} {r : FileTree.Refusal}
    (usable : Usable base path) (fails : tree.read (resolve base path) = .error r) :
    Refused tree base path (reported r) r := by
  refine ⟨classify r (resolve base path), ?_, ?_, ?_, rfl⟩
  · rw [read_of_usable usable, fails]
    rfl
  · cases r <;> rfl
  · cases r <;> rfl

/-- A refusal comes from the file tree, and it decides the kind. -/
theorem Refused.inv {tree : FileTree} {base : Option Text} {path : Text} {kind : Kind}
    {r : FileTree.Refusal} (refused : Refused tree base path kind r) (usable : Usable base path) :
    ∃ r', tree.read (resolve base path) = .error r' ∧ kind = reported r' ∧ r.kind = r'.kind := by
  obtain ⟨f, fails, rfl, -, causes⟩ := refused
  rw [read_of_usable usable] at fails
  cases content : tree.read (resolve base path) with
  | ok b =>
    rw [content] at fails
    cases fails
  | error r' =>
    rw [content] at fails
    obtain rfl := Except.error.inj fails
    have problem := (List.cons.inj causes).1
    refine ⟨r', rfl, ?_, (congrArg Problem.kind problem).symm⟩
    cases r' <;> rfl

end LocalStorage

end Stencil
