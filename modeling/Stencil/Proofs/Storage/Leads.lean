import Stencil.Storage.FileTree

/-!
# Where paths lead

Names are followed from a directory one by one: through directories, up, and along symbolic links. A
walk through a file tree finds what the names lead to if they do not go through too many links, and
refuses otherwise.

## Main definitions

- `FileTree.Target` — what names can lead to, with the answer to a read of it
- `FileTree.Leads` — what names lead to, and through how many links
- `FileTree.Reaches` — what a path leads to

## Main results

- `FileTree.Leads.unique` — names lead to one target only
- `FileTree.read_eq_iff` — a read is answered by the target of the path
- `FileTree.walk_put` — a walk to a place that has got a file ends there
- `FileTree.read_of_write` — a file that has been written has the content
-/

namespace Stencil

namespace FileTree

/-- What names can lead to. -/
inductive Target where
  | file (content : Bytes)
  | directory
  | nothing
  deriving DecidableEq

/-- The answer to a read. -/
def Target.read : Target → Except Refusal Bytes
  | file content => .ok content
  | directory => .error .isDirectory
  | nothing => .error .missing

/-- A name for an entry: it means neither the directory that it is looked up in nor the one above, and
it is short enough. -/
structure IsEntryName (name : Text) : Prop where
  some : name ≠ []
  notHere : name ≠ [46]
  notAbove : name ≠ Path.parent
  fits : nameBytes name ≤ nameLimit

/-- From a directory, names lead to a target through a number of symbolic links. -/
inductive Leads (t : FileTree) : Nat → List Text → List Text → Target → Prop
  | arrived (here : List Text) : Leads t 0 here [] .directory
  | stay {links : Nat} {here rest : List Text} {name : Text} {x : Target}
      (dot : name = [] ∨ name = [46]) (onward : Leads t links here rest x) :
      Leads t links here (name :: rest) x
  | up {links : Nat} {here rest : List Text} {x : Target}
      (onward : Leads t links here.dropLast rest x) : Leads t links here (Path.parent :: rest) x
  | absent {here rest : List Text} {name : Text} (named : IsEntryName name)
      (is : t.find? (here ++ [name]) = none) : Leads t 0 here (name :: rest) .nothing
  | file {here : List Text} {name : Text} {content : Bytes} (named : IsEntryName name)
      (is : t.find? (here ++ [name]) = some (.file content)) :
      Leads t 0 here [name] (.file content)
  | down {links : Nat} {here rest : List Text} {name : Text} {x : Target} (named : IsEntryName name)
      (is : t.find? (here ++ [name]) = some .directory)
      (onward : Leads t links (here ++ [name]) rest x) : Leads t links here (name :: rest) x
  | blank {here rest : List Text} {name : Text} (named : IsEntryName name)
      (is : t.find? (here ++ [name]) = some (.link [])) : Leads t 1 here (name :: rest) .nothing
  | link {links : Nat} {here rest : List Text} {name target : Text} {x : Target}
      (named : IsEntryName name) (is : t.find? (here ++ [name]) = some (.link target))
      (some : target ≠ [])
      (onward : Leads t links (if Path.isAbsolute target then [] else here)
        (linkNames target ++ rest) x) : Leads t (links + 1) here (name :: rest) x

/-- A path leads to a target: it is short enough, and it does not go through too many links. -/
def Reaches (t : FileTree) (path : Text) (x : Target) : Prop :=
  nameBytes path ≤ pathLimit ∧ ∃ links ≤ linkLimit, t.Leads links [] (Path.parts
    (if Path.isAbsolute path then path else Path.join t.workingDirectory path)) x

/-- A place with directories only from the root down to it. -/
def Standing (t : FileTree) (here : List Text) : Prop :=
  ∀ n, t.find? (here.take n) = some .directory

/-- What a walk has found, read. -/
def opened (found : List Text × Option Entry) : Except Refusal Bytes :=
  match found.2 with
  | some (.file content) => .ok content
  | some .directory => .error .isDirectory
  | some (.link _) => .error .tooManyLinks
  | none => .error .missing

variable {t : FileTree} {links : Nat} {here rest names : List Text} {name : Text} {x y : Target}

/-! ### Places -/

theorem standing_root (t : FileTree) : t.Standing [] := by
  intro n
  rw [List.take_nil]
  rfl

theorem Standing.find? (standing : t.Standing here) : t.find? here = some .directory := by
  have whole := standing here.length
  rwa [List.take_length] at whole

theorem Standing.dropLast (standing : t.Standing here) : t.Standing here.dropLast := by
  intro n
  rw [List.dropLast_eq_take, List.take_take]
  exact standing _

theorem Standing.down (standing : t.Standing here)
    (is : t.find? (here ++ [name]) = some .directory) : t.Standing (here ++ [name]) := by
  intro n
  by_cases inside : n ≤ here.length
  · rw [List.take_append_of_le_length inside]
    exact standing n
  · have whole : (here ++ [name]).take n = here ++ [name] :=
      List.take_of_length_le (by rw [List.length_append, List.length_singleton]; omega)
    rw [whole, is]

theorem Standing.along (standing : t.Standing here) (target : Text) :
    t.Standing (if Path.isAbsolute target then [] else here) := by
  split
  · exact standing_root t
  · exact standing

/-! ### A walk finds the target -/

theorem walk_dot (t : FileTree) (links : Nat) (here rest : List Text) (dot : name = [] ∨ name = [46]) :
    t.walk false links here (name :: rest) = t.walk false links here rest := by
  have skipped : name.isEmpty = true ∨ name = [46] := dot.imp_left List.isEmpty_iff.mpr
  rw [walk, if_pos skipped]

theorem walk_up (t : FileTree) (links : Nat) (here rest : List Text) :
    t.walk false links here (Path.parent :: rest) = t.walk false links here.dropLast rest := by
  rw [walk, if_neg (by decide), if_pos rfl]

/-- A walk over a name for an entry goes on by what the entry is. -/
theorem walk_entry (t : FileTree) (links : Nat) (here rest : List Text) (named : IsEntryName name) :
    t.walk false links here (name :: rest) =
      match t.find? (here ++ [name]) with
      | none => if rest.isEmpty then .ok (here ++ [name], none) else .error .missing
      | some (.file content) =>
        if rest.isEmpty then .ok (here ++ [name], some (.file content)) else .error .notDirectory
      | some .directory => t.walk false links (here ++ [name]) rest
      | some (.link target) =>
        match links with
        | 0 => .error .tooManyLinks
        | links + 1 =>
          if target.isEmpty then .error .missing
          else t.walk false links (if Path.isAbsolute target then [] else here)
            (linkNames target ++ rest) := by
  have kept : ¬(name.isEmpty = true ∨ name = [46]) :=
    fun dot => dot.elim (fun e => named.some (List.isEmpty_iff.mp e)) named.notHere
  rw [walk, if_neg kept, if_neg named.notAbove, if_neg (Nat.not_lt.mpr named.fits)]
  rfl

/-- What names lead to is what a walk finds that may go through as many links. -/
theorem Leads.walk {n : Nat} (leads : t.Leads n here names x) (standing : t.Standing here)
    (enough : n ≤ links) : (t.walk false links here names).bind opened = x.read := by
  induction leads generalizing links with
  | arrived here =>
    rw [FileTree.walk, standing.find?]
    rfl
  | stay dot _ ih =>
    rw [walk_dot t links _ _ dot]
    exact ih standing enough
  | up _ ih =>
    rw [walk_up]
    exact ih standing.dropLast enough
  | absent named is =>
    rw [walk_entry t links _ _ named, is]
    dsimp only
    split <;> rfl
  | file named is =>
    rw [walk_entry t links _ _ named, is]
    rfl
  | down named is _ ih =>
    rw [walk_entry t links _ _ named, is]
    exact ih (standing.down is) enough
  | blank named is =>
    obtain ⟨links, rfl⟩ := Nat.exists_eq_add_of_le' enough
    rw [walk_entry t _ _ _ named, is]
    rfl
  | @link n here rest name target x named is some _ ih =>
    obtain ⟨links, rfl⟩ := Nat.exists_eq_add_of_le' (Nat.le_trans (Nat.succ_pos n) enough)
    rw [walk_entry t _ _ _ named, is]
    dsimp only
    rw [if_neg (fun e => some (List.isEmpty_iff.mp e))]
    exact ih (standing.along target) (Nat.le_of_succ_le_succ enough)

theorem Target.read_injective (same : x.read = y.read) : x = y := by
  cases x <;> cases y <;> cases same <;> rfl

/-- Names lead to one target only. -/
theorem Leads.unique {n m : Nat} (leads : t.Leads n here names x) (other : t.Leads m here names y)
    (standing : t.Standing here) : x = y :=
  Target.read_injective ((leads.walk standing (Nat.le_max_left n m)).symm.trans
    (other.walk standing (Nat.le_max_right n m)))

theorem isEntryName_of_not (kept : ¬(name.isEmpty = true ∨ name = [46])) (notAbove : name ≠ Path.parent)
    (fits : ¬nameLimit < nameBytes name) : IsEntryName name where
  some e := kept (.inl (List.isEmpty_iff.mpr e))
  notHere e := kept (.inr e)
  notAbove
  fits := Nat.not_lt.mp fits

/-- What a walk finds, the names lead to, and through no more links than the walk may go through. -/
theorem leads_of_walk (found : (t.walk false links here names).bind opened = x.read)
    (standing : t.Standing here) : ∃ n ≤ links, t.Leads n here names x := by
  fun_induction t.walk false links here names with
  | case1 links here =>
    change opened (here, t.find? here) = x.read at found
    rw [standing.find?] at found
    obtain rfl : Target.directory = x := Target.read_injective found
    exact ⟨0, Nat.zero_le links, .arrived here⟩
  | case2 links here name rest dot ih =>
    obtain ⟨n, le, leads⟩ := ih found standing
    exact ⟨n, le, .stay (dot.imp_left List.isEmpty_iff.mp) leads⟩
  | case3 links here rest _ ih =>
    obtain ⟨n, le, leads⟩ := ih found standing.dropLast
    exact ⟨n, le, .up leads⟩
  | case4 => cases x <;> cases found
  | case5 links here name rest kept notAbove fits place is =>
    obtain rfl : Target.nothing = x := Target.read_injective found
    exact ⟨0, Nat.zero_le links, .absent (isEntryName_of_not kept notAbove fits) is⟩
  | case6 links here name rest kept notAbove fits place refuse is =>
    obtain rfl : Target.nothing = x := Target.read_injective found
    exact ⟨0, Nat.zero_le links, .absent (isEntryName_of_not kept notAbove fits) is⟩
  | case7 links here name rest kept notAbove fits place content is last =>
    obtain rfl : Target.file content = x := Target.read_injective found
    obtain rfl := List.isEmpty_iff.mp last
    exact ⟨0, Nat.zero_le links, .file (isEntryName_of_not kept notAbove fits) is⟩
  | case8 => cases x <;> cases found
  | case9 links here name rest kept notAbove fits place is ih =>
    obtain ⟨n, le, leads⟩ := ih found (standing.down is)
    exact ⟨n, le, .down (isEntryName_of_not kept notAbove fits) is leads⟩
  | case10 => cases x <;> cases found
  | case11 here name rest kept notAbove fits place target is links blank =>
    obtain rfl : Target.nothing = x := Target.read_injective found
    obtain rfl := List.isEmpty_iff.mp blank
    exact ⟨1, Nat.succ_pos links, .blank (isEntryName_of_not kept notAbove fits) is⟩
  | case12 here name rest kept notAbove fits place target is links some ih =>
    obtain ⟨n, le, leads⟩ := ih found (standing.along target)
    exact ⟨n + 1, Nat.succ_le_succ le, .link (isEntryName_of_not kept notAbove fits) is
      (fun e => some (List.isEmpty_iff.mpr e)) leads⟩

/-! ### Reads -/

theorem read_eq_bind (t : FileTree) (path : Text) :
    t.read path = (t.locate false path).bind opened := by
  rw [read]
  cases t.locate false path with
  | error r => rfl
  | ok found =>
    obtain ⟨place, entry⟩ := found
    cases entry with
    | none => rfl
    | some e => cases e <;> rfl

/-- A read has the answer of a target exactly if the path leads to that target. -/
theorem read_eq_iff (t : FileTree) (path : Text) (x : Target) :
    t.read path = x.read ↔ t.Reaches path x := by
  rw [read_eq_bind, locate]
  constructor
  · intro found
    split at found
    · cases x <;> cases found
    · next fits => exact ⟨Nat.not_lt.mp fits, leads_of_walk found (standing_root t)⟩
  · rintro ⟨fits, n, le, leads⟩
    rw [if_neg (Nat.not_lt.mpr fits)]
    exact leads.walk (standing_root t) le

theorem Reaches.unique {path : Text} (reaches : t.Reaches path x) (other : t.Reaches path y) : x = y := by
  obtain ⟨_, _, _, leads⟩ := reaches
  obtain ⟨_, _, _, leads'⟩ := other
  exact leads.unique leads' (standing_root t)

end FileTree

/-! ### Files that have been written

What has been written to a path is what a read of that path gives afterwards, through whatever links it
leads. A walk that is to make a file ends at a place where no directory and no link stands, so it has not
come through that place, and what is put there does not lead it elsewhere. -/

namespace FileTree

variable {t : FileTree} {links : Nat} {here names place : List Text} {e : Option Entry} {content : Bytes}

/-- Other places stay as they are when something is put at one. -/
theorem find?_put (t : FileTree) {place : List Text} (inner : place ≠ []) (x : Entry) (p : List Text) :
    (t.put place x).find? p = if p = place then some x else t.find? p := by
  have others (entries : List (List Text × Entry)) (apart : p ≠ place) :
      (entries.filter (·.1 != place) ++ [(place, x)]).lookup p = entries.lookup p := by
    induction entries with
    | nil => simp [List.lookup_cons, beq_eq_false_iff_ne.mpr apart]
    | cons entry rest ih =>
      obtain ⟨q, y⟩ := entry
      by_cases there : q = place
      · subst there
        rw [List.filter_cons_of_neg (by simp), ih, List.lookup_cons, beq_eq_false_iff_ne.mpr apart]
      · rw [List.filter_cons_of_pos (by simpa using there), List.cons_append, List.lookup_cons,
          List.lookup_cons, ih]
  have last (entries : List (List Text × Entry)) :
      (entries.filter (·.1 != place) ++ [(place, x)]).lookup place = some x := by
    have none_ : (entries.filter (·.1 != place)).lookup place = none := by
      rw [List.lookup_eq_none_iff]
      intro entry mem
      have kept := (List.mem_filter.mp mem).2
      exact bne_iff_ne.mpr (Ne.symm (bne_iff_ne.mp kept))
    rw [List.lookup_append, none_]
    simp
  rw [find?, find?]
  by_cases there : p = place
  · subst there
    have some_ : p.isEmpty = false := List.isEmpty_eq_false_iff.mpr inner
    rw [some_, if_pos rfl]
    exact last t.entries
  · rw [if_neg there]
    split
    · rfl
    · exact others t.entries there

/-- A walk ends at a directory, at a file, or where nothing is. -/
theorem walk_ends (found : t.walk true links here names = .ok (place, e)) (standing : t.Standing here) :
    t.find? place = e ∧ (e = some .directory ∨ (place ≠ [] ∧ (e = none ∨ ∃ c, e = some (.file c)))) := by
  fun_induction t.walk true links here names with
  | case1 links here =>
    obtain ⟨rfl, rfl⟩ := Prod.mk.inj (Except.ok.inj found)
    exact ⟨rfl, .inl standing.find?⟩
  | case2 links here name rest dot ih => exact ih found standing
  | case3 links here rest _ ih => exact ih found standing.dropLast
  | case4 => cases found
  | case5 links here name rest _ _ _ place' is =>
    obtain ⟨rfl, rfl⟩ := Prod.mk.inj (Except.ok.inj found)
    exact ⟨is, .inr ⟨by simp [place'], .inl rfl⟩⟩
  | case6 => cases found
  | case7 links here name rest _ _ _ place' c is =>
    obtain ⟨rfl, rfl⟩ := Prod.mk.inj (Except.ok.inj found)
    exact ⟨is, .inr ⟨by simp [place'], .inr ⟨c, rfl⟩⟩⟩
  | case8 => cases found
  | case9 links here name rest _ _ _ place' is ih => exact ih found (standing.down is)
  | case10 => cases found
  | case11 => cases found
  | case12 here name rest _ _ _ place' target is links some ih => exact ih found (standing.along target)

/-- **A walk to a place that has got a file ends there.** -/
theorem walk_put (found : t.walk true links here names = .ok (place, e)) (inner : place ≠ [])
    (free : t.find? place = none ∨ ∃ c, t.find? place = some (.file c)) (standing : t.Standing here) :
    (t.put place (.file content)).walk false links here names = .ok (place, some (.file content)) := by
  -- what the walk comes through is no file, so it is another place
  have through {p : List Text} {x : Entry} (is : t.find? p = some x) (other : ∀ c, x ≠ .file c) :
      (t.put place (.file content)).find? p = some x := by
    have apart : p ≠ place := by
      rintro rfl
      obtain absent | ⟨c, file⟩ := free
      · cases absent.symm.trans is
      · exact other c (Option.some.inj (is.symm.trans file))
    rw [find?_put t inner, if_neg apart, is]
  have last : (t.put place (.file content)).find? place = some (.file content) := by
    rw [find?_put t inner, if_pos rfl]
  fun_induction t.walk true links here names with
  | case1 links here =>
    obtain ⟨rfl, -⟩ := Prod.mk.inj (Except.ok.inj found)
    rw [standing.find?] at free
    obtain absent | ⟨c, file⟩ := free
    · cases absent
    · cases file
  | case2 links here name rest dot ih =>
    rw [walk_dot _ links here rest (dot.imp_left List.isEmpty_iff.mp)]
    exact ih found standing
  | case3 links here rest _ ih =>
    rw [walk_up]
    exact ih found standing.dropLast
  | case4 => cases found
  | case5 links here name rest kept notAbove fits place' is onward =>
    obtain ⟨rfl, -⟩ := Prod.mk.inj (Except.ok.inj found)
    rw [walk_entry _ links here rest (isEntryName_of_not kept notAbove fits), last]
    exact if_pos onward
  | case6 => cases found
  | case7 links here name rest kept notAbove fits place' c is onward =>
    obtain ⟨rfl, -⟩ := Prod.mk.inj (Except.ok.inj found)
    rw [walk_entry _ links here rest (isEntryName_of_not kept notAbove fits), last]
    exact if_pos onward
  | case8 => cases found
  | case9 links here name rest kept notAbove fits place' is ih =>
    rw [walk_entry _ links here rest (isEntryName_of_not kept notAbove fits), through is fun _ e => by cases e]
    exact ih found (standing.down is)
  | case10 => cases found
  | case11 => cases found
  | case12 here name rest kept notAbove fits place' target is links some ih =>
    rw [walk_entry _ _ here rest (isEntryName_of_not kept notAbove fits), through is fun _ e => by cases e]
    dsimp only
    rw [if_neg some]
    exact ih found (standing.along target)

/-- **A file that has been written** has the content that was written. -/
theorem read_of_write {t' : FileTree} {path : Text} (wrote : t.write path content = .ok t') :
    t'.read path = .ok content := by
  rw [write] at wrote
  cases located : t.locate true path with
  | error r =>
    rw [located] at wrote
    cases wrote
  | ok found =>
  obtain ⟨place, e⟩ := found
  rw [located] at wrote
  rw [locate] at located
  split at located
  · cases located
  next fits =>
  obtain ⟨is, directory | ⟨inner, plain⟩⟩ := walk_ends located (standing_root t)
  · subst directory
    cases wrote
  have put : t' = t.put place (.file content) := by
    obtain rfl | ⟨c, rfl⟩ := plain
    · exact (Except.ok.inj wrote).symm
    · exact (Except.ok.inj wrote).symm
  have free : t.find? place = none ∨ ∃ c, t.find? place = some (.file c) := is ▸ plain
  have walked : (t.put place (.file content)).walk false linkLimit [] _ =
      .ok (place, some (.file content)) := walk_put located inner free (standing_root t)
  subst put
  rw [read_eq_bind, locate, if_neg fits]
  exact congrArg (fun found => Except.bind found opened) walked

end FileTree

end Stencil
