import Stencil.Pipeline
import Stencil.Proofs.Fallible
import Stencil.Proofs.Template.Printing

/-!
# From a model to variables

On its way into a template a model is a dictionary of the heap first, then a dictionary of the request,
and then the variables of a context. At each step a name has the value that it was given last. This
module says so once, for lists of names with values.

## Main definitions

- `Table` — keys with values; `Table.put` sets one of them
- `Table.last?` — the value that a key was given last
- `Variables` — names with values
- `AllNamed`, `namedEntries` — entries of a dictionary that are variables

## Main results

- `Table.lookup_putAll` — what a key has after several have been set
- `insertAll_of_allNamed` — entries set in a dictionary, as variables
- `allNamed_of_insertAll` — only texts come to be texts
- `Pipeline.variablesOf_of_allNamed`, `Pipeline.last?_of_variablesOf` — the variables of a template
-/

namespace Stencil

namespace Template

/-- Keys with values. -/
abbrev Table (κ ν : Type) := List (κ × ν)

namespace Table

variable {κ ν : Type} [DecidableEq κ]

/-- Set the value of a key; a known key keeps its place. -/
def put (l : Table κ ν) (key : κ) (v : ν) : Table κ ν :=
  match l with
  | [] => [(key, v)]
  | (k, w) :: rest => if k = key then (key, v) :: rest else (k, w) :: put rest key v

def putAll (l new : Table κ ν) : Table κ ν :=
  new.foldl (fun l e => l.put e.1 e.2) l

/-- The value that a key was given last. -/
def last? [BEq κ] (l : Table κ ν) (key : κ) : Option ν :=
  l.reverse.lookup key

/-- No key occurs twice. -/
def Distinct (l : Table κ ν) : Prop :=
  (l.map (·.1)).Nodup

theorem keys_put (l : Table κ ν) (key : κ) (v : ν) : (l.put key v).map (·.1) =
    if key ∈ l.map (·.1) then l.map (·.1) else l.map (·.1) ++ [key] := by
  induction l with
  | nil => rfl
  | cons e rest ih =>
    obtain ⟨k, w⟩ := e
    by_cases here : k = key
    · simp [put, here]
    · have away : key ≠ k := fun same => here same.symm
      simp only [put, if_neg here, List.map_cons, ih, List.mem_cons, away, false_or]
      split <;> rfl

theorem Distinct.put {l : Table κ ν} (distinct : l.Distinct) (key : κ) (v : ν) :
    (l.put key v).Distinct := by
  rw [Distinct, keys_put]
  split
  · exact distinct
  · next new =>
    refine List.nodup_append.mpr ⟨distinct, List.pairwise_singleton _ _, ?_⟩
    rintro k mem _ same rfl
    obtain rfl := List.mem_singleton.mp same
    exact new mem

theorem Distinct.putAll {l : Table κ ν} (distinct : l.Distinct) (new : Table κ ν) :
    (l.putAll new).Distinct := by
  induction new generalizing l with
  | nil => exact distinct
  | cons e new ih => exact ih (distinct.put e.1 e.2)

variable [BEq κ] [LawfulBEq κ] (l : Table κ ν) (key other : κ) (v : ν)

omit [DecidableEq κ] [LawfulBEq κ] in
theorem last?_append (l' : Table κ ν) : last? (l ++ l') key = (l'.last? key).or (l.last? key) := by
  rw [last?, List.reverse_append, List.lookup_append]
  rfl

theorem lookup_cons : List.lookup other ((key, v) :: l) =
    if other = key then some v else l.lookup other := by
  by_cases same : other = key
  · rw [if_pos same, List.lookup_cons, beq_iff_eq.mpr same]
  · rw [if_neg same, List.lookup_cons, beq_eq_false_iff_ne.mpr same]

theorem lookup_put : (l.put key v).lookup other = if other = key then some v else l.lookup other := by
  induction l with
  | nil => rw [put, lookup_cons]
  | cons e rest ih =>
    obtain ⟨k, w⟩ := e
    rw [put]
    by_cases here : k = key
    · subst here
      rw [if_pos rfl, lookup_cons, lookup_cons]
      split <;> rfl
    · rw [if_neg here, lookup_cons, ih, lookup_cons]
      by_cases same : other = k
      · subst same
        rw [if_pos rfl, if_neg here, if_pos rfl]
      · rw [if_neg same, if_neg same]

theorem last?_cons : last? ((key, v) :: l) other =
    (l.last? other).or (if other = key then some v else none) := by
  rw [last?, last?, List.reverse_cons, List.lookup_append, lookup_cons]
  rfl

/-- **After several keys have been set**, each has the value it was given last, and the others have what
they had. -/
theorem lookup_putAll (new : Table κ ν) :
    (l.putAll new).lookup key = (new.last? key).or (l.lookup key) := by
  induction new generalizing l with
  | nil => rfl
  | cons e new ih =>
    obtain ⟨k, w⟩ := e
    have step : l.putAll ((k, w) :: new) = (l.put k w).putAll new := rfl
    rw [step, ih, lookup_put, last?_cons, Option.or_assoc]
    congr 1
    split <;> rfl

variable {l}

/-- Where no key occurs twice, the last value is the first. -/
theorem Distinct.last?_eq (distinct : l.Distinct) : l.last? key = l.lookup key := by
  induction l with
  | nil => rfl
  | cons e l ih =>
    obtain ⟨k, w⟩ := e
    obtain ⟨new, distinct⟩ := List.nodup_cons.mp distinct
    rw [last?_cons, ih distinct]
    rw [lookup_cons]
    by_cases same : key = k
    · subst same
      have absent : l.lookup key = none := by
        rw [List.lookup_eq_none_iff]
        intro e mem
        rw [bne_iff_ne]
        rintro rfl
        exact new (List.mem_map_of_mem (f := (·.1)) mem)
      rw [absent, if_pos rfl]
      rfl
    · rw [if_neg same, if_neg same, Option.or_none]

/-- What was put together key by key gives each key what it was given last. -/
theorem last?_putAll (new : Table κ ν) : last? (putAll [] new) key = new.last? key := by
  have distinct : Distinct (putAll [] new) := Distinct.putAll (l := []) List.nodup_nil new
  rw [distinct.last?_eq, lookup_putAll]
  exact Option.or_none

/-- Keys that are left out do not matter to the others. -/
theorem last?_filter {keep : κ × ν → Bool} (l : Table κ ν)
    (kept : ∀ v, keep (key, v) = true) : last? (l.filter keep) key = l.last? key := by
  induction l with
  | nil => rfl
  | cons e l ih =>
    obtain ⟨k, w⟩ := e
    by_cases same : key = k
    · subst same
      rw [List.filter_cons_of_pos (kept w), last?_cons, last?_cons, ih]
    · have passed : last? ((k, w) :: l) key = last? l key := by simp [last?_cons, same]
      rw [passed, List.filter_cons]
      split
      · simp [last?_cons, same, ih]
      · exact ih

/-- An array in which the first entry of a key is replaced, or a new one comes last. -/
theorem toList_setAt (a : Array (κ × ν)) :
    (match a.findIdx? fun e : κ × ν => e.1 == key with
      | some n => a.setIfInBounds n (key, v)
      | none => a.push (key, v)).toList = put a.toList key v := by
  obtain ⟨l⟩ := a
  have found : ∀ l : Table κ ν, (match l.findIdx? fun e => e.1 == key with
      | some n => l.set n (key, v)
      | none => l ++ [(key, v)]) = l.put key v := by
    intro l
    induction l with
    | nil => rfl
    | cons e l ih =>
      obtain ⟨k, w⟩ := e
      rw [List.findIdx?_cons, put]
      by_cases here : k = key
      · simp [here]
      · rw [if_neg here, ← ih]
        cases l.findIdx? fun e => e.1 == key <;> simp [here]
  rw [← found l, List.findIdx?_toArray]
  split <;> simp [*]

/-- The first entry of a key in an array. -/
theorem find?_key (a : Array (κ × ν)) :
    (a.find? fun e => e.1 == key).map (·.2) = a.toList.lookup key := by
  obtain ⟨l⟩ := a
  rw [List.find?_toArray]
  induction l with
  | nil => rfl
  | cons e l ih =>
    obtain ⟨k, w⟩ := e
    rw [lookup_cons]
    by_cases same : key = k
    · subst same
      simp
    · have away : (k == key) = false := beq_eq_false_iff_ne.mpr fun eq => same eq.symm
      rw [if_neg same, List.find?_cons_of_neg (by rw [away]; exact Bool.false_ne_true)]
      exact ih

end Table

/-- Names with values. -/
abbrev Variables := Table Text Value

/-- The variables that are put into a context one after the other. -/
theorem toList_putVariable (vars : Array (Text × Value)) (name : Text) (v : Value) :
    (putVariable vars name v).toList = Table.put vars.toList name v :=
  Table.toList_setAt name v vars

theorem toList_putVariables (vars : Array (Text × Value)) (new : Variables) :
    (new.foldl (fun vars e => putVariable vars e.1 e.2) vars).toList = Table.putAll vars.toList new := by
  induction new generalizing vars with
  | nil => rfl
  | cons e new ih =>
    rw [List.foldl_cons, ih, toList_putVariable]
    rfl

/-! ### Entries of dictionaries -/

/-- All keys are texts, safe or not. -/
def AllNamed (es : List (Value × Value)) : Prop :=
  ∀ e ∈ es, e.1.asText?.isSome = true

/-- The entries of a dictionary that have texts for keys. -/
def namedEntries (es : List (Value × Value)) : Variables :=
  es.filterMap fun e => e.1.asText?.map fun n => (n, e.2)

theorem AllNamed.cons_iff {k v : Value} {es : List (Value × Value)} :
    AllNamed ((k, v) :: es) ↔ (∃ n, k.asText? = some n) ∧ AllNamed es := by
  rw [AllNamed, List.forall_mem_cons, Option.isSome_iff_exists]
  rfl

theorem namedEntries_cons {k : Value} {name : Text} (is : k.asText? = some name) (v : Value)
    (es : List (Value × Value)) : namedEntries ((k, v) :: es) = (name, v) :: namedEntries es :=
  List.filterMap_cons_some (by rw [is]; rfl)

/-- Among texts, a container only looks at the letters. -/
theorem Value.alike_of_asText {h : Heap} {a b : Value} {s t : Text} (left : a.asText? = some s)
    (right : b.asText? = some t) : Value.alike h a b = .ok (s == t) := by
  have judged : ∀ same : Bool, (same = true → (s == t) = true) →
      (if same then .ok true else .ok (s == t) : Except Raised Bool) = .ok (s == t) := by
    intro same sound
    cases same with
    | true => rw [sound rfl]; rfl
    | false => rfl
  cases a <;> cases left <;> cases b <;> cases right
  all_goals
    refine judged _ fun same => ?_
    first
    | exact (Bool.and_eq_true_iff.mp same).1
    | cases same

/-- An entry of a text key with the place of the key among texts. -/
theorem position?_of_allNamed (h : Heap) {es : Entries} {key : Value} {name : Text}
    (named : AllNamed es.toList) (is : key.asText? = some name) :
    es.position? h key = .ok (es.toList.findIdx? fun e => e.1.asText? == some name) := by
  have go : ∀ (l : List (Value × Value)) (n : Nat), AllNamed l → Entries.position?.go h key n l =
      .ok ((l.findIdx? fun e => e.1.asText? == some name).map (· + n)) := by
    intro l
    induction l with
    | nil => exact fun n _ => rfl
    | cons e l ih =>
      intro n named
      obtain ⟨k, v⟩ := e
      obtain ⟨⟨t, text⟩, named⟩ := AllNamed.cons_iff.mp named
      rw [Entries.position?.go, Value.alike_of_asText text is, List.findIdx?_cons, text]
      cases same : t == name with
      | true =>
        obtain rfl := beq_iff_eq.mp same
        simp [bind, Except.bind, pure, Except.pure]
      | false =>
        have other : (some t == some name) = false := same
        simp only [other, bind, Except.bind]
        rw [if_neg Bool.false_ne_true, if_neg Bool.false_ne_true, ih (n + 1) named, Option.map_map]
        congr 2
        funext k
        exact (Nat.add_right_comm k 1 n).symm ▸ rfl
  have start := go es.toList 0 named
  rw [Entries.position?, start]
  cases es.toList.findIdx? fun e => e.1.asText? == some name <;> rfl

/-- The entries with one of them set at its place, or put behind the others. -/
theorem namedEntries_setAt {key : Value} {name : Text} (value : Value) (is : key.asText? = some name)
    {l : List (Value × Value)} (named : AllNamed l) :
    ∀ l', l' = (match l.findIdx? fun e => e.1.asText? == some name with
        | some n => l.set n ((l.getD n (key, value)).1, value)
        | none => l ++ [(key, value)]) →
      AllNamed l' ∧ namedEntries l' = (namedEntries l).put name value := by
  induction l with
  | nil =>
    rintro _ rfl
    refine ⟨AllNamed.cons_iff.mpr ⟨⟨name, is⟩, named⟩, ?_⟩
    simp [namedEntries, is, Table.put]
  | cons e l ih =>
    obtain ⟨k, v⟩ := e
    obtain ⟨⟨t, text⟩, named'⟩ := AllNamed.cons_iff.mp named
    have rest := ih named' _ rfl
    rintro _ rfl
    rw [List.findIdx?_cons, namedEntries_cons text, Table.put, text]
    by_cases same : t = name
    · -- the key is that of the first entry
      subst same
      simp only [BEq.rfl, if_true]
      exact ⟨AllNamed.cons_iff.mpr ⟨⟨t, text⟩, named'⟩, namedEntries_cons text value l⟩
    · have other : (some t == some name) = false := beq_eq_false_iff_ne.mpr fun eq => same (by simpa using eq)
      simp only [other, Bool.false_eq_true, if_false, if_neg same]
      cases found : l.findIdx? fun e => e.1.asText? == some name with
      | none =>
        rw [found] at rest
        refine ⟨AllNamed.cons_iff.mpr ⟨⟨t, text⟩, rest.1⟩, ?_⟩
        rw [← rest.2]
        exact namedEntries_cons text v _
      | some n =>
        rw [found] at rest
        refine ⟨AllNamed.cons_iff.mpr ⟨⟨t, text⟩, rest.1⟩, ?_⟩
        rw [← rest.2]
        exact namedEntries_cons text v _

/-- Entries that have the names, and values that stand for the models, of others. -/
theorem EntriesStand.allNamed {h : Heap} {n : Nat} {es : List (Value × Value)}
    {xs : List (Text × Model)} (stand : EntriesStand h n es xs) : AllNamed es := by
  induction es generalizing xs with
  | nil => exact fun e mem => absurd mem List.not_mem_nil
  | cons e es ih =>
    cases stand with
    | cons name self head tail => exact AllNamed.cons_iff.mpr ⟨⟨name, rfl⟩, ih tail⟩

/-- What a name was given last stands for the model that it was given last. -/
theorem EntriesStand.last? {h : Heap} {n : Nat} {es : List (Value × Value)}
    {xs : List (Text × Model)} (stand : EntriesStand h n es xs) (name : Text) :
    Option.Rel (Stands h n) ((namedEntries es).last? name) (Table.last? xs name) := by
  induction es generalizing xs with
  | nil =>
    cases stand
    exact .none
  | cons e es ih =>
    cases stand with
    | cons other self head tail =>
      rw [namedEntries_cons (k := .str other self) rfl, Table.last?_cons, Table.last?_cons]
      -- a later value counts more
      have later := ih tail
      generalize Table.last? (namedEntries es) name = v at later ⊢
      generalize Table.last? _ name = x at later ⊢
      cases later with
      | some stands => exact .some stands
      | none =>
        by_cases same : name = other
        · rw [if_pos same, if_pos same]
          exact .some head
        · rw [if_neg same, if_neg same]
          exact .none

/-- Setting an entry among texts is setting a variable. -/
theorem insert_of_allNamed (h : Heap) {es : Entries} {key : Value} {name : Text} (value : Value)
    (named : AllNamed es.toList) (is : key.asText? = some name) :
    ∃ es', es.insert h key value = .ok es' ∧ AllNamed es'.toList ∧
      namedEntries es'.toList = (namedEntries es.toList).put name value := by
  have hashable : Value.hashable h key = .ok () := by cases key <;> cases is <;> rfl
  have set := namedEntries_setAt value is named
  rw [Entries.insert, hashable, position?_of_allNamed h named is]
  cases found : es.toList.findIdx? fun e => e.1.asText? == some name with
  | none =>
    rw [found] at set
    exact ⟨es.push (key, value), rfl, set _ Array.toList_push⟩
  | some n =>
    rw [found] at set
    refine ⟨_, rfl, set _ ?_⟩
    rw [Array.toList_setIfInBounds]
    simp

/-- **Setting entries among texts** is setting variables one after the other. -/
theorem insertAll_of_allNamed (h : Heap) {es : Entries} {new : List (Value × Value)}
    (named : AllNamed es.toList) (named' : AllNamed new) :
    ∃ es', es.insertAll h new = .ok es' ∧ AllNamed es'.toList ∧
      namedEntries es'.toList = (namedEntries es.toList).putAll (namedEntries new) := by
  induction new generalizing es with
  | nil => exact ⟨es, rfl, named, rfl⟩
  | cons e new ih =>
    obtain ⟨key, value⟩ := e
    obtain ⟨⟨name, is⟩, named'⟩ := AllNamed.cons_iff.mp named'
    obtain ⟨es', inserted, kept, put⟩ := insert_of_allNamed h value named is
    obtain ⟨es'', rest, kept', puts⟩ := ih kept named'
    refine ⟨es'', ?_, kept', ?_⟩
    · rw [Entries.insertAll, List.foldlM_cons]
      change (es.insert h key value >>= fun es => es.insertAll h new) = _
      rw [inserted]
      exact rest
    · rw [puts, put, namedEntries_cons is]
      rfl

/-! ### Entries that were set -/

variable {h : Heap} {es es' : Entries} {key value : Value}

/-- What is alike to a text is a text. -/
theorem Value.isSome_of_alike {a b : Value} (alike : Value.alike h a b = .ok true)
    (text : a.asText?.isSome = true) : b.asText?.isSome = true := by
  obtain ⟨t, is⟩ := Option.isSome_iff_exists.mp text
  rw [Value.alike] at alike
  split at alike
  · next same => cases a <;> cases is <;> cases b <;> first | rfl | cases same
  · have equal : ∀ n, Value.equalWith h (n + 1) a b = .ok true → b.asText?.isSome = true := by
      intro n equal
      cases b with
      | str | safe => rfl
      | undefined strict => cases strict <;> cases a <;> cases is <;> cases equal
      | _ =>
        cases a <;> cases is
        all_goals simp [equalWith, strictUse?, number?, members?, contentEqual, same] at equal
    exact equal _ alike

/-- The place of a key has a key that is alike. -/
theorem Entries.exists_of_position? {n : Nat} (found : es.position? h key = .ok (some n)) :
    ∃ e ∈ es.toList, Value.alike h e.1 key = .ok true := by
  have go : ∀ (l : List (Value × Value)) (k : Nat), position?.go h key k l = .ok (some n) →
      ∃ e ∈ l, Value.alike h e.1 key = .ok true := by
    intro l
    induction l with
    | nil => nofun
    | cons e l ih =>
      intro k found
      rw [position?.go] at found
      obtain ⟨same, judged, rest⟩ := ok_of_bind found
      cases same with
      | true => exact ⟨e, List.mem_cons_self, judged⟩
      | false =>
        obtain ⟨e', mem, alike⟩ := ih _ rest
        exact ⟨e', List.mem_cons_of_mem e mem, alike⟩
  exact go _ 0 found

/-- If all keys are texts once an entry is set, they were before, and the new key is one. -/
theorem allNamed_of_insert (inserted : es.insert h key value = .ok es') (named : AllNamed es'.toList) :
    AllNamed es.toList ∧ key.asText?.isSome = true := by
  rw [Entries.insert] at inserted
  obtain ⟨_, _, inserted⟩ := ok_of_bind inserted
  obtain ⟨place, found, inserted⟩ := ok_of_bind inserted
  cases place with
  | none =>
    obtain rfl := Except.ok.inj inserted
    rw [Array.toList_push] at named
    exact ⟨fun e mem => named e (List.mem_append_left _ mem),
      named (key, value) (List.mem_append_right _ (List.mem_singleton_self _))⟩
  | some n =>
    obtain rfl := Except.ok.inj inserted
    have keys : (es.setIfInBounds n ((es.getD n (key, value)).1, value)).toList.map (·.1) =
        es.toList.map (·.1) := by
      rw [Array.toList_setIfInBounds, List.map_set]
      by_cases below : n < es.size
      · have is : (es.getD n (key, value)).1 = (es.toList.map (·.1)).get ⟨n, by simpa using below⟩ := by
          simp [below]
        rw [is, List.get_eq_getElem, List.set_getElem_self]
      · exact List.set_eq_of_length_le (by simpa using below)
    have kept : AllNamed es.toList := by
      intro e mem
      have mem' := List.mem_map_of_mem (f := (·.1)) mem
      rw [← keys] at mem'
      obtain ⟨e', mem', same⟩ := List.mem_map.mp mem'
      exact same ▸ named e' mem'
    obtain ⟨e, mem, alike⟩ := Entries.exists_of_position? found
    exact ⟨kept, Value.isSome_of_alike alike (kept e mem)⟩

/-- If all keys are texts once entries are set, they were before, and the new ones are. -/
theorem allNamed_of_insertAll {new : List (Value × Value)} (inserted : es.insertAll h new = .ok es')
    (named : AllNamed es'.toList) : AllNamed es.toList ∧ AllNamed new := by
  induction new generalizing es with
  | nil =>
    obtain rfl := Except.ok.inj inserted
    exact ⟨named, fun _ mem => absurd mem List.not_mem_nil⟩
  | cons e new ih =>
    rw [Entries.insertAll, List.foldlM_cons] at inserted
    obtain ⟨es₁, first, rest⟩ := ok_of_bind inserted
    obtain ⟨named₁, tail⟩ := ih rest
    obtain ⟨before, head⟩ := allNamed_of_insert first named₁
    exact ⟨before, List.forall_mem_cons.mpr ⟨head, tail⟩⟩

end Template

open Template

/-- **The variables of a template** whose model has texts for keys: the entries of the model except for
the name of the helper, and the helper. -/
theorem Pipeline.variablesOf_of_allNamed {es : List (Value × Value)} (named : AllNamed es)
    (helper : Nat) : Pipeline.variablesOf es helper =
      .ok ((namedEntries es).filter (·.1 != helperName) ++ [(helperName, .render helper)]) := by
  rw [variablesOf]
  generalize each : List.mapM (m := Except Failure) _ es = read
  have named' : read = .ok (namedEntries es) := by
    subst each
    induction es with
    | nil => rfl
    | cons e es ih =>
      obtain ⟨key, value⟩ := e
      obtain ⟨⟨name, is⟩, named⟩ := AllNamed.cons_iff.mp named
      simp only [List.mapM_cons, is, ih named, namedEntries_cons is]
      rfl
  rw [named']
  rfl

/-- Only a model that has texts for keys gives variables. -/
theorem Pipeline.allNamed_of_variablesOf {es : List (Value × Value)} {helper : Nat} {vars : Variables}
    (given : variablesOf es helper = .ok vars) : AllNamed es := by
  intro e mem
  rw [variablesOf] at given
  obtain ⟨named, each, -⟩ := ok_of_bind given
  clear given
  induction es generalizing named with
  | nil => cases mem
  | cons e' es ih =>
    rw [List.mapM_cons] at each
    obtain ⟨_, first, each⟩ := ok_of_bind each
    obtain ⟨_, rest, _⟩ := ok_of_bind each
    obtain rfl | mem := List.mem_cons.mp mem
    · obtain ⟨key, value⟩ := e
      cases is : key.asText? with
      | some n => rfl
      | none => simp [is] at first
    · exact ih mem _ rest

/-- The variables of a template: what its model gives, and the helper, which overrides the model. -/
theorem Pipeline.last?_of_variablesOf {es : List (Value × Value)} {number : Nat} {vars : Variables}
    (given : variablesOf es number = .ok vars) (name : Text) : vars.last? name =
      if name = helperName then some (.render number) else (namedEntries es).last? name := by
  rw [variablesOf_of_allNamed (allNamed_of_variablesOf given)] at given
  obtain rfl := Except.ok.inj given
  rw [Table.last?_append]
  have helper : Table.last? [(helperName, Value.render number)] name =
      if name = helperName then some (.render number) else none := Table.lookup_cons [] helperName name _
  rw [helper]
  split
  · rfl
  · next other =>
    rw [Option.none_or]
    exact Table.last?_filter name _ fun v => bne_iff_ne.mpr other

end Stencil
