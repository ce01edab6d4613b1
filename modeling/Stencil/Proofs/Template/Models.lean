import Stencil.Template.Evaluate

/-!
# Models as variables

A model that is a dictionary can always be put on the heap of a machine, and its entries can always be
taken from there as the variables of a template. Nothing about the values matters: only keys are
compared, and the keys are texts.

## Main definitions

- `Exec.Gives` — a computation that comes to a result on a machine
- `Value.IsName`, `Named` — values that are texts, and entries with such keys

## Main results

- `Value.gives_ofModel` — every model can be put on the heap
- `gives_entriesOf` — the entries of a dictionary with names for keys
- `Entries.insertAll_of_named` — entries with names for keys can be set
-/

namespace Stencil

namespace Template

variable {α β : Type}

namespace Exec

/-- On this machine a computation comes to a result, without asking for another template. -/
def Gives (x : Exec α) (m : Machine) (P : α → Machine → Prop) : Prop :=
  ∃ a m', x m = .done (.ok a) m' ∧ P a m'

theorem Gives.pure {P : α → Machine → Prop} {a : α} {m : Machine} (holds : P a m) :
    Gives (Pure.pure a) m P :=
  ⟨a, m, rfl, holds⟩

theorem Gives.bind {x : Exec α} {f : α → Exec β} {m : Machine} {P : α → Machine → Prop}
    {Q : β → Machine → Prop} (gives : Gives x m P) (next : ∀ a m', P a m' → Gives (f a) m' Q) :
    Gives (x >>= f) m Q := by
  obtain ⟨a, m', is, holds⟩ := gives
  obtain ⟨b, m'', is', holds'⟩ := next a m' holds
  refine ⟨b, m'', ?_, holds'⟩
  change (x m).bind f = _
  rw [is]
  exact is'

theorem Gives.mono {x : Exec α} {m : Machine} {P Q : α → Machine → Prop} (gives : Gives x m P)
    (weaker : ∀ a m', P a m' → Q a m') : Gives x m Q := by
  obtain ⟨a, m', is, holds⟩ := gives
  exact ⟨a, m', is, weaker a m' holds⟩

theorem gives_onHeap {f : Heap → Except Raised α} {m : Machine} {a : α} {P : α → Machine → Prop}
    (is : f m.heap = .ok a) (holds : P a m) : Gives (onHeap f) m P :=
  ⟨a, m, by rw [onHeap, is], holds⟩

end Exec

/-- A value that is a text. -/
def Value.IsName (v : Value) : Prop :=
  ∃ t i, v = .str t i

/-- Entries whose keys are texts. -/
def Named (es : List (Value × Value)) : Prop :=
  ∀ e ∈ es, e.1.IsName

namespace Exec

/-- A value can be held, and a text stays a text. -/
theorem gives_keep (v : Value) (m : Machine) : Gives (keep v) m fun w _ => v.IsName → w.IsName := by
  unfold keep
  split
  all_goals refine ⟨_, _, rfl, fun name => ?_⟩
  case h_4 => exact ⟨_, _, rfl⟩
  case h_9 => exact name
  -- what is held in another way than before is no name
  all_goals
    obtain ⟨_, _, is⟩ := name
    cases is

theorem gives_keepAll (vs : List Value) (m : Machine) : Gives (keepAll vs) m fun _ _ => True := by
  have go : ∀ (vs acc : List Value) (m : Machine), Gives (keepAll.go acc vs) m fun _ _ => True := by
    intro vs
    induction vs with
    | nil => exact fun acc m => .pure trivial
    | cons v vs ih => exact fun acc m => (gives_keep v m).bind fun w m' _ => ih (w :: acc) m'
  exact go vs [] m

theorem gives_keepPairs {es : List (Value × Value)} (named : Named es) (m : Machine) :
    Gives (keepPairs es) m fun es' _ => Named es' := by
  have go : ∀ (es acc : List (Value × Value)) (m : Machine), Named es → Named acc →
      Gives (keepPairs.go acc es) m fun es' _ => Named es' := by
    intro es
    induction es with
    | nil => exact fun acc m _ kept => .pure fun e mem => kept e (List.mem_reverse.mp mem)
    | cons e es ih =>
      intro acc m named kept
      obtain ⟨key, value⟩ := e
      have isName : key.IsName := named _ List.mem_cons_self
      refine (gives_keep key m).bind fun key' m' name => ?_
      refine (gives_keep value m').bind fun value' m'' _ => ?_
      refine ih _ m'' (fun e mem => named e (List.mem_cons_of_mem _ mem)) fun e mem => ?_
      obtain rfl | mem := List.mem_cons.mp mem
      · exact name isName
      · exact kept e mem
  exact go es [] m named fun e mem => absurd mem List.not_mem_nil

theorem gives_newList (items : List Value) (m : Machine) : Gives (newList items) m fun _ _ => True :=
  (gives_keepAll items m).bind fun _ _ _ => ⟨_, _, rfl, trivial⟩

theorem gives_newTuple (items : List Value) (m : Machine) : Gives (newTuple items) m fun _ _ => True :=
  (gives_keepAll items m).bind fun _ _ _ => ⟨_, _, rfl, trivial⟩

/-- A value that stands for a dictionary with names for keys. -/
def IsDict (v : Value) (m : Machine) : Prop :=
  ∃ id es, v = .ref id ∧ m.heap.getD id (.list #[]) = .dict es ∧ Named es.toList

theorem gives_newDict {es : List (Value × Value)} (named : Named es) (m : Machine) :
    Gives (newDict es) m IsDict := by
  refine (gives_keepPairs named m).bind fun es' m' kept => ?_
  refine ⟨.ref m'.heap.size, _, rfl, m'.heap.size, es'.toArray, rfl, ?_, kept⟩
  simp [Array.getD]

end Exec

mutual

/-- **Every model** can be put on the heap. -/
theorem Value.gives_ofModel : ∀ (x : Model) (m : Machine), Exec.Gives (ofModel x) m fun _ _ => True
  | .none, _ | .bool _, _ => .pure trivial
  | .int i, m => (Exec.gives_keep (.int i) m).mono fun _ _ _ => trivial
  | .float x, m => (Exec.gives_keep (.float x) m).mono fun _ _ _ => trivial
  | .str t, m => (Exec.gives_keep (.str t) m).mono fun _ _ _ => trivial
  | .safe t, m => (Exec.gives_keep (.safe t) m).mono fun _ _ _ => trivial
  | .bytes b, m => (Exec.gives_keep (.bytes b) m).mono fun _ _ _ => trivial
  | .list items, m => (gives_ofItems items m).bind fun vs m' _ => Exec.gives_newList vs m'
  | .tuple items, m => (gives_ofItems items m).bind fun vs m' _ => Exec.gives_newTuple vs m'
  | .dict entries, m => (gives_ofEntries entries m).bind fun _ m' named =>
      (Exec.gives_newDict named m').mono fun _ _ _ => trivial

theorem Value.gives_ofItems : ∀ (items : List Model) (m : Machine),
    Exec.Gives (ofModel.ofItems items) m fun _ _ => True
  | [], _ => .pure trivial
  | x :: rest, m => (gives_ofModel x m).bind fun _ m' _ =>
      (gives_ofItems rest m').bind fun _ _ _ => .pure trivial

theorem Value.gives_ofEntries : ∀ (entries : List (Text × Model)) (m : Machine),
    Exec.Gives (ofModel.ofEntries entries) m fun es _ => Named es
  | [], _ => .pure fun _ mem => absurd mem List.not_mem_nil
  | (n, x) :: rest, m => (gives_ofModel x m).bind fun v m' _ =>
      (gives_ofEntries rest m').bind fun es _ named => .pure fun e mem => by
        obtain rfl | mem := List.mem_cons.mp mem
        · exact ⟨n, .fresh, rfl⟩
        · exact named e mem

end

/-- A dictionary is put on the heap as one. -/
theorem Value.gives_ofModel_dict (entries : List (Text × Model)) (m : Machine) :
    Exec.Gives (ofModel (.dict entries)) m Exec.IsDict :=
  (gives_ofEntries entries m).bind fun _ m' named => Exec.gives_newDict named m'

/-- A dictionary gives its entries to another one, and it stays as it is. -/
theorem entriesOf_dict (E : Engine) {id : Nat} {es : Entries} {m : Machine}
    (is : m.heap.get id = .dict es) : entriesOf E (.ref id) m = .done (.ok es.toList) m := by
  have is' : m.heap.getD id (.list #[]) = .dict es := is
  simp [entriesOf, bind, Exec.andThen, Step.bind, Exec.fetch, is', pure, Exec.result]

/-- What a dictionary with names for keys gives to another one has names for keys. -/
theorem gives_entriesOf (E : Engine) {v : Value} {m : Machine} (holds : Exec.IsDict v m) :
    Exec.Gives (entriesOf E v) m fun es _ => Named es := by
  obtain ⟨id, es, rfl, is, named⟩ := holds
  exact ⟨_, m, entriesOf_dict E is, named⟩

namespace Entries

theorem alike_of_names (h : Heap) {a b : Value} (name : a.IsName) (name' : b.IsName) :
    ∃ same, Value.alike h a b = .ok same := by
  obtain ⟨t, i, rfl⟩ := name
  obtain ⟨t', i', rfl⟩ := name'
  rw [Value.alike]
  split
  · exact ⟨true, rfl⟩
  · exact ⟨t == t', rfl⟩

/-- Among names every name can be looked for. -/
theorem position?_of_named (h : Heap) {es : Entries} {key : Value} (named : Named es.toList)
    (name : key.IsName) : ∃ n, es.position? h key = .ok n := by
  have go : ∀ (l : List (Value × Value)) (n : Nat), Named l → ∃ k, position?.go h key n l = .ok k := by
    intro l
    induction l with
    | nil => exact fun n _ => ⟨none, rfl⟩
    | cons e l ih =>
      intro n named
      obtain ⟨k, v⟩ := e
      obtain ⟨same, is⟩ := alike_of_names h (named _ List.mem_cons_self) name
      obtain ⟨found, rest⟩ := ih (n + 1) fun e mem => named e (List.mem_cons_of_mem _ mem)
      rw [position?.go, is]
      cases same with
      | true => exact ⟨some n, rfl⟩
      | false => exact ⟨found, rest⟩
  exact go es.toList 0 named

theorem insert_of_named (h : Heap) {es : Entries} {key : Value} (value : Value)
    (named : Named es.toList) (name : key.IsName) :
    ∃ es', es.insert h key value = .ok es' ∧ Named es'.toList := by
  have hashable : Value.hashable h key = .ok () := by
    obtain ⟨t, i, rfl⟩ := name
    rfl
  obtain ⟨n, position⟩ := position?_of_named h named name
  rw [insert, hashable, position]
  cases n with
  | none =>
    refine ⟨es.push (key, value), rfl, fun e mem => ?_⟩
    rw [Array.toList_push, List.mem_append, List.mem_singleton] at mem
    obtain mem | rfl := mem
    · exact named e mem
    · exact name
  | some n =>
    refine ⟨es.setIfInBounds n ((es.getD n (key, value)).1, value), rfl, fun e mem => ?_⟩
    rw [Array.toList_setIfInBounds] at mem
    obtain mem | rfl := List.mem_or_eq_of_mem_set mem
    · exact named e mem
    · -- a known key keeps its place
      change (es.getD n (key, value)).1.IsName
      rw [Array.getD_eq_getD_getElem?]
      cases at_ : es[n]? with
      | none => exact name
      | some e => exact named e (Array.mem_toList_iff.mpr (Array.mem_of_getElem? at_))

/-- Entries with names for keys can all be set. -/
theorem insertAll_of_named (h : Heap) {es : Entries} {new : List (Value × Value)}
    (named : Named es.toList) (named' : Named new) :
    ∃ es', es.insertAll h new = .ok es' ∧ Named es'.toList := by
  induction new generalizing es with
  | nil => exact ⟨es, rfl, named⟩
  | cons e new ih =>
    obtain ⟨key, value⟩ := e
    obtain ⟨es', inserted, kept⟩ := insert_of_named h value named (named' _ List.mem_cons_self)
    obtain ⟨es'', rest, kept'⟩ := ih kept fun e mem => named' e (List.mem_cons_of_mem _ mem)
    refine ⟨es'', ?_, kept'⟩
    rw [insertAll, List.foldlM_cons]
    change (es.insert h key value >>= fun es => es.insertAll h new) = _
    rw [inserted]
    exact rest

end Entries

end Template

end Stencil
