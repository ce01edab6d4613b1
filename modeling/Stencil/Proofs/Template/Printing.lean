import Stencil.Proofs.Template.Models

/-!
# Texts of models

What a template writes for a value of its model, whether it holds in a condition, and that nothing can
go wrong about it as long as the value is not nested too deeply and its integers are not too long. The
text is a function of the model alone: it does not matter where on the heap the value has its parts.

## Main definitions

- `Model.quoted`, `Model.text`, `Model.holds` — the texts and the truth of models
- `Model.Printable` — models that have a text
- `Stands` — on a heap, a value is the value of a model

## Main results

- `Value.stands_ofModel` — what is put on the heap for a model stands for it
- `Stands.text`, `Stands.truth` — text and truth of what stands for a model
-/

namespace Stencil

open Template

namespace Model

mutual

/-- How deep a model is nested; a model without parts has depth one. -/
def depth : Model → Nat
  | list items => depthOfItems items + 1
  | tuple items => depthOfItems items + 1
  | dict entries => depthOfEntries entries + 1
  | _ => 1

def depthOfItems : List Model → Nat
  | [] => 0
  | x :: rest => max x.depth (depthOfItems rest)

def depthOfEntries : List (Text × Model) → Nat
  | [] => 0
  | (_, x) :: rest => max x.depth (depthOfEntries rest)

end

mutual

/-- Whether all integers in a model are short enough to have a text. -/
def isShort : Model → Bool
  | int i => (Text.ofNat i.natAbs).length ≤ intDigitLimit
  | list items => areShort items
  | tuple items => areShort items
  | dict entries => entriesAreShort entries
  | _ => true

def areShort : List Model → Bool
  | [] => true
  | x :: rest => x.isShort && areShort rest

def entriesAreShort : List (Text × Model) → Bool
  | [] => true
  | (_, x) :: rest => x.isShort && entriesAreShort rest

end

/-- A model that has a text. -/
structure Printable (x : Model) : Prop where
  shallow : x.depth ≤ nestingLimit
  short : x.isShort = true

mutual

/-- The form of a model inside a container. -/
def quoted : Model → Text
  | none => "None"
  | bool true => "True"
  | bool false => "False"
  | int i => Text.ofInt i
  | float x => Decimal.showFloat x
  | str t => t.quoted
  | safe t => "Markup(" ++ t.quoted ++ ")"
  | bytes b => quotedBytes b
  | list items => "[" ++ Text.join ", " (quotedItems items) ++ "]"
  | tuple items => match quotedItems items with
    | [one] => "(" ++ one ++ ",)"
    | several => "(" ++ Text.join ", " several ++ ")"
  | dict entries => "\x7b" ++ Text.join ", " (quotedEntries entries) ++ "\x7d"

def quotedItems : List Model → List Text
  | [] => []
  | x :: rest => x.quoted :: quotedItems rest

def quotedEntries : List (Text × Model) → List Text
  | [] => []
  | (name, x) :: rest => (name.quoted ++ ": " ++ x.quoted) :: quotedEntries rest

end

/-- The text that a model is written as. -/
def text : Model → Text
  | str t => t
  | safe t => t
  | x => x.quoted

/-- Whether a model counts as true. -/
def holds : Model → Bool
  | none => false
  | bool b => b
  | int i => i != 0
  | float x => x != 0.0
  | str t => !t.isEmpty
  | safe t => !t.isEmpty
  | bytes b => !b.isEmpty
  | list items => !items.isEmpty
  | tuple items => !items.isEmpty
  | dict entries => !entries.isEmpty

theorem printable_str (t : Text) : (str t).Printable :=
  ⟨show 1 ≤ nestingLimit by decide, rfl⟩

theorem depth_pos : ∀ x : Model, 0 < x.depth
  | list _ | tuple _ | dict _ => Nat.succ_pos _
  | none | bool _ | int _ | float _ | str _ | safe _ | bytes _ => Nat.one_pos

end Model

namespace Template

/-! ### Values that stand for models -/

mutual

/-- On a heap, a value is the value of a model, and the objects it refers to have places below `n`. The
places decrease towards the parts, so that no object is a part of itself. -/
inductive Stands (h : Heap) : (n : Nat) → Value → Model → Prop
  | none {n : Nat} : Stands h n .none .none
  | bool {n : Nat} (b : Bool) : Stands h n (.bool b) (.bool b)
  | int {n : Nat} (i : Int) (self : Identity) : Stands h n (.int i self) (.int i)
  | float {n : Nat} (x : Float) (self : Identity) : Stands h n (.float x self) (.float x)
  | str {n : Nat} (t : Text) (self : Identity) : Stands h n (.str t self) (.str t)
  | safe {n : Nat} (t : Text) (self : Identity) : Stands h n (.safe t self) (.safe t)
  | bytes {n : Nat} (b : Bytes) (self : Identity) : Stands h n (.bytes b self) (.bytes b)
  | list {n id : Nat} {vs : List Value} {xs : List Model} (below : id < n)
      (is : h.get id = .list vs.toArray) (parts : StandAll h id vs xs) :
      Stands h n (.ref id) (.list xs)
  | tuple {n id : Nat} {vs : List Value} {xs : List Model} (below : id < n)
      (is : h.get id = .tuple vs.toArray []) (parts : StandAll h id vs xs) :
      Stands h n (.ref id) (.tuple xs)
  | dict {n id : Nat} {es : List (Value × Value)} {xs : List (Text × Model)} (below : id < n)
      (is : h.get id = .dict es.toArray) (parts : EntriesStand h id es xs) :
      Stands h n (.ref id) (.dict xs)

/-- Values stand for models one by one. -/
inductive StandAll (h : Heap) : (n : Nat) → List Value → List Model → Prop
  | nil {n : Nat} : StandAll h n [] []
  | cons {n : Nat} {v : Value} {x : Model} {vs : List Value} {xs : List Model}
      (head : Stands h n v x) (tail : StandAll h n vs xs) : StandAll h n (v :: vs) (x :: xs)

/-- Entries have the names, and values that stand for the models, of other entries. -/
inductive EntriesStand (h : Heap) : (n : Nat) → List (Value × Value) → List (Text × Model) → Prop
  | nil {n : Nat} : EntriesStand h n [] []
  | cons {n : Nat} (name : Text) (self : Identity) {v : Value} {x : Model}
      {es : List (Value × Value)} {xs : List (Text × Model)} (head : Stands h n v x)
      (tail : EntriesStand h n es xs) : EntriesStand h n ((.str name self, v) :: es) ((name, x) :: xs)

end

variable {h h' : Heap} {n n' : Nat}

theorem Stands.mono {v : Value} {x : Model} (stands : Stands h n v x) (le : n ≤ n') :
    Stands h n' v x := by
  cases stands with
  | list below is parts => exact .list (Nat.lt_of_lt_of_le below le) is parts
  | tuple below is parts => exact .tuple (Nat.lt_of_lt_of_le below le) is parts
  | dict below is parts => exact .dict (Nat.lt_of_lt_of_le below le) is parts
  | _ => constructor

theorem StandAll.mono {vs : List Value} {xs : List Model} (stand : StandAll h n vs xs)
    (le : n ≤ n') : StandAll h n' vs xs := by
  induction vs generalizing xs with
  | nil =>
    cases stand
    exact .nil
  | cons v vs ih =>
    cases stand with
    | cons head tail => exact .cons (head.mono le) (ih tail)

theorem EntriesStand.mono {es : List (Value × Value)} {xs : List (Text × Model)}
    (stand : EntriesStand h n es xs) (le : n ≤ n') : EntriesStand h n' es xs := by
  induction es generalizing xs with
  | nil =>
    cases stand
    exact .nil
  | cons e es ih =>
    cases stand with
    | cons name self head tail => exact .cons name self (head.mono le) (ih tail)

/-! ### Other objects do not matter -/

mutual

/-- Only the objects below the bound count. -/
theorem Stands.frame {v : Value} : ∀ {n : Nat} {x : Model}, Stands h n v x →
    (∀ id < n, h'.get id = h.get id) → Stands h' n v x
  | _, _, .none, _ => .none
  | _, _, .bool b, _ => .bool b
  | _, _, .int i self, _ => .int i self
  | _, _, .float x self, _ => .float x self
  | _, _, .str t self, _ => .str t self
  | _, _, .safe t self, _ => .safe t self
  | _, _, .bytes b self, _ => .bytes b self
  | _, _, .list below is parts, agree =>
    .list below ((agree _ below).trans is) (parts.frame fun id lt => agree id (Nat.lt_trans lt below))
  | _, _, .tuple below is parts, agree =>
    .tuple below ((agree _ below).trans is) (parts.frame fun id lt => agree id (Nat.lt_trans lt below))
  | _, _, .dict below is parts, agree =>
    .dict below ((agree _ below).trans is) (parts.frame fun id lt => agree id (Nat.lt_trans lt below))

theorem StandAll.frame {vs : List Value} : ∀ {n : Nat} {xs : List Model}, StandAll h n vs xs →
    (∀ id < n, h'.get id = h.get id) → StandAll h' n vs xs
  | _, _, .nil, _ => .nil
  | _, _, .cons head tail, agree => .cons (head.frame agree) (tail.frame agree)

theorem EntriesStand.frame {es : List (Value × Value)} : ∀ {n : Nat} {xs : List (Text × Model)},
    EntriesStand h n es xs → (∀ id < n, h'.get id = h.get id) → EntriesStand h' n es xs
  | _, _, .nil, _ => .nil
  | _, _, .cons name self head tail, agree => .cons name self (head.frame agree) (tail.frame agree)

end

/-- A heap with all objects of another one, and maybe more of them. -/
structure Heap.Extends (h h' : Heap) : Prop where
  size : h.size ≤ h'.size
  agrees : ∀ id < h.size, h'.get id = h.get id

namespace Heap.Extends

theorem refl (h : Heap) : h.Extends h :=
  ⟨Nat.le_refl _, fun _ _ => rfl⟩

theorem trans {h₁ h₂ h₃ : Heap} (first : h₁.Extends h₂) (second : h₂.Extends h₃) : h₁.Extends h₃ where
  size := Nat.le_trans first.size second.size
  agrees id lt := (second.agrees id (Nat.lt_of_lt_of_le lt first.size)).trans (first.agrees id lt)

theorem push (h : Heap) (o : Object) : h.Extends (h.push o) where
  size := by simp
  agrees id lt := by simp [Heap.get, Array.getD, lt, Array.getElem_push_lt, Nat.lt_succ_of_lt lt]

end Heap.Extends

theorem Heap.get_push (h : Heap) (o : Object) : Heap.get (h.push o) h.size = o := by
  simp [Heap.get, Array.getD]

/-- What stands on all of a heap stands on its extensions. -/
theorem Stands.extend {v : Value} {x : Model} (stands : Stands h h.size v x) (ext : h.Extends h') :
    Stands h' h'.size v x :=
  (stands.frame ext.agrees).mono ext.size

theorem StandAll.extend {vs : List Value} {xs : List Model} (stand : StandAll h h.size vs xs)
    (ext : h.Extends h') : StandAll h' h'.size vs xs :=
  (stand.frame ext.agrees).mono ext.size

theorem EntriesStand.extend {es : List (Value × Value)} {xs : List (Text × Model)}
    (stand : EntriesStand h h.size es xs) (ext : h.Extends h') : EntriesStand h' h'.size es xs :=
  (stand.frame ext.agrees).mono ext.size

/-! ### From models to values -/

/-- A value as it is held, which stands for what it stood for before. -/
structure Value.Kept (v w : Value) : Prop where
  stands : ∀ {h : Heap} {n : Nat} {x : Model}, Stands h n v x → Stands h n w x
  missing : v = .missing → w = .missing

namespace Exec

/-- Holding a value leaves the heap as it was. -/
theorem keep_stands (v : Value) (m : Machine) :
    Gives (keep v) m fun w m' => m'.heap = m.heap ∧ v.Kept w := by
  unfold keep
  split
  -- a value that nothing held gets an identity, which is no part of what it stands for
  all_goals
    refine ⟨_, _, rfl, rfl, fun stands => ?_, fun missing => ?_⟩
    · first
      | exact stands
      | cases stands <;> constructor
    · first
      | exact missing
      | cases missing

theorem keepAll_stands (vs : List Value) (m : Machine) :
    Gives (keepAll vs) m fun ws m' => m'.heap = m.heap ∧
      ∀ h n xs, StandAll h n vs xs → StandAll h n ws xs := by
  have go : ∀ (vs acc : List Value) (m : Machine),
      Gives (keepAll.go acc vs) m fun ws m' => m'.heap = m.heap ∧
        ∃ rest, ws = acc.reverse ++ rest ∧
          ∀ h n xs, StandAll h n vs xs → StandAll h n rest xs := by
    intro vs
    induction vs with
    | nil => exact fun acc m => .pure ⟨rfl, [], by simp, fun _ _ _ stand => stand⟩
    | cons v vs ih =>
      intro acc m
      refine (keep_stands v m).bind fun w m' kept => (ih (w :: acc) m').mono fun ws m'' gone => ?_
      obtain ⟨heap, keeps⟩ := kept
      obtain ⟨heap', rest, rfl, stays⟩ := gone
      refine ⟨heap'.trans heap, w :: rest, by simp, fun h n xs stand => ?_⟩
      cases stand with
      | cons head tail => exact .cons (keeps.stands head) (stays h n _ tail)
  refine (go vs [] m).mono fun ws m' gone => ?_
  obtain ⟨heap, rest, rfl, stays⟩ := gone
  exact ⟨heap, stays⟩

theorem keepPairs_stands (es : List (Value × Value)) (m : Machine) :
    Gives (keepPairs es) m fun ws m' => m'.heap = m.heap ∧
      ∀ h n xs, EntriesStand h n es xs → EntriesStand h n ws xs := by
  have go : ∀ (es acc : List (Value × Value)) (m : Machine),
      Gives (keepPairs.go acc es) m fun ws m' => m'.heap = m.heap ∧
        ∃ rest, ws = acc.reverse ++ rest ∧
          ∀ h n xs, EntriesStand h n es xs → EntriesStand h n rest xs := by
    intro es
    induction es with
    | nil => exact fun acc m => .pure ⟨rfl, [], by simp, fun _ _ _ stand => stand⟩
    | cons e es ih =>
      intro acc m
      obtain ⟨key, value⟩ := e
      refine (keep_stands key m).bind fun k m₁ named => ?_
      refine (keep_stands value m₁).bind fun w m₂ kept => ?_
      refine (ih ((k, w) :: acc) m₂).mono fun ws m₃ gone => ?_
      obtain ⟨heap, names⟩ := named
      obtain ⟨heap', keeps⟩ := kept
      obtain ⟨heap'', rest, rfl, stays⟩ := gone
      refine ⟨heap''.trans (heap'.trans heap), (k, w) :: rest, by simp, fun h n xs stand => ?_⟩
      cases stand with
      | cons name self head tail =>
        have text := names.stands (h := h) (n := n) (.str name self)
        cases text with
        | str _ self => exact .cons name self (keeps.stands head) (stays h n _ tail)
  refine (go es [] m).mono fun ws m' gone => ?_
  obtain ⟨heap, rest, rfl, stays⟩ := gone
  exact ⟨heap, stays⟩

/-- The new object of a container, above its parts. -/
theorem alloc_extends (o : Object) (m : Machine) :
    Gives (alloc o) m fun id m' => m.heap.Extends m'.heap ∧ id = m.heap.size ∧
      id < m'.heap.size ∧ m'.heap.get id = o :=
  ⟨_, _, rfl, .push m.heap o, rfl, by simp, m.heap.get_push o⟩

end Exec

namespace Value

/-- What the parts of a container stand for is kept while the container is made. -/
theorem stands_newList {vs : List Value} {xs : List Model} {m : Machine}
    (stand : StandAll m.heap m.heap.size vs xs) :
    Exec.Gives (Exec.newList vs) m fun v m' => m.heap.Extends m'.heap ∧
      Stands m'.heap m'.heap.size v (.list xs) := by
  refine (Exec.keepAll_stands vs m).bind fun ws m₁ kept => ?_
  refine (Exec.alloc_extends (.list ws.toArray) m₁).bind fun id m₂ made => .pure ?_
  obtain ⟨heap, keeps⟩ := kept
  obtain ⟨ext, rfl, below, is⟩ := made
  rw [heap] at ext below is ⊢
  exact ⟨ext, .list below is ((keeps _ _ _ stand).frame ext.agrees)⟩

theorem stands_newTuple {vs : List Value} {xs : List Model} {m : Machine}
    (stand : StandAll m.heap m.heap.size vs xs) :
    Exec.Gives (Exec.newTuple vs) m fun v m' => m.heap.Extends m'.heap ∧
      Stands m'.heap m'.heap.size v (.tuple xs) := by
  refine (Exec.keepAll_stands vs m).bind fun ws m₁ kept => ?_
  refine (Exec.alloc_extends (.tuple ws.toArray []) m₁).bind fun id m₂ made => .pure ?_
  obtain ⟨heap, keeps⟩ := kept
  obtain ⟨ext, rfl, below, is⟩ := made
  rw [heap] at ext below is ⊢
  exact ⟨ext, .tuple below is ((keeps _ _ _ stand).frame ext.agrees)⟩

theorem stands_newDict {es : List (Value × Value)} {xs : List (Text × Model)} {m : Machine}
    (stand : EntriesStand m.heap m.heap.size es xs) :
    Exec.Gives (Exec.newDict es) m fun v m' => m.heap.Extends m'.heap ∧
      Stands m'.heap m'.heap.size v (.dict xs) := by
  refine (Exec.keepPairs_stands es m).bind fun ws m₁ kept => ?_
  refine (Exec.alloc_extends (.dict ws.toArray) m₁).bind fun id m₂ made => .pure ?_
  obtain ⟨heap, keeps⟩ := kept
  obtain ⟨ext, rfl, below, is⟩ := made
  rw [heap] at ext below is ⊢
  exact ⟨ext, .dict below is ((keeps _ _ _ stand).frame ext.agrees)⟩

/-- A held value without parts. -/
theorem stands_keep {v : Value} {x : Model} (m : Machine) (stands : Stands m.heap m.heap.size v x) :
    Exec.Gives (Exec.keep v) m fun w m' => m.heap.Extends m'.heap ∧
      Stands m'.heap m'.heap.size w x := by
  refine (Exec.keep_stands v m).mono fun w m' kept => ?_
  obtain ⟨heap, keeps⟩ := kept
  rw [heap]
  exact ⟨.refl m.heap, keeps.stands stands⟩

mutual

/-- **What is put on the heap** for a model stands for it, and leaves the other objects alone. -/
theorem stands_ofModel : ∀ (x : Model) (m : Machine),
    Exec.Gives (ofModel x) m fun v m' => m.heap.Extends m'.heap ∧ Stands m'.heap m'.heap.size v x
  | .none, m => .pure ⟨.refl m.heap, .none⟩
  | .bool b, m => .pure ⟨.refl m.heap, .bool b⟩
  | .int i, m => stands_keep m (.int i .fresh)
  | .float x, m => stands_keep m (.float x .fresh)
  | .str t, m => stands_keep m (.str t .fresh)
  | .safe t, m => stands_keep m (.safe t .fresh)
  | .bytes b, m => stands_keep m (.bytes b .fresh)
  | .list items, m => (stand_ofItems items m).bind fun _ _ made =>
      (stands_newList made.2).mono fun _ _ done => ⟨made.1.trans done.1, done.2⟩
  | .tuple items, m => (stand_ofItems items m).bind fun _ _ made =>
      (stands_newTuple made.2).mono fun _ _ done => ⟨made.1.trans done.1, done.2⟩
  | .dict entries, m => (stand_ofEntries entries m).bind fun _ _ made =>
      (stands_newDict made.2).mono fun _ _ done => ⟨made.1.trans done.1, done.2⟩

theorem stand_ofItems : ∀ (xs : List Model) (m : Machine),
    Exec.Gives (ofModel.ofItems xs) m fun vs m' => m.heap.Extends m'.heap ∧
      StandAll m'.heap m'.heap.size vs xs
  | [], m => .pure ⟨.refl m.heap, .nil⟩
  | x :: rest, m => (stands_ofModel x m).bind fun _ m₁ first =>
      (stand_ofItems rest m₁).bind fun _ _ others =>
        .pure ⟨first.1.trans others.1, .cons (first.2.extend others.1) others.2⟩

theorem stand_ofEntries : ∀ (xs : List (Text × Model)) (m : Machine),
    Exec.Gives (ofModel.ofEntries xs) m fun es m' => m.heap.Extends m'.heap ∧
      EntriesStand m'.heap m'.heap.size es xs
  | [], m => .pure ⟨.refl m.heap, .nil⟩
  | (name, x) :: rest, m => (stands_ofModel x m).bind fun _ m₁ first =>
      (stand_ofEntries rest m₁).bind fun _ _ others =>
        .pure ⟨first.1.trans others.1, .cons name .fresh (first.2.extend others.1) others.2⟩

end

end Value

/-! ### Truth and text -/

theorem StandAll.length {vs : List Value} {xs : List Model} (stand : StandAll h n vs xs) :
    vs.length = xs.length := by
  induction vs generalizing xs with
  | nil =>
    cases stand
    rfl
  | cons v vs ih =>
    cases stand with
    | cons head tail => rw [List.length_cons, List.length_cons, ih tail]

theorem EntriesStand.length {es : List (Value × Value)} {xs : List (Text × Model)}
    (stand : EntriesStand h n es xs) : es.length = xs.length := by
  induction es generalizing xs with
  | nil =>
    cases stand
    rfl
  | cons e es ih =>
    cases stand with
    | cons name self head tail => rw [List.length_cons, List.length_cons, ih tail]

/-- A value holds in a condition if the model does that it stands for. -/
theorem Stands.truth {v : Value} {x : Model} (stands : Stands h n v x) : v.truth h = .ok x.holds := by
  cases stands with
  | list below is parts | tuple below is parts =>
    -- what matters is only whether there are parts
    rw [Value.truth, is, Model.holds]
    cases parts <;> rfl
  | dict below is parts =>
    rw [Value.truth, is, Model.holds]
    cases parts <;> rfl
  | _ => rfl

/-- An integer of few digits has a text. -/
theorem intText_of_isShort {i : Int} (short : (Model.int i).isShort = true) :
    intText i = .ok (Text.ofInt i) := by
  rw [Model.isShort, decide_eq_true_eq] at short
  unfold intText
  split
  · rfl
  · exact if_neg (Nat.not_lt.mpr short)

/-- A container that is not being shown yet stays so for its parts, whose places are below its own. -/
theorem notShown {shown : List Nat} {id : Nat} (below : id < n) (outside : ∀ i ∈ shown, n ≤ i) :
    shown.contains id = false ∧ ∀ i ∈ id :: shown, id ≤ i := by
  constructor
  · rw [List.contains_eq_mem, decide_eq_false_iff_not]
    intro mem
    have := outside id mem
    omega
  · intro i mem
    obtain rfl | mem := List.mem_cons.mp mem
    · exact Nat.le_refl i
    · have := outside i mem
      omega

mutual

/-- **The form of what stands for a model** inside a container is that of the model, as long as it is
not nested too deeply and its integers are short. -/
theorem Stands.quotedWith {v : Value} : ∀ {n : Nat} {x : Model}, Stands h n v x →
    ∀ {fuel : Nat} {shown : List Nat}, x.depth ≤ fuel → x.isShort = true →
      (∀ i ∈ shown, n ≤ i) → v.quotedWith h fuel shown = .ok x.quoted
  | _, x, stands, 0, _, deep, _, _ => absurd deep (Nat.not_le.mpr x.depth_pos)
  | _, _, .none, fuel + 1, _, _, _, _ => rfl
  | _, _, .bool true, fuel + 1, _, _, _, _ => rfl
  | _, _, .bool false, fuel + 1, _, _, _, _ => rfl
  | _, _, .int i self, fuel + 1, _, _, short, _ => intText_of_isShort short
  | _, _, .float x self, fuel + 1, _, _, _, _ => rfl
  | _, _, .str t self, fuel + 1, _, _, _, _ => rfl
  | _, _, .safe t self, fuel + 1, _, _, _, _ => rfl
  | _, _, .bytes b self, fuel + 1, _, _, _, _ => rfl
  | _, _, .list below is parts, fuel + 1, shown, deep, short, outside => by
    obtain ⟨closed, above⟩ := notShown below outside
    have each := parts.quotedWith (Nat.le_of_succ_le_succ deep) short above
    rw [Value.quotedWith, is, closed]
    simp only [each]
    rfl
  | _, _, .tuple below is parts, fuel + 1, shown, deep, short, outside => by
    obtain ⟨closed, above⟩ := notShown below outside
    have each := parts.quotedWith (Nat.le_of_succ_le_succ deep) short above
    rw [Value.quotedWith, is, closed, Model.quoted]
    simp only [each]
    -- one part alone is followed by a comma
    cases Model.quotedItems _ with
    | nil => rfl
    | cons one several => cases several <;> rfl
  | _, _, .dict below is parts, fuel + 1, shown, deep, short, outside => by
    obtain ⟨closed, above⟩ := notShown below outside
    have each := parts.quotedWith (Nat.le_of_succ_le_succ deep) short above
    rw [Value.quotedWith, is, closed]
    simp only [each]
    rfl

theorem StandAll.quotedWith {vs : List Value} : ∀ {n : Nat} {xs : List Model}, StandAll h n vs xs →
    ∀ {fuel : Nat} {shown : List Nat}, Model.depthOfItems xs ≤ fuel → Model.areShort xs = true →
      (∀ i ∈ shown, n ≤ i) →
      vs.mapM (fun v => v.quotedWith h fuel shown) = .ok (Model.quotedItems xs)
  | _, _, .nil, _, _, _, _, _ => rfl
  | _, _, .cons head tail, _, _, deep, short, outside => by
    obtain ⟨deep, deeper⟩ := Nat.max_le.mp deep
    rw [Model.areShort, Bool.and_eq_true] at short
    rw [List.mapM_cons, head.quotedWith deep short.1 outside,
      tail.quotedWith deeper short.2 outside]
    rfl

theorem EntriesStand.quotedWith {es : List (Value × Value)} : ∀ {n : Nat} {xs : List (Text × Model)},
    EntriesStand h n es xs → ∀ {fuel : Nat} {shown : List Nat}, Model.depthOfEntries xs ≤ fuel →
      Model.entriesAreShort xs = true → (∀ i ∈ shown, n ≤ i) →
      es.mapM (fun e => do
        let k ← e.1.quotedWith h fuel shown
        let x ← e.2.quotedWith h fuel shown
        pure (k ++ ": " ++ x)) = .ok (Model.quotedEntries xs)
  | _, _, .nil, _, _, _, _, _ => rfl
  | _, _, .cons (x := x) name self head tail, 0, _, deep, _, _ => by
    have := (Nat.max_le.mp deep).1
    exact absurd this (Nat.not_le.mpr x.depth_pos)
  | _, _, .cons name self head tail, fuel + 1, shown, deep, short, outside => by
    obtain ⟨deep, deeper⟩ := Nat.max_le.mp deep
    rw [Model.entriesAreShort, Bool.and_eq_true] at short
    have key : (Value.str name self).quotedWith h (fuel + 1) shown = .ok name.quoted := rfl
    rw [List.mapM_cons, key, head.quotedWith deep short.1 outside,
      tail.quotedWith deeper short.2 outside]
    rfl

end

/-- **The text of what stands for a model** is that of the model. -/
theorem Stands.text {v : Value} {x : Model} (stands : Stands h n v x) (printable : x.Printable) :
    v.text h = .ok x.text := by
  have quoted : v.quoted h = .ok x.quoted :=
    stands.quotedWith printable.shallow printable.short fun i mem => absurd mem List.not_mem_nil
  cases stands with
  | list below is parts | tuple below is parts | dict below is parts =>
    rw [Value.text, is]
    exact quoted
  | str t self | safe t self => rfl
  | _ => exact quoted

end Template

end Stencil
