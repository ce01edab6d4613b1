import Stencil.Proofs.Template.Printing
import Stencil.Proofs.Template.Variables

/-!
# Skeletons

A template that only writes texts, the texts of variables with or without a default, and parts that are
shown if a variable is there and holds. Such a template cannot fail, and what it writes is a function of
the models of its variables.

## Main definitions

- `Skeleton` — templates of this kind, with their code
- `Skeleton.ofCode?` — the skeleton that a code has, if it has one
- `Skeleton.write` — what a skeleton writes for models of its variables

## Main results

- `Skeleton.code_of_ofCode` — a code that is read as a skeleton is its code
- `Skeleton.run_code` — the code of a skeleton writes what the skeleton does
- `Program.render_of_skeleton` — what a template with such a code comes to
-/

namespace Stencil

namespace Template

/-- Texts with fields in between. -/
inductive Skeleton where
  | done
  | text (t : Text) (rest : Skeleton)
  /-- The text of a variable, or a default if it is not there. -/
  | field (name : Text) (default : Option Text) (rest : Skeleton)
  /-- A part that is shown if a variable is there and holds. -/
  | guarded (name : Text) (inner rest : Skeleton)
  deriving DecidableEq

/-- A variable of the outermost frame. -/
def variableTerm (name : Text) : Term :=
  .var ⟨0, name⟩ name false

/-- A variable, or a default for it. -/
def fieldTerm (name : Text) : Option Text → Term
  | none => variableTerm name
  | some d => .filter (variableTerm name) "default" (.mk [.const (.str d)] [] false none none)

/-- A variable is there, and it holds. -/
def guardTerm (name : Text) : Term :=
  .both (.test (variableTerm name) "defined" .none) (variableTerm name)

def variableOf? : Term → Option Text
  | .var ⟨0, name⟩ shown false => if shown = name then some name else none
  | _ => none

def field? : Term → Option (Text × Option Text)
  | .filter subject filter (.mk [.const (.str d)] [] false none none) =>
    if filter = "default" then (variableOf? subject).map fun name => (name, some d) else none
  | term => (variableOf? term).map fun name => (name, none)

def guard? : Term → Option Text
  | .both (.test subject test (.mk [] [] false none none)) value =>
    if test = "defined" ∧ variableOf? subject = variableOf? value then variableOf? value else none
  | _ => none

namespace Skeleton

/-- The code of a skeleton. -/
def code (e : Escaping) : Skeleton → List Code
  | done => []
  | text t rest => .text t :: rest.code e
  | field name default rest => .output e (fieldTerm name default) :: rest.code e
  | guarded name inner rest => .branch [(guardTerm name, inner.code e)] [] :: rest.code e

/-- The skeleton that a code has, if it has one that is not larger than the fuel. -/
def ofCode? (e : Escaping) : Nat → List Code → Option Skeleton
  | 0, _ => none
  | _ + 1, [] => some done
  | fuel + 1, .text t :: rest => (ofCode? e fuel rest).map (text t)
  | fuel + 1, .output e' term :: rest =>
    if e' = e then do
      let (name, default) ← field? term
      return field name default (← ofCode? e fuel rest)
    else none
  | fuel + 1, .branch [(term, body)] [] :: rest => do
    let name ← guard? term
    return guarded name (← ofCode? e fuel body) (← ofCode? e fuel rest)
  | _ + 1, _ => none

/-- The text of a model where output is escaped or not. -/
def shown (escaping : Bool) : Model → Text
  | .safe t => t
  | x => if escaping then Markup.escape x.text else x.text

/-- What a skeleton writes for models of its variables. -/
def write (escaping : Bool) (vars : Text → Option Model) : Skeleton → Text
  | done => []
  | text t rest => t ++ rest.write escaping vars
  | field name default rest =>
    (((vars name).or (default.map .str)).map (shown escaping)).getD [] ++ rest.write escaping vars
  | guarded name inner rest =>
    (if (vars name).any Model.holds then inner.write escaping vars else []) ++
      rest.write escaping vars

/-- The variables of a skeleton. -/
def names : Skeleton → List Text
  | done => []
  | text _ rest => rest.names
  | field name _ rest => name :: rest.names
  | guarded name inner rest => name :: (inner.names ++ rest.names)

/-- Every field without a default is in a part that is shown only if its variable is there. -/
def isGuarded (there : List Text) : Skeleton → Bool
  | done => true
  | text _ rest => rest.isGuarded there
  | field name default rest => (default.isSome || there.contains name) && rest.isGuarded there
  | guarded name inner rest => inner.isGuarded (name :: there) && rest.isGuarded there

/-- How deep guarded parts are nested. -/
def height : Skeleton → Nat
  | done => 0
  | text _ rest => rest.height
  | field _ _ rest => rest.height
  | guarded _ inner rest => max (inner.height + 1) rest.height

end Skeleton

/-! ### Reading code -/

theorem variableTerm_of_variable {t : Term} {name : Text} (is : variableOf? t = some name) :
    t = variableTerm name := by
  rw [variableOf?.eq_def] at is
  split at is
  · split at is
    · next same =>
      cases is
      rw [same]
      rfl
    · cases is
  · cases is

theorem fieldTerm_of_field {t : Term} {name : Text} {default : Option Text}
    (is : field? t = some (name, default)) : t = fieldTerm name default := by
  rw [field?.eq_def] at is
  split at is
  · split at is
    · next filter =>
      obtain ⟨n, subject, is⟩ := Option.map_eq_some_iff.mp is
      cases is
      rw [variableTerm_of_variable subject, filter]
      rfl
    · cases is
  · obtain ⟨n, read, is⟩ := Option.map_eq_some_iff.mp is
    cases is
    exact variableTerm_of_variable read

theorem guardTerm_of_guard {t : Term} {name : Text} (is : guard? t = some name) :
    t = guardTerm name := by
  rw [guard?.eq_def] at is
  split at is
  · split at is
    · next same =>
      rw [variableTerm_of_variable is, variableTerm_of_variable (same.2.trans is), same.1]
      rfl
    · cases is
  · cases is

/-- **A code that is read as a skeleton** is the code of the skeleton. -/
theorem Skeleton.code_of_ofCode {e : Escaping} {fuel : Nat} {code : List Code} {k : Skeleton}
    (is : ofCode? e fuel code = some k) : code = k.code e := by
  induction fuel, code using ofCode?.induct e generalizing k with
  | case1 code => cases is
  | case2 fuel =>
    cases is
    rfl
  | case3 fuel t rest ih =>
    obtain ⟨k', read, rfl⟩ := Option.map_eq_some_iff.mp is
    rw [ih read]
    rfl
  | case4 fuel term rest ih =>
    rw [ofCode?, if_pos rfl] at is
    obtain ⟨⟨name, default⟩, field, is⟩ := Option.bind_eq_some_iff.mp is
    obtain ⟨k', read, is⟩ := Option.bind_eq_some_iff.mp is
    cases is
    rw [fieldTerm_of_field field, ih read]
    rfl
  | case5 fuel e' term rest other =>
    rw [ofCode?, if_neg other] at is
    cases is
  | case6 fuel term body rest ih ih' =>
    obtain ⟨name, guard, is⟩ := Option.bind_eq_some_iff.mp is
    obtain ⟨inner, read, is⟩ := Option.bind_eq_some_iff.mp is
    obtain ⟨k', read', is⟩ := Option.bind_eq_some_iff.mp is
    cases is
    rw [guardTerm_of_guard guard, ih read, ih' read']
    rfl
  | case7 fuel code empty text output branch =>
    rw [ofCode?] at is <;> first | assumption | cases is

/-! ### Running the code -/

/-- A computation that has come to a result goes on with it. -/
theorem Exec.bind_of_done {α β : Type} {m m' : Machine} {x : Exec α} {f : α → Exec β} {a : α}
    (done : x m = .done (.ok a) m') : (x >>= f) m = f a m' := by
  change (x m).bind f = _
  rw [done]
  rfl

/-- A computation that ends well ends well in both of its parts. -/
theorem Exec.done_of_bind {α β : Type} {x : Exec α} {f : α → Exec β} {m m' : Machine} {b : β}
    (ends : (x >>= f) m = .done (.ok b) m') :
    ∃ a m₁, x m = .done (.ok a) m₁ ∧ f a m₁ = .done (.ok b) m' := by
  change (x m).bind f = _ at ends
  cases is : x m with
  | done result m₁ =>
    rw [is] at ends
    cases result with
    | ok a => exact ⟨a, m₁, rfl, ends⟩
    | error e => cases ends
  | nested => rw [is] at ends; cases ends

theorem Exec.bind_machine {β : Type} (f : Machine → Exec β) (m : Machine) :
    (Exec.machine >>= f) m = f m m := rfl

theorem Exec.bind_update {β : Type} (change : Machine → Machine) (f : Unit → Exec β) (m : Machine) :
    (Exec.update change >>= f) m = f () (change m) := rfl

/-- What a slot holds, seen from a record. -/
def Heap.slot (h : Heap) (record : Nat) (s : Slot) : Value :=
  match h.get (ownerOf h s.level record) with
  | .record _ slots _ => ((slots.find? fun (t, _) => t == s).map (·.2)).getD .missing
  | _ => .missing

theorem readSlot_eq (record : Nat) (s : Slot) (m : Machine) :
    readSlot record s m = .done (.ok (m.heap.slot record s)) m := by
  rw [readSlot, Exec.bind_of_done (x := Exec.machine) rfl, Heap.slot]
  cases m.heap.get (ownerOf m.heap s.level record) <;> rfl

/-- What stands for a model is there. -/
theorem Stands.present {h : Heap} {n : Nat} {v : Value} {x : Model} (stands : Stands h n v x) :
    v ≠ .missing ∧ ∀ strict message self, v ≠ .undefined strict message self := by
  constructor
  · rintro rfl
    cases stands
  · rintro strict message self rfl
    cases stands

/-- A variable of the outermost frame stands for a model, or there is none. -/
def Reads (h : Heap) (record : Nat) (name : Text) : Option Model → Prop
  | none => h.slot record ⟨0, name⟩ = .missing
  | some x => Stands h h.size (h.slot record ⟨0, name⟩) x

section Terms

variable {s : Scope} {name : Text} {m : Machine} (n : Nat)

/-- A variable is what its slot holds, or an undefined value if that is nothing. -/
theorem eval_variable : (engine (n + 1)).eval s (variableTerm name) m =
    .done (.ok (match m.heap.slot s.record ⟨0, name⟩ with
      | .missing => .undefined m.strict (name.quoted ++ " is undefined")
      | v => v)) m := by
  change (evalTerm (engine n) s (variableTerm name)) m = _
  rw [variableTerm, evalTerm, Exec.bind_of_done (readSlot_eq _ _ _)]
  cases m.heap.slot s.record ⟨0, name⟩ <;> rfl

theorem eval_variable_of_present {x : Model} (reads : Reads m.heap s.record name (some x)) :
    (engine (n + 1)).eval s (variableTerm name) m =
      .done (.ok (m.heap.slot s.record ⟨0, name⟩)) m := by
  rw [eval_variable]
  rw [Reads] at reads
  cases is : m.heap.slot s.record ⟨0, name⟩ <;> first | rfl | exact absurd is reads.present.1

theorem eval_variable_of_absent (reads : Reads m.heap s.record name none) :
    (engine (n + 1)).eval s (variableTerm name) m =
      .done (.ok (.undefined m.strict (name.quoted ++ " is undefined"))) m := by
  rw [Reads] at reads
  rw [eval_variable, reads]

/-- The filter that puts a default in place of a value that is not there. -/
theorem filter_default (v d : Value) : (engine (n + 1)).filter "default" v { positional := [d] } =
    Filter.orDefault v d (.bool false) := by
  have name : Text.toName (Text.ofString "default") = "default" := by decide +kernel
  have known : Filter.ofName? (engine n) (lookingAhead? (engine n)) "default" v
      { positional := [d] } = some (Filter.orDefault v d (.bool false)) := by
    simp only [Filter.ofName?, Filter.ofText?, Filter.ofNumber?, Filter.ofSequence?, Filter.ofUrl?]
    rfl
  simp only [engine, name, known]

/-- The test whether a value is there. -/
theorem test_defined (v : Value) : (engine (n + 1)).test "defined" v {} =
    pure (.bool (match v with | .undefined .. => false | _ => true)) := by
  have name : Text.toName (Text.ofString "defined") = "defined" := by decide +kernel
  have known : Test.ofName? (engine n) Filter.names "defined" v {} (membership (engine n)) =
      some (pure (.bool (match v with | .undefined .. => false | _ => true))) := rfl
  simp only [engine, name, known]

/-- **The value of a field** stands for the model of its variable, or for the default. -/
theorem eval_field {x : Model} {default : Option Text} {found : Option Model}
    (reads : Reads m.heap s.record name found) (is : found.or (default.map .str) = some x) :
    ∃ v, (engine (n + 2)).eval s (fieldTerm name default) m = .done (.ok v) m ∧
      Stands m.heap m.heap.size v x := by
  have given : ∀ function d, evalArgs (engine (n + 1)) s function
      (.mk [.const (.str d)] [] false none none) [] m =
        .done (.ok { positional := [.str d .constant] }) m := fun _ _ => rfl
  cases found with
  | none =>
    cases default with
    | none => cases is
    | some d =>
      cases is
      refine ⟨.str d .constant, ?_, .str d .constant⟩
      change (evalTerm (engine (n + 1)) s (fieldTerm name (some d))) m = _
      rw [fieldTerm, evalTerm, Exec.bind_of_done (eval_variable_of_absent n reads)]
      rw [Exec.bind_of_done (given _ d), filter_default]
      rfl
  | some y =>
    obtain rfl : y = x := Option.some.inj is
    refine ⟨_, ?_, reads⟩
    cases default with
    | none => exact eval_variable_of_present (n + 1) reads
    | some d =>
      change (evalTerm (engine (n + 1)) s (fieldTerm name (some d))) m = _
      rw [fieldTerm, evalTerm, Exec.bind_of_done (eval_variable_of_present n reads)]
      rw [Exec.bind_of_done (given _ d), filter_default]
      rw [Reads] at reads
      cases is : m.heap.slot s.record ⟨0, name⟩ <;> first | rfl | exact absurd is (reads.present.2 _ _ _)

/-- **The value of a guard** holds if there is a model for the variable that does. -/
theorem eval_guard {found : Option Model} (reads : Reads m.heap s.record name found) :
    ∃ v, (engine (n + 3)).eval s (guardTerm name) m = .done (.ok v) m ∧
      v.truth m.heap = .ok (found.any Model.holds) := by
  have tested : ∀ v, (engine (n + 1)).eval s (variableTerm name) m = .done (.ok v) m →
      (engine (n + 2)).eval s (.test (variableTerm name) "defined" .none) m =
        .done (.ok (.bool (match v with | .undefined .. => false | _ => true))) m := by
    intro v is
    change (evalTerm (engine (n + 1)) s (.test (variableTerm name) "defined" .none)) m = _
    have given : ∀ function, evalArgs (engine (n + 1)) s function .none [] m =
      .done (.ok {}) m := fun _ => rfl
    rw [evalTerm, Exec.bind_of_done is, Exec.bind_of_done (given _), test_defined]
    rfl
  cases found with
  | none =>
    refine ⟨.bool false, ?_, rfl⟩
    change (evalTerm (engine (n + 2)) s (guardTerm name)) m = _
    rw [guardTerm, evalTerm, Exec.bind_of_done (tested _ (eval_variable_of_absent n reads))]
    rfl
  | some x =>
    refine ⟨_, ?_, reads.truth⟩
    change (evalTerm (engine (n + 2)) s (guardTerm name)) m = _
    rw [guardTerm, evalTerm, Exec.bind_of_done (tested _ (eval_variable_of_present n reads))]
    rw [Reads] at reads
    have there : (match m.heap.slot s.record ⟨0, name⟩ with
        | .undefined .. => false
        | _ => true) = true := by
      cases is : m.heap.slot s.record ⟨0, name⟩ <;>
        first | rfl | exact absurd is (reads.present.2 _ _ _)
    rw [there, Exec.bind_of_done (x := Exec.truth (.bool true)) rfl]
    exact eval_variable_of_present (n + 1) reads

/-- The text of a value as output. -/
def written (escaping : Bool) (v : Value) : Exec Text :=
  if escaping then SafeMethod.escaped v else Exec.text v

theorem written_of_stands {h : Nat} {v : Value} {x : Model} (escaping : Bool)
    (stands : Stands m.heap h v x) (printable : x.Printable) :
    written escaping v m = .done (.ok (Skeleton.shown escaping x)) m := by
  have text : Exec.text v m = .done (.ok x.text) m := by rw [Exec.text, stands.text printable]
  cases escaping with
  | false =>
    refine text.trans ?_
    cases x <;> rfl
  | true =>
    -- a safe text is written as it is, and it stands for no other model
    have escaped : ∀ x : Model, SafeMethod.escaped v = (do
        pure (Markup.escape (← Exec.text v))) →
        (Exec.text v m = .done (.ok x.text) m) →
        SafeMethod.escaped v m = .done (.ok (Markup.escape x.text)) m := by
      intro x is text
      rw [is, Exec.bind_of_done text]
      rfl
    cases stands with
    | safe t self => rfl
    | _ => exact escaped _ rfl text

end Terms

namespace Exec

variable {m : Machine}

/-- A computation only writes a text. -/
def Writes (x : Exec Unit) (m : Machine) (t : Text) : Prop :=
  ∃ pieces : List Text, pieces.flatten = t ∧
    x m = .done (.ok ()) { m with output := (pieces.map Piece.text).reverse ++ m.output }

theorem writes_nothing : Writes (pure ()) m [] :=
  ⟨[], rfl, rfl⟩

theorem writes_emit (t : Text) : Writes (emit (.text t)) m t :=
  ⟨[t], by simp, rfl⟩

/-- What is written first stands first. -/
theorem Writes.andThen {x y : Exec Unit} {t u : Text} (first : Writes x m t)
    (second : ∀ m', m'.heap = m.heap → m'.strict = m.strict → Writes y m' u) :
    Writes (do x; y) m (t ++ u) := by
  obtain ⟨pieces, rfl, is⟩ := first
  obtain ⟨more, rfl, is'⟩ := second { m with output := (pieces.map Piece.text).reverse ++ m.output }
    rfl rfl
  refine ⟨pieces ++ more, List.flatten_append, ?_⟩
  rw [bind_of_done is, is']
  simp

/-- A computation that has come to a result without a trace goes on with it. -/
theorem Writes.afterResult {α : Type} {x : Exec α} {f : α → Exec Unit} {a : α} {t : Text}
    (done : x m = .done (.ok a) m) (next : Writes (f a) m t) : Writes (x >>= f) m t := by
  obtain ⟨pieces, flat, is⟩ := next
  exact ⟨pieces, flat, (bind_of_done done).trans is⟩

end Exec

namespace Skeleton

variable {s : Scope} {vars : Text → Option Model}

/-- How output is escaped all over a template. -/
def escaping (on : Bool) : Escaping :=
  if on then .on else .off

/-- The output of a value. -/
theorem writes_output {m : Machine} {n : Nat} {term : Term} {v : Value} {x : Model} (on : Bool)
    (is : (engine n).eval s term m = .done (.ok v) m) (stands : Stands m.heap m.heap.size v x)
    (printable : x.Printable) :
    Exec.Writes (runCode (engine n) s (.output (escaping on) term)) m (shown on x) := by
  have text := written_of_stands on stands printable
  rw [runCode]
  refine .afterResult is ?_
  cases on with
  | true => exact .afterResult (a := true) rfl (.afterResult text (Exec.writes_emit _))
  | false => exact .afterResult (a := false) rfl (.afterResult text (Exec.writes_emit _))

/-- **The code of a skeleton** writes what the skeleton does, whatever models its variables have. -/
theorem run_code (on : Bool) (k : Skeleton) : ∀ {n : Nat} {m : Machine} {there : List Text},
    k.height + 4 ≤ n → (∀ name ∈ k.names, Reads m.heap s.record name (vars name)) →
    (∀ name ∈ k.names, ∀ x, vars name = some x → x.Printable) →
    k.isGuarded there = true → (∀ name ∈ there, (vars name).isSome = true) →
    Exec.Writes ((engine n).run s (k.code (escaping on))) m (k.write on vars) := by
  induction k with
  | done =>
    intro n m there deep _ _ _ _
    obtain ⟨n, rfl⟩ : ∃ n', n = n' + 1 := ⟨n - 1, by omega⟩
    exact Exec.writes_nothing
  | text t rest ih =>
    intro n m there deep reads printable guarded known
    obtain ⟨n', rfl⟩ : ∃ n', n = n' + 1 := ⟨n - 1, by omega⟩
    refine (Exec.writes_emit t).andThen fun m' heap _ => ?_
    exact ih deep (heap ▸ reads) printable guarded known
  | field name default rest ih =>
    intro n m there deep reads printable guarded known
    obtain ⟨n', rfl⟩ : ∃ n', n = n' + 3 := ⟨n - 3, by omega⟩
    rw [isGuarded, Bool.and_eq_true, Bool.or_eq_true] at guarded
    obtain ⟨safe, guarded⟩ := guarded
    -- there is something to show: the variable, or else the default
    obtain ⟨x, is, printable'⟩ :
        ∃ x, (vars name).or (default.map .str) = some x ∧ x.Printable := by
      cases found : vars name with
      | some x => exact ⟨x, rfl, printable name List.mem_cons_self x found⟩
      | none =>
        obtain given | mem := safe
        · obtain ⟨d, rfl⟩ := Option.isSome_iff_exists.mp given
          exact ⟨.str d, rfl, Model.printable_str d⟩
        · have := known name (List.contains_iff_mem.mp mem)
          rw [found] at this
          cases this
    obtain ⟨v, value, stands⟩ := eval_field n' (reads name List.mem_cons_self) is
    have shown : (((vars name).or (default.map .str)).map (shown on)).getD [] = shown on x := by
      rw [is]
      rfl
    rw [write, shown]
    refine (writes_output on value stands printable').andThen fun m' heap _ => ?_
    exact ih (n := n' + 3) deep (fun name mem => heap ▸ reads name (List.mem_cons_of_mem _ mem))
      (fun name mem => printable name (List.mem_cons_of_mem _ mem)) guarded known
  | guarded name inner rest ih ih' =>
    intro n m there deep reads printable guarded known
    obtain ⟨n', rfl⟩ : ∃ n', n = n' + 4 := ⟨n - 4, by omega⟩
    rw [isGuarded, Bool.and_eq_true] at guarded
    rw [height] at deep
    have inside : ∀ n ∈ inner.names, n ∈ (Skeleton.guarded name inner rest).names :=
      fun n mem => List.mem_cons_of_mem _ (List.mem_append_left _ mem)
    have behind : ∀ n ∈ rest.names, n ∈ (Skeleton.guarded name inner rest).names :=
      fun n mem => List.mem_cons_of_mem _ (List.mem_append_right _ mem)
    obtain ⟨v, value, truth⟩ := eval_guard n' (reads name List.mem_cons_self)
    have judged : Exec.truth v m = .done (.ok ((vars name).any Model.holds)) m := by
      rw [Exec.truth, truth]
    refine Exec.Writes.andThen (x := runCode (engine (n' + 3)) s _) ?_ fun m' heap _ => ?_
    · rw [runCode, runBranch]
      refine .afterResult value (.afterResult judged ?_)
      cases holds : (vars name).any Model.holds with
      | true =>
        refine ih (n := n' + 3) (by omega) (fun name mem => reads name (inside name mem))
          (fun name mem => printable name (inside name mem)) guarded.1 fun other mem => ?_
        -- what holds is there
        obtain rfl | mem := List.mem_cons.mp mem
        · cases found : vars other with
          | some x => rfl
          | none => rw [found] at holds; cases holds
        · exact known other mem
      | false => exact Exec.writes_nothing
    · exact ih' (n := n' + 4) (by omega) (fun name mem => heap ▸ reads name (behind name mem))
        (fun name mem => printable name (behind name mem)) guarded.2 known

end Skeleton

/-! ### The outermost frame -/

theorem Heap.get_set_self {h : Heap} {id : Nat} (inside : id < h.size) (o : Object) :
    Heap.get (h.setIfInBounds id o) id = o := by
  simp [Heap.get, Array.getD, inside]

theorem Heap.get_set_other {h : Heap} {id other : Nat} (apart : other ≠ id) (o : Object) :
    Heap.get (h.setIfInBounds id o) other = h.get other := by
  simp only [Heap.get, Array.getD_eq_getD_getElem?]
  rw [Array.getElem?_setIfInBounds_ne (Ne.symm apart)]

section Record

variable {h : Heap} {record : Nat} {slots : Array (Slot × Value)}

/-- A record without another one around it holds all slots itself. -/
theorem ownerOf_outermost (is : h.get record = .record 0 slots none) (level : Nat) :
    ownerOf h level record = record := by
  rw [ownerOf, is]

theorem Heap.slot_outermost (is : h.get record = .record 0 slots none) (slot : Slot) :
    h.slot record slot = (slots.toList.lookup slot).getD .missing := by
  rw [Heap.slot, ownerOf_outermost is, is, ← Table.find?_key]

/-- Writing a slot puts the value, as it is held from now on, among the slots of the record. -/
theorem writeSlot_outermost (is : h.get record = .record 0 slots none) (slot : Slot) (v : Value)
    {m : Machine} (heap : m.heap = h) :
    Exec.Gives (writeSlot record slot v) m fun _ m' => ∃ w slots',
      m'.heap = h.setIfInBounds record (.record 0 slots' none) ∧
      slots'.toList = Table.put slots.toList slot w ∧ v.Kept w := by
  refine (Exec.keep_stands v m).bind fun w m₁ kept => ?_
  obtain ⟨heap', keeps⟩ := kept
  have now : m₁.heap.get (ownerOf m₁.heap slot.level record) = .record 0 slots none := by
    rw [heap', heap, ownerOf_outermost is, is]
  have set := Table.toList_setAt slot w slots
  generalize replaced : (Array.findIdx? _ slots) = n at set
  refine ⟨(), { m₁ with heap := h.setIfInBounds record (.record 0 _ none) }, ?_, w, _, rfl, set, keeps⟩
  rw [Exec.bind_of_done (x := Exec.machine) rfl, now, heap', heap, ownerOf_outermost is, ← replaced]
  exact congrArg (fun h : Heap => Step.done (.ok ()) { m₁ with
    heap := h.setIfInBounds record (.record 0 _ none) }) (heap'.trans heap)

end Record

/-! ### Entering the frame -/

/-- The variable of a name in a context that has made none itself. -/
theorem resolve_of_given {context : Nat} {m : Machine} {title : Text} {vars : Array (Text × Value)}
    {blocks : List Block} (is : m.heap.get context = .context title vars #[] blocks) (name : Text) :
    resolve context name m = .done (.ok ((vars.toList.lookup name).getD .missing)) m := by
  have fetched : Exec.fetch context m = .done (.ok (.context title vars #[] blocks)) m := by
    rw [Exec.fetch]
    exact congrArg (fun o => Step.done (.ok o) m) is
  rw [resolve, Exec.bind_of_done fetched, ← Table.find?_key]
  rfl

/-- The loads of a frame whose slots are the variables of the same names. -/
def nameLoads (names : List Text) : Loads :=
  names.map fun name => (⟨0, name⟩, .resolve name)

/-- A value that is there or not, and stands for a model if there is one. -/
def StandsAt (h : Heap) (n : Nat) (v : Value) : Option Model → Prop
  | none => v = .missing
  | some x => Stands h n v x

/-- A record of its own and the context of a template, above the objects of a model. -/
structure Outermost (n : Nat) (s : Scope) (look : Text → Option Value) (h : Heap) : Prop where
  record : ∃ slots, h.get s.record = .record 0 slots none
  context : ∃ title vars blocks, h.get s.context = .context title vars #[] blocks ∧
    ∀ name, vars.toList.lookup name = look name
  inside : s.record < h.size
  apart : s.context ≠ s.record
  above : n ≤ s.record

theorem StandsAt.frame {h h' : Heap} {n : Nat} {v : Value} {found : Option Model}
    (stands : StandsAt h n v found) (agree : ∀ id < n, h'.get id = h.get id) :
    StandsAt h' n v found := by
  cases found with
  | none => exact stands
  | some x => exact Stands.frame stands agree

theorem StandsAt.reads {h : Heap} {n record : Nat} {name : Text} {found : Option Model}
    (stands : StandsAt h n (h.slot record ⟨0, name⟩) found) (le : n ≤ h.size) :
    Reads h record name found := by
  cases found with
  | none => exact stands
  | some x => exact Stands.mono stands le

theorem StandsAt.keep {h : Heap} {n : Nat} {v w : Value} {found : Option Model}
    (stands : StandsAt h n v found) (kept : v.Kept w) : StandsAt h n w found := by
  cases found with
  | none => exact kept.missing stands
  | some x => exact kept.stands stands

namespace Outermost

variable {n : Nat} {s : Scope} {look : Text → Option Value} {vars : Text → Option Model} {m : Machine}

/-- One slot gets what the variable of its name is, and the others keep what they hold. -/
theorem load (frame : Outermost n s look m.heap) (name : Text) :
    Exec.Gives (do writeSlot s.record ⟨0, name⟩ (← resolve s.context name)) m fun _ m' =>
      Outermost n s look m'.heap ∧ (∀ id < n, m'.heap.get id = m.heap.get id) ∧
      (((look name).getD .missing).Kept (m'.heap.slot s.record ⟨0, name⟩)) ∧
      ∀ other, other ≠ name →
        m'.heap.slot s.record ⟨0, other⟩ = m.heap.slot s.record ⟨0, other⟩ := by
  obtain ⟨slots, record⟩ := frame.record
  obtain ⟨title, table, blocks, context, looks⟩ := frame.context
  have value : resolve s.context name m = .done (.ok ((look name).getD .missing)) m := by
    rw [resolve_of_given context, looks]
  rw [Exec.Gives, Exec.bind_of_done value]
  refine Exec.Gives.mono (writeSlot_outermost record ⟨0, name⟩ _ rfl) fun _ m' wrote => ?_
  obtain ⟨w, slots', heap, put, kept⟩ := wrote
  have record' : m'.heap.get s.record = .record 0 slots' none := by
    rw [heap, Heap.get_set_self frame.inside]
  have others : ∀ id, id ≠ s.record → m'.heap.get id = m.heap.get id := by
    intro id apart
    rw [heap, Heap.get_set_other apart]
  refine ⟨⟨⟨slots', record'⟩, ⟨title, table, blocks, ?_, looks⟩, ?_, frame.apart, frame.above⟩,
    fun id below => others id ?_, ?_, fun other away => ?_⟩
  · rw [others _ frame.apart, context]
  · rw [heap, Array.size_setIfInBounds]
    exact frame.inside
  · have := frame.above
    omega
  · rw [Heap.slot_outermost record', put, Table.lookup_put, if_pos rfl]
    exact kept
  · rw [Heap.slot_outermost record', Heap.slot_outermost record, put, Table.lookup_put, if_neg]
    intro same
    exact away (congrArg Slot.name same)

end Outermost

/-- What entering a frame does with a slot that is loaded. -/
def loadSlot (s : Scope) (e : Slot × Load) : Exec Unit :=
  match e.2 with
  | .parameter | .undefined => pure ()
  | .resolve name => do writeSlot s.record e.1 (← resolve s.context name)
  | .alias other => do writeSlot s.record e.1 (← readSlot s.record other)

/-- **The slots of a frame** get what the variables of their names are. -/
theorem load_names {n : Nat} {s : Scope} {look : Text → Option Value}
    {vars : Text → Option Model} (names : List Text) :
    ∀ {m : Machine} (before : List Text), Outermost n s look m.heap →
      (∀ name ∈ names, StandsAt m.heap n ((look name).getD .missing) (vars name)) →
      (∀ name ∈ before, StandsAt m.heap n (m.heap.slot s.record ⟨0, name⟩) (vars name)) →
      Exec.Gives (Exec.forAll (loadSlot s) (nameLoads names)) m fun _ m' =>
        Outermost n s look m'.heap ∧ ∀ name ∈ before ++ names,
          StandsAt m'.heap n (m'.heap.slot s.record ⟨0, name⟩) (vars name) := by
  induction names with
  | nil =>
    intro m before frame _ done
    exact .pure ⟨frame, by simpa using done⟩
  | cons name names ih =>
    intro m before frame given done
    refine (frame.load name).bind fun _ m₁ loaded => ?_
    obtain ⟨frame', agree, kept, others⟩ := loaded
    have here : StandsAt m₁.heap n (m₁.heap.slot s.record ⟨0, name⟩) (vars name) :=
      ((given name List.mem_cons_self).frame agree).keep kept
    refine (ih (before ++ [name]) frame'
      (fun other mem => (given other (List.mem_cons_of_mem _ mem)).frame agree) fun other mem => ?_).mono
      fun _ m₂ loaded => ⟨loaded.1, by simpa using loaded.2⟩
    by_cases same : other = name
    · rw [same]
      exact here
    · rw [others other same]
      refine (done other ?_).frame agree
      simpa [same] using mem

/-- **Entering the frame** of a template whose slots are the variables of the same names. -/
theorem enterFrame_names {n : Nat} {s : Scope} {look : Text → Option Value}
    {vars : Text → Option Model} (names : List Text) {m : Machine}
    (frame : Outermost n s look m.heap)
    (given : ∀ name ∈ names, StandsAt m.heap n ((look name).getD .missing) (vars name)) :
    Exec.Gives (enterFrame s (nameLoads names)) m fun _ m' => n ≤ m'.heap.size ∧
      ∀ name ∈ names, StandsAt m'.heap n (m'.heap.slot s.record ⟨0, name⟩) (vars name) := by
  refine (load_names names [] frame given fun _ mem => absurd mem List.not_mem_nil).bind
    fun _ m₁ loaded => ?_
  obtain ⟨frame', loaded⟩ := loaded
  have none : ∀ names : List Text, Exec.forAll (fun e : Slot × Load =>
      if e.2 = .undefined then writeSlot s.record e.1 .missing else pure ()) (nameLoads names) m₁ =
        .done (.ok ()) m₁ := by
    intro names
    induction names with
    | nil => rfl
    | cons name names ih => exact ih
  have := frame'.above
  have := frame'.inside
  exact ⟨(), m₁, none names, by omega, loaded⟩

/-! ### The output of a template -/

/-- The pieces of a text are joined to it. -/
theorem joinPieces_texts (pieces : List Text) (m : Machine) :
    joinPieces (pieces.map Piece.text) m = .done (.ok pieces.flatten) m := by
  have go : ∀ (pieces : List Text) (n : Nat),
      joinPieces.go n (pieces.map Piece.text) m = .done (.ok pieces.flatten) m := by
    intro pieces
    induction pieces with
    | nil => exact fun n => rfl
    | cons t pieces ih =>
      intro n
      rw [List.map_cons, joinPieces.go, Exec.bind_of_done (ih (n + 1))]
      rfl
  exact go pieces 0

/-- Capturing what a computation only writes gives that text. -/
theorem capture_of_writes {x : Exec Unit} {m : Machine} {t : Text}
    (writes : ∀ m', m'.heap = m.heap → Exec.Writes x m' t) :
    Exec.Gives (capture x) m fun u _ => u = t := by
  obtain ⟨pieces, rfl, is⟩ := writes { m with output := [] } rfl
  refine ⟨pieces.flatten, { m with output := m.output }, ?_, rfl⟩
  rw [capture, Exec.bind_machine, Exec.bind_update, Exec.bind_of_done is, Exec.bind_machine]
  simp only [List.append_nil, List.reverse_reverse, Exec.bind_update]
  exact joinPieces_texts pieces _

/-- A program whose code is that of a skeleton, with the variables of some names for its slots. -/
structure Program.Shaped (p : Program) (on : Bool) (names : List Text) (k : Skeleton) : Prop where
  selfSlot : p.selfSlot = none
  loads : p.loads = nameLoads names
  body : p.body = k.code (Skeleton.escaping on)

/-- A skeleton in which nothing can go wrong: its variables are among the names, fields without a default
are guarded, and its parts are not nested too deeply. -/
structure Skeleton.Sound (k : Skeleton) (names : List Text) : Prop where
  within : ∀ name ∈ k.names, name ∈ names
  guarded : k.isGuarded [] = true
  low : k.height + 4 ≤ depthLimit

/-- The variables that a template starts with: those that it is given, and the functions that every
template can call. -/
def startValue? (given : Variables) (name : Text) : Option Value :=
  (given.last? name).or (globals.lookup name)

/-- **The output of a program that has a skeleton** is what the skeleton writes for the models of its
variables, whether undefined values are strict or not. -/
theorem Program.render_of_shaped {p : Program} {on : Bool} {names : List Text} {k : Skeleton}
    (shaped : p.Shaped on names k) (sound : k.Sound names) {given : Variables} {m : Machine}
    {vars : Text → Option Model}
    (stands : ∀ name ∈ names,
      StandsAt m.heap m.heap.size ((startValue? given name).getD .missing) (vars name))
    (printable : ∀ name ∈ names, ∀ x, vars name = some x → x.Printable) :
    Exec.Gives (p.render given) m fun t _ => t = k.write on vars := by
  let known := given.foldl (fun vars e => putVariable vars e.1 e.2) globals.toArray
  let h := m.heap.push (.context p.name known #[] p.blocks)
  let s : Scope := { record := h.size, context := m.heap.size }
  let m₁ : Machine := { m with
    heap := h.push (.record 0 #[] none), autoescape := .bool p.autoescape, strict := p.strict }
  have looks : ∀ name, known.toList.lookup name = startValue? given name := by
    intro name
    rw [toList_putVariables, Table.lookup_putAll]
    rfl
  have old : m.heap.Extends m₁.heap := (Heap.Extends.push m.heap _).trans (Heap.Extends.push h _)
  have frame : Outermost m.heap.size s (startValue? given) m₁.heap := by
    refine ⟨⟨#[], Heap.get_push h _⟩, ⟨p.name, known, p.blocks, ?_, looks⟩, ?_, ?_, ?_⟩
    · have context := (Heap.Extends.push h (.record 0 #[] none)).agrees m.heap.size (by simp [h])
      exact context.trans (Heap.get_push m.heap _)
    · simp [m₁, s, h]
    · simp [s, h]
    · simp [s, h]
  have entered := enterFrame_names names frame fun name mem => (stands name mem).frame old.agrees
  rw [Program.render]
  refine Exec.Gives.bind (P := fun a m' => a = m.heap.size ∧ m' = { m with heap := h })
    ⟨_, _, rfl, rfl, rfl⟩ ?_
  rintro _ _ ⟨rfl, rfl⟩
  refine Exec.Gives.bind (P := fun a m' => a = h.size ∧
    m' = { m with heap := h.push (.record 0 #[] none) }) ⟨_, _, rfl, rfl, rfl⟩ ?_
  rintro _ _ ⟨rfl, rfl⟩
  rw [Exec.Gives, Exec.bind_machine, Exec.bind_update, shaped.selfSlot, shaped.loads, shaped.body]
  change Exec.Gives (enterFrame s (nameLoads names) >>= _) m₁ _
  refine entered.bind fun _ m₂ ready => ?_
  obtain ⟨room, ready⟩ := ready
  have writes : ∀ m', m'.heap = m₂.heap → Exec.Writes
      (standardEngine.run s (k.code (Skeleton.escaping on))) m' (k.write on vars) := by
    intro m' heap
    refine k.run_code on sound.low (fun name mem => ?_)
      (fun name mem => printable name (sound.within name mem)) sound.guarded
      fun _ mem => absurd mem List.not_mem_nil
    rw [heap]
    exact (ready name (sound.within name mem)).reads room
  exact (capture_of_writes writes).bind fun t m₃ written => ⟨_, _, rfl, written⟩

end Template

end Stencil
