import Stencil.Proofs.Pipeline.Resolving
import Stencil.Proofs.Pipeline.Shaped

/-!
# What nested templates inherit

A template that is nested starts with the entries of the model that it is given, or else with those of the
template whose helper was called, overridden by the values of the call. Each template has a helper of its
own, which knows the entries that the template started with, and no call changes the helpers that were given
before. So what a template sets for itself is seen by no other one, and neither is what a call overrides.

## Main definitions

- `Pipeline.Helper.StartsFrom` — what a template starts with
- `Pipeline.Grants` — the entries that the model of a call starts from
- `Pipeline.Visit.ComesOf` — an execution begins with the model of a call
- `Pipeline.Lineage` — executions that come of each other

## Main results

- `Pipeline.grants_of_nestedModel` — the model of a call
- `Pipeline.Executes.roots`, `Pipeline.Renders.lineage` — whole requests
- `Pipeline.models_isolated`

## Design notes

Helpers are known by their numbers, which count the executions from the beginning of the request. So a helper
stays what it is if the list of them only grows at its end.

Dictionaries are shared. One that is the model of a call is asked for its entries and stays as it is, but a
template that is handed a dictionary as a value can change it, and then a later call that has it for a model
starts from what it has become.
-/

namespace Stencil

open Template

namespace Pipeline

/-! ### What a template starts with -/

/-- The template that this helper is given to starts with the entries of `base`, overridden by `values`, and
with the helper, by its number, under its own name. It cannot start if a key is no text. -/
structure Helper.StartsFrom (own : Helper) (base : List (Value × Value)) (values : Variables) : Prop where
  ready : ∀ number, (∃ vars, variablesOf own.model number = .ok vars) ↔ AllNamed base
  starts : ∀ number vars, variablesOf own.model number = .ok vars → ∀ name, Table.last? vars name =
    if name = helperName then some (.render number)
    else (values.last? name).or ((namedEntries base).last? name)

theorem namedEntries_values (values : Variables) :
    AllNamed (values.map fun (n, v) => (.str n, v)) ∧
      namedEntries (values.map fun (n, v) => (.str n, v)) = values := by
  constructor
  · intro e mem
    obtain ⟨_, _, rfl⟩ := List.mem_map.mp mem
    rfl
  · rw [namedEntries, List.filterMap_map]
    exact List.filterMap_some

/-- **Entries that are set one after the other** are what a template starts with. -/
theorem startsFrom_of_insertAll {h h' : Heap} {base : List (Value × Value)} {values : Variables}
    {es es' : Entries} (chain : List Text) (first : Entries.insertAll h #[] base = .ok es)
    (second : es.insertAll h' (values.map fun (n, v) => (.str n, v)) = .ok es') :
    Helper.StartsFrom ⟨es'.toList, chain⟩ base values := by
  have empty : AllNamed (#[] : Entries).toList := fun _ mem => absurd mem List.not_mem_nil
  obtain ⟨texts, same⟩ := namedEntries_values values
  -- the entries stay texts, and then they are set as variables are
  have kept (named : AllNamed base) : AllNamed es'.toList ∧
      namedEntries es'.toList = (Table.putAll [] (namedEntries base)).putAll values := by
    obtain ⟨_, is, named₁, put₁⟩ := insertAll_of_allNamed h empty named
    obtain rfl := Except.ok.inj (is.symm.trans first)
    obtain ⟨_, is, named₂, put₂⟩ := insertAll_of_allNamed h' named₁ texts
    obtain rfl := Except.ok.inj (is.symm.trans second)
    rw [put₂, put₁, same]
    exact ⟨named₂, rfl⟩
  have before (named : AllNamed es'.toList) : AllNamed base :=
    (allNamed_of_insertAll first (allNamed_of_insertAll second named).1).2
  refine ⟨fun number => ⟨?_, ?_⟩, fun number vars given name => ?_⟩
  · rintro ⟨vars, given⟩
    exact before (allNamed_of_variablesOf given)
  · intro named
    exact ⟨_, variablesOf_of_allNamed (kept named).1 number⟩
  · rw [last?_of_variablesOf given, (kept (before (allNamed_of_variablesOf given))).2]
    have joined : (Table.putAll [] (namedEntries base)).putAll values =
        Table.putAll [] (namedEntries base ++ values) := List.foldl_append.symm
    rw [joined, Table.last?_putAll, Table.last?_append]

theorem startsFrom_self (entries : List (Value × Value)) (chain : List Text) :
    Helper.StartsFrom ⟨entries, chain⟩ entries [] where
  ready number :=
    ⟨fun ⟨_, given⟩ => allNamed_of_variablesOf given, fun named => ⟨_, variablesOf_of_allNamed named number⟩⟩
  starts _ _ given := last?_of_variablesOf given

/-! ### The model of a call -/

theorem done_of_onMachine {α : Type} {x : Exec α} {m m' : Machine} {a : α}
    (is : onMachine x m = pure (a, m')) : x m = .done (.ok a) m' := by
  rw [onMachine] at is
  split at is
  · next done =>
    obtain ⟨rfl, rfl⟩ := Prod.mk.inj (Except.ok.inj (Routine.finish.inj is))
    exact done
  · cases is
  · cases is

/-- The entries that the model of a call starts from, before the values override them. -/
structure Grants (helper : Helper) (call : HelperCall) (m : Machine) (base : List (Value × Value))
    (m' : Machine) : Prop where
  /-- Without a model, they are those of the template that the helper was given to. -/
  inherited : call.model = .none → base = helper.model ∧ m' = m
  /-- A dictionary gives its own, and it stays as it is. -/
  dictionary : ∀ id es, call.model = .ref id → m.heap.get id = .dict es → base = es.toList ∧ m' = m
  converted : call.model ≠ .none → entriesOf standardEngine call.model m = .done (.ok base) m'

/-- The given model is asked for its entries, or else they are those of the helper. -/
def offered (helper : Helper) (call : HelperCall) : Exec (List (Value × Value)) :=
  match call.model with
  | .none => pure helper.model
  | v => entriesOf standardEngine v

/-- Entries are set in a dictionary of their own, and then the values are. -/
def overridden (values : Variables) (base : List (Value × Value)) : Exec (List (Value × Value)) := do
  let es ← Exec.onHeap fun h => Entries.insertAll h #[] base
  let es ← Exec.onHeap fun h => Entries.insertAll h es (values.map fun (n, v) => (.str n, v))
  pure es.toList

theorem nestedModel_eq (helper : Helper) (call : HelperCall) :
    nestedModel helper.model call = offered helper call >>= overridden call.values := by
  obtain ⟨_, _, model, _⟩ := call
  cases model <;> rfl

theorem grants_of_offered {helper : Helper} {call : HelperCall} {m m' : Machine}
    {base : List (Value × Value)} (is : offered helper call m = .done (.ok base) m') :
    Grants helper call m base m' := by
  rw [offered] at is
  refine ⟨fun none => ?_, fun id es model dict => ?_, fun given => ?_⟩
  · rw [none] at is
    obtain ⟨same, rfl⟩ := Step.done.inj is
    exact ⟨(Except.ok.inj same).symm, rfl⟩
  · rw [model] at is
    obtain ⟨same, rfl⟩ := Step.done.inj ((entriesOf_dict standardEngine dict).symm.trans is)
    exact ⟨(Except.ok.inj same).symm, rfl⟩
  · cases model : call.model with
    | none => exact absurd model given
    | _ =>
      rw [model] at is
      exact is

/-- **The model of a call** is made of the entries that it starts from. This changes nothing else. -/
theorem grants_of_nestedModel {helper : Helper} {call : HelperCall} {m m' : Machine}
    {entries : List (Value × Value)} (chain : List Text)
    (given : onMachine (nestedModel helper.model call) m = pure (entries, m')) :
    ∃ base, Grants helper call m base m' ∧ Helper.StartsFrom ⟨entries, chain⟩ base call.values := by
  have made := done_of_onMachine given
  rw [nestedModel_eq] at made
  obtain ⟨base, m₁, is, made⟩ := Exec.done_of_bind made
  obtain ⟨es, m₂, first, made⟩ := Exec.done_of_bind made
  obtain ⟨es', m₃, second, made⟩ := Exec.done_of_bind made
  obtain ⟨set, rfl⟩ := Step.done.inj first
  obtain ⟨overrides, rfl⟩ := Step.done.inj second
  obtain ⟨same, rfl⟩ := Step.done.inj made
  obtain rfl := Except.ok.inj same
  exact ⟨base, grants_of_offered is, startsFrom_of_insertAll chain set overrides⟩

/-! ### Executions and the helpers that they know -/

/-- An execution that begins with these helpers comes of a call: it begins with the model of the call. -/
def Visit.ComesOf (p : Pipeline) (helpers : List Helper) (call : Helper × HelperCall) (x : Visit) : Prop :=
  ∃ m base m', Grants call.1 call.2 m base m' ∧ x.own.StartsFrom base call.2.values ∧
    ∃ room visits log o, p.Executes room x.level x.template x.own ⟨m', helpers⟩ (x :: visits) log o

/-- A call by the number of a helper that is known goes to this helper. -/
def Visit.Heeds (known : List Helper) (x : Visit) : Prop :=
  ∀ call ∈ x.calls, ∀ helper, known[call.2.helper]? = some helper → call.1 = helper

/-- Executions that begin one after the other. Each comes of a call of an earlier one, unless it is given,
and the helpers that the earlier ones were given stay what they are. -/
def Lineage (p : Pipeline) (given : List Helper → Visit → Prop) (before : List Helper) : List Visit → Prop
  | [] => True
  | x :: rest => given before x ∧ x.Heeds (before ++ [x.own]) ∧
    p.Lineage (fun before y => given before y ∨ ∃ call ∈ x.calls, y.ComesOf p before call)
      (before ++ [x.own]) rest

namespace Lineage

variable {p : Pipeline} {given given' : List Helper → Visit → Prop} {before : List Helper}
  {visits visits' : List Visit}

theorem mono (lineage : p.Lineage given before visits)
    (weaker : ∀ before x, given before x → given' before x) : p.Lineage given' before visits := by
  induction visits generalizing given given' before with
  | nil => trivial
  | cons x rest ih =>
    obtain ⟨is, heeds, lineage⟩ := lineage
    exact ⟨weaker _ _ is, heeds, ih lineage fun before y => Or.imp_left (weaker before y)⟩

theorem append (lineage : p.Lineage given before visits)
    (lineage' : p.Lineage given (before ++ visits.map Visit.own) visits') :
    p.Lineage given before (visits ++ visits') := by
  induction visits generalizing given before with
  | nil =>
    rw [List.map_nil, List.append_nil] at lineage'
    exact lineage'
  | cons x rest ih =>
    obtain ⟨is, heeds, lineage⟩ := lineage
    refine ⟨is, heeds, ih lineage ?_⟩
    rw [List.append_assoc]
    exact lineage'.mono fun _ _ => .inl

/-- What is said of an execution by those before it. -/
theorem of_split {earlier later : List Visit} {x : Visit}
    (lineage : p.Lineage given before (earlier ++ x :: later)) :
    (given (before ++ earlier.map Visit.own) x ∨
      ∃ y ∈ earlier, ∃ call ∈ y.calls, x.ComesOf p (before ++ earlier.map Visit.own) call) ∧
    x.Heeds (before ++ (earlier ++ [x]).map Visit.own) := by
  induction earlier generalizing given before with
  | nil =>
    obtain ⟨is, heeds, _⟩ := lineage
    rw [List.map_nil, List.append_nil]
    exact ⟨.inl is, heeds⟩
  | cons y earlier ih =>
    obtain ⟨_, _, lineage⟩ := lineage
    obtain ⟨origin, heeds⟩ := ih lineage
    rw [List.append_assoc] at origin heeds
    refine ⟨?_, heeds⟩
    obtain (is | ⟨call, mem, comes⟩) | ⟨z, mem, call, calls, comes⟩ := origin
    · exact .inl is
    · exact .inr ⟨y, List.mem_cons_self, call, mem, comes⟩
    · exact .inr ⟨z, List.mem_cons_of_mem y mem, call, calls, comes⟩

end Lineage

variable {p : Pipeline} {template : Text} {helper own : Helper} {call : HelperCall} {s : Stage}
  {visits : List Visit} {log : List Entry} {level : Nat}

/-- The helpers that are known where something ends well are those that were known before, and those that
its executions were given. -/
def Leaves {α : Type} (helpers : List Helper) (visits : List Visit) (o : Except Origin (α × Stage)) : Prop :=
  ∀ a s, o = .ok (a, s) → s.helpers = helpers ++ visits.map Visit.own

/-- **What a call does**: it executes nothing and fails, or it executes the template that is asked for, on
the machine as it was except for what it takes to ask the model for its entries. -/
theorem Calls.runs {runs : Compiled → Helper → Stage → Description Text} {o : Except Origin (Value × Stage)}
    (calls : p.Calls runs template helper call s visits log o) :
    (visits = [] ∧ ∃ e, o = .error e) ∨
    ∃ v own base m log' o', Grants helper call s.machine base m ∧ own.StartsFrom base call.values ∧
      runs v own ⟨m, s.helpers⟩ visits log' o' ∧ o = o'.map fun (t, s) => (.safe t, s) := by
  cases calls with
  | refused | nameless | unresolved | unmodelled => exact .inl ⟨rfl, _, rfl⟩
  | @ran xs v m entries m' _ log o shallow course given run =>
    -- to resolve a name does not touch the machine
    have untouched : m = s.machine := by
      obtain ⟨_, _, r, _, _, _, is⟩ | ⟨_, _, _, is, _⟩ := course_resolveValue course
      · cases r with
        | error f => cases is
        | ok w => exact (Prod.mk.inj (Except.ok.inj is)).2
      · cases is
    subst untouched
    let chain := helper.chain ++ [call.name.asText?.getD []]
    obtain ⟨base, grants, starts⟩ := grants_of_nestedModel chain given
    exact .inr ⟨v, _, base, m', log, o, grants, starts, run, rfl⟩

/-- An execution begins with these helpers, and the others come of its calls. -/
def Visit.Roots (p : Pipeline) (x : Visit) (helpers : List Helper) (visits : List Visit) : Prop :=
  ∃ rest, visits = x :: rest ∧ x.Heeds (helpers ++ [x.own]) ∧
    p.Lineage (fun before y => ∃ call ∈ x.calls, y.ComesOf p before call) (helpers ++ [x.own]) rest

theorem Visit.Roots.lineage {x : Visit} {helpers : List Helper}
    {given : List Helper → Visit → Prop} (roots : x.Roots p helpers visits) (is : given helpers x) :
    p.Lineage given helpers visits := by
  obtain ⟨rest, rfl, heeds, lineage⟩ := roots
  exact ⟨is, heeds, lineage.mono fun _ _ => .inr⟩

theorem Calls.lineage {room : Nat} {o : Except Origin (Value × Stage)}
    (calls : p.Calls (p.Executes room level) template helper call s visits log o)
    (inner : ∀ {v own s visits log o}, p.Executes room level v own s visits log o →
      (∃ calls failure, Visit.Roots p ⟨level, v, own, calls, failure⟩ s.helpers visits) ∧
        Leaves s.helpers visits o) :
    p.Lineage (fun before y => y.ComesOf p before (helper, call)) s.helpers visits ∧
      Leaves s.helpers visits o := by
  obtain ⟨rfl, e, rfl⟩ | ⟨v, own, base, m, log', o', grants, starts, runs, rfl⟩ := calls.runs
  · exact ⟨trivial, nofun⟩
  · obtain ⟨⟨calls, failure, roots⟩, leaves⟩ := inner runs
    refine ⟨roots.lineage ?_, fun a s' is => ?_⟩
    · obtain ⟨rest, rfl, _⟩ := roots
      exact ⟨s.machine, base, m, grants, starts, room, rest, log', o', runs⟩
    · cases o' with
      | error e => cases is
      | ok r =>
        obtain ⟨t, s''⟩ := r
        obtain ⟨_, rfl⟩ := Prod.mk.inj (Except.ok.inj is)
        exact leaves t s'' rfl

/-- What comes of a computation comes of its calls. -/
theorem Follows.lineage {answers : HelperCall → Stage → Description Value} {α : Type}
    {helpers : List Helper} {x : Step α} {o : Except Origin (α × Stage)}
    {calls : List (Helper × HelperCall)}
    (follows : Follows answers level template own helpers x calls visits log o)
    (inner : ∀ call s visits log o, answers call s visits log o →
      p.Lineage (fun before y => y.ComesOf p before (s.helpers.getD call.helper default, call))
        s.helpers visits ∧ Leaves s.helpers visits o) :
    p.Lineage (fun before y => ∃ call ∈ calls, y.ComesOf p before call) helpers visits ∧
      Leaves helpers visits o ∧
      ∀ call ∈ calls, ∀ helper, helpers[call.2.helper]? = some helper → call.1 = helper := by
  have goes {helpers : List Helper} {call : HelperCall} {helper : Helper}
      (known : helpers[call.helper]? = some helper) : helpers.getD call.helper default = helper := by
    rw [List.getD_eq_getElem?_getD, known]
    rfl
  induction follows with
  | done =>
    refine ⟨trivial, fun a s is => ?_, nofun⟩
    obtain ⟨_, rfl⟩ := Prod.mk.inj (Except.ok.inj is)
    exact (List.append_nil _).symm
  | raised => exact ⟨trivial, nofun, nofun⟩
  | failed answer =>
    obtain ⟨lineage, _⟩ := inner _ _ _ _ _ answer
    refine ⟨lineage.mono fun _ _ comes => ⟨_, List.mem_cons_self, comes⟩, nofun,
      fun call mem helper known => ?_⟩
    obtain rfl := List.mem_singleton.mp mem
    exact goes known
  | @answered helpers call m resume visits log v s calls visits' log' o answer rest ih =>
    obtain ⟨first, leaves⟩ := inner _ _ _ _ _ answer
    obtain ⟨second, leaves', heeds⟩ := ih
    have grown : s.helpers = helpers ++ visits.map Visit.own := leaves v s rfl
    rw [grown] at second leaves' heeds
    refine ⟨?_, fun a s is => ?_, fun call' mem helper known => ?_⟩
    · exact (first.mono fun _ _ comes => ⟨_, List.mem_cons_self, comes⟩).append
        (second.mono fun _ _ ⟨call, mem, comes⟩ => ⟨call, List.mem_cons_of_mem _ mem, comes⟩)
    · rw [leaves' a s is, List.map_append, List.append_assoc]
    · obtain rfl | mem := List.mem_cons.mp mem
      · exact goes known
      · have below := (List.getElem?_eq_some_iff.mp known).1
        exact heeds call' mem helper (List.getElem?_append_left below ▸ known)

/-- **The executions that come of an execution** are those of its calls, of their calls, and so on. -/
theorem Executes.roots {room : Nat} {v : Compiled} {o : Except Origin (Text × Stage)}
    (executes : p.Executes room level v own s visits log o) :
    (∃ calls failure, Visit.Roots p ⟨level, v, own, calls, failure⟩ s.helpers visits) ∧
      Leaves s.helpers visits o := by
  induction room generalizing level v own s visits log o with
  | zero =>
    obtain ⟨rfl, rfl, rfl⟩ := executes
    exact ⟨⟨_, _, [], rfl, nofun, trivial⟩, nofun⟩
  | succ room ih =>
    cases executes with
    | unready => exact ⟨⟨_, _, [], rfl, nofun, trivial⟩, nofun⟩
    | ran ready follows =>
      obtain ⟨lineage, leaves, heeds⟩ := follows.lineage fun _ _ _ _ _ calls => calls.lineage ih
      refine ⟨⟨_, _, _, rfl, heeds, lineage⟩, fun t s' is => ?_⟩
      rw [leaves t s' is, List.append_assoc]
      rfl

/-! ### Requests -/



/-- An execution begins with the model of a request. What a mapping gives stands for its entries. -/
def Visit.BeginsWith (p : Pipeline) (model : Option Model) (x : Visit) : Prop :=
  x.own.StartsFrom x.own.model [] ∧
    ∃ m, onMachine (givenEntries model) { strict := p.compiler.strictUndefined } = pure (x.own.model, m) ∧
      ∀ entries, givenModel model = .dict entries → ∀ name, Option.Rel (Stands m.heap m.heap.size)
        ((namedEntries x.own.model).last? name) (Table.last? entries name)

theorem beginsWith_of_given {model : Option Model} {entries : List (Value × Value)} {m : Machine} {x : Visit}
    (given : onMachine (givenEntries model) { strict := p.compiler.strictUndefined } = pure (entries, m))
    (is : x.own.model = entries) : x.BeginsWith p model := by
  subst is
  refine ⟨startsFrom_self x.own.model x.own.chain, m, given, fun entries mapping name => ?_⟩
  obtain ⟨es, m', done, _, stands⟩ := stands_givenEntries mapping { strict := p.compiler.strictUndefined }
  obtain ⟨same, rfl⟩ := Step.done.inj (done.symm.trans (done_of_onMachine given))
  obtain rfl := Except.ok.inj same
  exact stands name

/-- **The executions of a request** come of the first one. -/
theorem Renders.lineage {name : Text} {model : Option Model} {o : Except Origin Bytes}
    (renders : p.Renders name model visits log o) :
    p.Lineage (fun before x => before = [] ∧ x.BeginsWith p model) [] visits := by
  cases renders with
  | unresolved | unmodelled => trivial
  | failed _ given executes | ended _ given executes =>
    obtain ⟨⟨_, _, roots⟩, _⟩ := executes.roots
    exact roots.lineage ⟨rfl, beginsWith_of_given given rfl⟩

/-! ### Isolation -/

/-- Keywords that the helper has no parameters for are values. -/
theorem filter_of_apart {values : Variables} (apart : ∀ e ∈ values, e.1 ≠ "name" ∧ e.1 ≠ "model") :
    values.filter (fun (n, _) => (["name", "model"] : List Text).contains n) = [] ∧
      values.filter (fun (n, _) => !(["name", "model"] : List Text).contains n) = values := by
  constructor
  · simpa using apart
  · simpa using apart

/-- A call of a helper with a name and maybe a model by position, whose keywords are values. -/
theorem callRender_positional (number : Nat) (name : Value) (model : Option Value) {values : Variables}
    (apart : ∀ e ∈ values, e.1 ≠ "name" ∧ e.1 ≠ "model") :
    callRender number ⟨name :: model.toList, values⟩ =
      Exec.askRender ⟨number, name, model.getD .none, values⟩ := by
  obtain ⟨none, all⟩ := filter_of_apart apart
  rw [callRender]
  simp only [none, all]
  cases model <;> rfl

/-- The same call, with the model by its name. -/
theorem callRender_named (number : Nat) (name model : Value) {values values' : Variables}
    (apart : ∀ e ∈ values ++ values', e.1 ≠ "name" ∧ e.1 ≠ "model") :
    callRender number ⟨[name], values ++ (("model" : Text), model) :: values'⟩ =
      Exec.askRender ⟨number, name, model, values ++ values'⟩ := by
  obtain ⟨none, all⟩ := filter_of_apart fun e mem => apart e (List.mem_append_left values' mem)
  obtain ⟨none', all'⟩ := filter_of_apart fun e mem => apart e (List.mem_append_right values mem)
  rw [callRender]
  simp only [List.filter_append, List.filter_cons, none, none', all, all']
  rfl

/-- **The models of nested templates are inherited, overridden and isolated**, however deep they are nested.
Every course of a request is described by its executions. The first one begins with the model of the request,
and each other one comes of a call of an earlier one: it starts with the entries of the model that the call
gives, or else with those of the template whose helper is called, overridden by the values of the call, and
with its own helper under the helper's name. A call by the number of a helper goes to the execution of that
number, so all helpers stay what they are, with the entries that they know. A call either executes nothing and
fails, or executes its template on the machine as it was, unless its model is converted; so it changes no
dictionary of its own accord. -/
theorem models_isolated (p : Pipeline) (name : Text) (model : Option Model) :
    (∀ xs r, (p.renderFile name model).Course xs r →
      ∃ visits log o, p.Renders name model visits log o ∧ exchanges log = xs ∧
        r = o.mapError (Origin.failure p)) ∧
    (∀ visits log o, p.Renders name model visits log o →
      ∀ earlier x later, visits = earlier ++ x :: later →
        ((earlier = [] ∧ x.BeginsWith p model) ∨
          ∃ y ∈ earlier, ∃ call ∈ y.calls, x.ComesOf p (earlier.map Visit.own) call) ∧
        ∀ call ∈ x.calls, ∀ y, (earlier ++ [x])[call.2.helper]? = some y → call.1 = y.own) ∧
    (∀ room level template helper call s visits log o,
      p.Calls (p.Executes room level) template helper call s visits log o →
        (visits = [] ∧ ∃ e, o = .error e) ∨
        ∃ v own base m log' o', Grants helper call s.machine base m ∧ own.StartsFrom base call.values ∧
          p.Executes room level v own ⟨m, s.helpers⟩ visits log' o' ∧
          (o = o'.map fun (t, s) => (.safe t, s)) ∧ Leaves s.helpers visits o) ∧
    ∀ (number : Nat) (asked given : Value) (values : Variables),
      (∀ e ∈ values, e.1 ≠ "name" ∧ e.1 ≠ "model") →
        callRender number ⟨[asked], values⟩ = Exec.askRender ⟨number, asked, .none, values⟩ ∧
        callRender number ⟨[asked, given], values⟩ = Exec.askRender ⟨number, asked, given, values⟩ ∧
        callRender number ⟨[asked], (("model" : Text), given) :: values⟩ =
          Exec.askRender ⟨number, asked, given, values⟩ := by
  refine ⟨fun xs r => renders_of_course, fun visits log o renders earlier x later is => ?_,
    fun room level template helper call s visits log o calls => ?_,
    fun number asked given values apart => ?_⟩
  · subst is
    obtain ⟨origin, heeds⟩ := renders.lineage.of_split
    refine ⟨origin.imp_left fun ⟨first, begins⟩ => ⟨List.map_eq_nil_iff.mp first, begins⟩,
      fun call mem y known => heeds call mem y.own ?_⟩
    rw [List.nil_append, List.getElem?_map, known]
    rfl
  · have leaves := (calls.lineage Executes.roots).2
    obtain fails | ⟨v, own, base, m, log', o', grants, starts, runs, is⟩ := calls.runs
    · exact .inl fails
    · exact .inr ⟨v, own, base, m, log', o', grants, starts, runs, is, leaves⟩
  · exact ⟨callRender_positional number asked none apart,
      callRender_positional number asked (some given) apart,
      @callRender_named number asked given [] _ apart⟩

/-- A template changes a dictionary that it is handed, between two calls that have it for their model. So they
do not start with the same variables. -/
theorem sibling_model_changed :
    let p : Pipeline := { templateDir := "t" }
    let m : MemoryStorage := { files := [
      ("t/outer", ("\x7b% set d = \x7b'a': 0\x7d %\x7d\x7b\x7b render('y', d) \x7d\x7d" ++
        "\x7b\x7b render('x', d=d) \x7d\x7d\x7b\x7b render('y', d) \x7d\x7d" : Text).map UInt8.ofNat),
      ("t/x", ("\x7b\x7b d.update(\x7b'k': 1\x7d) \x7d\x7d" : Text).map UInt8.ofNat),
      ("t/y", ("\x7b\x7b k is defined \x7d\x7d" : Text).map UInt8.ofNat)] }
    ((Session.start (.create [(p, 10)] none (.memory m))).render 0 (.file "outer" none)).1 =
      some (.ok (("FalseNoneTrue" : Text).map UInt8.ofNat)) := by
  decide +kernel

end Pipeline

end Stencil
