import Stencil.Proofs.Pipeline.Failures
import Stencil.Proofs.Template.Skeleton

/-!
# Running templates that have a skeleton

A template with a skeleton cannot fail and nests nothing. So all that the pipeline does to run it is to
say that it runs, and its output is what the skeleton writes for the mapping that it is given.

## Main results

- `Pipeline.stands_givenEntries` — the variables that a mapping gives stand for its entries
- `Pipeline.execute_shaped` — what running a template with a skeleton comes to
-/

namespace Stencil

open Template

namespace Pipeline

theorem StandsAt.of_rel {h : Heap} {n : Nat} {v : Option Value} {x : Option Model}
    (stands : Option.Rel (Stands h n) v x) : StandsAt h n (v.getD .missing) x := by
  cases stands with
  | none => rfl
  | some stands => exact stands

/-- A mapping gives variables that stand for its entries, each name the one it was given last. -/
theorem stands_givenEntries {model : Option Model} {entries : List (Text × Model)}
    (mapping : givenModel model = .dict entries) (m : Machine) :
    Exec.Gives (givenEntries model) m fun es m' => AllNamed es ∧ ∀ name,
      Option.Rel (Stands m'.heap m'.heap.size) ((namedEntries es).last? name)
        (Table.last? entries name) := by
  rw [givenEntries, mapping]
  refine (Value.stands_ofModel (.dict entries) m).bind fun v m₁ made => ?_
  obtain ⟨_, stands⟩ := made
  obtain ⟨id, es, rfl, is, parts⟩ : ∃ id es, v = .ref id ∧ m₁.heap.get id = .dict es ∧
      EntriesStand m₁.heap m₁.heap.size es.toList entries := by
    cases stands with
    | dict below is parts => exact ⟨_, _, rfl, is, parts.mono (Nat.le_of_lt below)⟩
  have empty : AllNamed (#[] : Entries).toList := fun _ mem => absurd mem List.not_mem_nil
  obtain ⟨es', inserted, named, put⟩ := insertAll_of_allNamed m₁.heap empty parts.allNamed
  refine Exec.Gives.bind (P := fun a m' => a = es.toList ∧ m' = m₁) ⟨_, _, entriesOf_dict standardEngine is, rfl, rfl⟩ ?_
  rintro _ m₁ ⟨rfl, rfl⟩
  refine (Exec.gives_onHeap (P := fun a m' => a = es' ∧ m' = m₁) inserted ⟨rfl, rfl⟩).bind ?_
  rintro _ m₁ ⟨rfl, rfl⟩
  refine .pure ⟨named, fun name => ?_⟩
  rw [put]
  exact Table.last?_putAll name (namedEntries es.toList) ▸ parts.last? name

/-- The variables of a template with a mapping for its model: a name that is neither the helper's nor a
function's has the value that the mapping gives it last. -/
theorem startValue_of_mapping {h : Heap} {n : Nat} {es : List (Value × Value)}
    {entries : List (Text × Model)} {name : Text} (helper : Nat)
    (stands : Option.Rel (Stands h n) ((namedEntries es).last? name) (Table.last? entries name))
    (own : (name == helperName) = false) (unknown : globals.lookup name = none) :
    StandsAt h n ((startValue? ((namedEntries es).filter (·.1 != helperName) ++
      [(helperName, .render helper)]) name).getD .missing) (Table.last? entries name) := by
  have helpers : Table.last? [(helperName, Value.render helper)] name = none := by
    rw [Table.last?, List.reverse_singleton, List.lookup_cons, own]
    rfl
  rw [startValue?, unknown, Option.or_none, Table.last?_append, helpers, Option.none_or,
    Table.last?_filter name _ fun v => by rw [bne, own]; rfl]
  exact StandsAt.of_rel stands

/-- What running a template with a skeleton comes to, without a step that waits for anything. -/
theorem execute_shaped (p : Pipeline) {v : Compiled} {program : Program} {on : Bool}
    {names : List Text} {k : Skeleton} {entries : List (Text × Model)} {es : List (Value × Value)}
    {m : Machine} (executable : p.compiler.materialize v = .ok program)
    (shaped : program.Shaped on names k) (sound : k.Sound names)
    (apart : ∀ name ∈ names, (name == helperName) = false ∧ (globals.lookup name).isNone = true)
    (printable : ∀ name ∈ names, ∀ x, Table.last? entries name = some x → x.Printable)
    (named : AllNamed es)
    (stands : ∀ name, Option.Rel (Stands m.heap m.heap.size) ((namedEntries es).last? name)
      (Table.last? entries name)) :
    ∃ s, p.execute p.room v ⟨es, [v.name]⟩ { machine := m } =
      .act (.run v) (.finish (.ok (k.write on (Table.last? entries), s))) := by
  obtain ⟨t, m', is, rfl⟩ := Program.render_of_shaped shaped sound
    (fun name mem => startValue_of_mapping 0 (stands name) (apart name mem).1
      (Option.isNone_iff_eq_none.mp (apart name mem).2))
    printable
  refine ⟨⟨m', [⟨es, [v.name]⟩]⟩, ?_⟩
  have room : p.room = (p.maxDepth.toNat + 149) + 1 := rfl
  rw [room, execute, executeWith, executable, variablesOf_of_allNamed named]
  let given : Variables := (namedEntries es).filter (·.1 != helperName) ++ [(helperName, .render 0)]
  change Routine.act _ (Routine.handle (follow _ _ (program.render given m)) _) = _
  rw [is]
  rfl

end Pipeline

end Stencil
