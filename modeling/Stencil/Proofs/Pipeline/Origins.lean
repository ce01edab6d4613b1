import Stencil.Proofs.Pipeline.Resolving

/-!
# Which template a failure names

When a request fails that has begun to execute templates, all executions that are under way fail with one
origin. It arises in the innermost of them: this cannot be executed, or it asks for a template that cannot
be resolved or that would be too deep. So it does not matter how deep this is.

## Main definitions

- `Pipeline.Textual` — a pipeline whose one encoding is for texts
- `Pipeline.Arises` — where a failure comes from in an execution
- `Pipeline.Settled` — what executions fail with

## Main results

- `Pipeline.Renders.settled`
-/

namespace Stencil

open Template

namespace Pipeline

/-- A pipeline with one encoding for sources and outputs, which settings accept and which is for texts. -/
structure Textual (p : Pipeline) : Prop where
  coded : p.Coded
  text : Encoding.isText p.encoding = true

/-- A failure arises in the execution of a template, which is about to make its last call. -/
def Arises (p : Pipeline) (seen : Contents → Prop) (template : Text)
    (last : Option (Helper × HelperCall)) : Origin → Prop
  | .executing name f => name = template ∧ f.kind.isTemplate = false ∧ f.kind ≠ .cancelled
  | .resolving helper name f =>
    (∃ call, last = some (helper, call) ∧ call.name.asText? = some name) ∧ p.Unresolved seen name f ∧
      (f.kind.isStorage ∨ f.kind = .compile)
  | .nesting helper name =>
    (∃ call, last = some (helper, call) ∧ call.name.asText? = some name) ∧
      p.maxDepth ≤ helper.chain.length
  | .other f => f.kind = .cancelled

/-- All executions that fail do so with one origin, and it arises in the innermost of them. -/
def Innermost (p : Pipeline) (seen : Contents → Prop) (visits : List Visit) (e : Origin) : Prop :=
  ∃ x ∈ visits, x.failure = some e ∧ p.Arises seen x.template.name x.calls.getLast? e ∧
    ∀ y ∈ visits, ∀ e', y.failure = some e' → e' = e ∧ y.level ≤ x.level

/-- Executions from a level on, which are known by the names that they were asked for by. They fail with
one origin, unless this arises `here`, before any of them is under way. -/
structure Settled (p : Pipeline) (seen : Contents → Prop) (level : Nat) (here : Origin → Prop)
    (visits : List Visit) (failure : Option Origin) : Prop where
  deeper : ∀ x ∈ visits, level ≤ x.level
  named : ∀ x ∈ visits, x.own.chain.getLast? = some x.template.name
  succeeded : failure = none → ∀ x ∈ visits, x.failure = none
  failed : ∀ e, failure = some e →
    p.Innermost seen visits e ∨ (∀ x ∈ visits, x.failure = none) ∧ here e

section

variable {p : Pipeline} {seen : Contents → Prop}

/-! ### Origins that arise -/

theorem arises_of (template : Text) (last : Option (Helper × HelperCall)) {f : Failure}
    (foreign : f.kind.isTemplate = false) : p.Arises seen template last (.of template f) := by
  rw [Origin.of]
  split
  · next own => exact own.resolve_left fun family => Bool.false_ne_true (foreign.symm.trans family)
  · next other => exact ⟨rfl, foreign, fun cancelled => other (.inr cancelled)⟩

/-- What arises with a call arises with a later one, if that is the same. -/
theorem Arises.later {template : Text} {last last' : Option (Helper × HelperCall)} {e : Origin}
    (arises : p.Arises seen template last e) (same : ∀ x, last = some x → last' = some x) :
    p.Arises seen template last' e := by
  cases e with
  | executing | other => exact arises
  | resolving | nesting =>
    obtain ⟨⟨call, is, named⟩, rest⟩ := arises
    exact ⟨⟨call, same _ is, named⟩, rest⟩

theorem foreign_of_ready {v : Compiled} {own : Helper} {s : Stage} {f : Failure}
    (unready : p.ready v own s = .error f) : f.kind.isTemplate = false := by
  obtain fails | ⟨_, _, fails⟩ := error_of_bind unready
  · exact Kind.isTemplate_of_isForeign (Compiler.foreign_of_materialize fails)
  · obtain fails | ⟨_, _, fails⟩ := error_of_bind fails
    · exact Kind.isTemplate_of_isForeign (foreign_of_variablesOf fails)
    · cases fails

/-- A value that is no name is refused as such. -/
theorem foreign_of_refuseCall {α : Type} {helper : Helper} {call : HelperCall} {m : Machine} {f : Failure}
    (none : call.name.asText? = none) (fails : p.refuseCall (α := α) helper call m = .fail f) :
    f.kind.isTemplate = false := by
  rw [refuseCall, chainText, none] at fails
  obtain rfl := Except.error.inj (Routine.finish.inj fails)
  exact Kind.isTemplate_of_isForeign (typeFailure _).foreign

variable (textual : p.Textual)
  (storage : ∀ c, seen c → ∀ path f, c path = .error f → f.kind.isStorage = true)

include textual storage

theorem kind_of_unresolved {name : Text} {f : Failure} (unresolved : p.Unresolved seen name f) :
    f.kind.isStorage ∨ f.kind = .compile := by
  obtain ⟨c, path, met, _, fails⟩ := unresolved
  cases read : c path with
  | error g =>
    rw [read] at fails
    obtain rfl := Except.error.inj fails
    exact .inl (storage c met path g read)
  | ok b =>
    rw [read] at fails
    have accepted : Encoding.Accepted p.compiler.encoding := textual.coded.same ▸ textual.coded.accepted
    obtain ⟨v, is⟩ | ⟨g, is, kind⟩ | ⟨other, _⟩ := Compiler.compile_cases accepted name b
    · cases is.symm.trans fails
    · obtain rfl := Except.error.inj (is.symm.trans fails)
      exact .inr kind
    · rw [textual.coded.same, textual.text] at other
      cases other

/-- The origin of a failure to resolve a nested name arises with the call. -/
theorem arises_ofNested {xs : List (Exchange Compiled)} {helper : Helper} {call : HelperCall} {m : Machine}
    {f : Failure} (course : (p.resolveValue call.name m).Course xs (.error f))
    (told : ∀ x ∈ xs, p.Told seen x) (template : Text) :
    p.Arises seen template (some (helper, call))
      (.ofNested template helper (call.name.asText?.getD []) f) := by
  have foreign (other : f.kind.isTemplate = false) :
      p.Arises seen template (some (helper, call))
        (.ofNested template helper (call.name.asText?.getD []) f) := by
    rw [Origin.ofNested, if_neg ?_]
    · exact arises_of template _ other
    · rintro (kind | kind)
      · exact Bool.false_ne_true (other.symm.trans (Kind.isTemplate_of_isStorage kind))
      · rw [kind] at other
        cases other
  obtain ⟨name, path, r, named, known, course, is⟩ | ⟨_, _, g, is, other⟩ := course_resolveValue course
  · cases r with
    | ok v => cases is
    | error g =>
      obtain rfl := Except.error.inj is
      obtain cancelled | unresolved := (resolved_of_told course known told).2 f rfl
      · exact foreign (by rw [cancelled]; rfl)
      · have kind := kind_of_unresolved textual storage unresolved
        rw [Origin.ofNested, if_pos kind, named]
        exact ⟨⟨call, rfl, named⟩, unresolved, kind⟩
  · obtain rfl := Except.error.inj is
    exact foreign (Kind.isTemplate_of_isForeign other)

/-! ### What executions fail with -/

variable {level : Nat} {template : Text} {own helper : Helper} {visits : List Visit}
  {log : List Entry} {call : HelperCall} {s : Stage}

omit textual storage in
theorem settled_nil {here : Origin → Prop} {failure : Option Origin}
    (arises : ∀ e, failure = some e → here e) : p.Settled seen level here [] failure where
  deeper _ mem := by cases mem
  named _ mem := by cases mem
  succeeded _ _ mem := by cases mem
  failed e is := .inr ⟨fun _ => nofun, arises e is⟩

/-- What a call comes to. -/
theorem Calls.settled {runs : Compiled → Helper → Stage → Description Text}
    {o : Except Origin (Value × Stage)} (calls : p.Calls runs template helper call s visits log o)
    (told : ∀ x ∈ exchanges log, p.Told seen x)
    (inner : ∀ v own s visits log o, runs v own s visits log o → (∀ x ∈ exchanges log, p.Told seen x) →
      own.chain.getLast? = some v.name → p.Settled seen level (fun _ => False) visits (failureOf o)) :
    p.Settled seen level (p.Arises seen template (some (helper, call))) visits (failureOf o) := by
  cases calls with
  | refused deep named =>
    refine settled_nil fun e is => ?_
    obtain rfl := Option.some.inj is
    exact ⟨⟨call, rfl, named⟩, deep⟩
  | nameless deep none fails =>
    refine settled_nil fun e is => ?_
    obtain rfl := Option.some.inj is
    exact arises_of template _ (foreign_of_refuseCall none fails)
  | unresolved _ course =>
    refine settled_nil fun e is => ?_
    obtain rfl := Option.some.inj is
    rw [exchanges_did] at told
    exact arises_ofNested textual storage course told template
  | unmodelled _ _ fails =>
    refine settled_nil fun e is => ?_
    obtain rfl := Option.some.inj is
    exact arises_of template _ (Kind.isTemplate_of_isForeign (foreign_of_onMachine fails))
  | @ran xs v m entries m' visits log o _ course given run =>
    simp only [exchanges_append, exchanges_did, List.mem_append, or_imp, forall_and] at told
    have named : v.name = call.name.asText?.getD [] := by
      obtain ⟨name, path, r, is, known, resolves, same⟩ | ⟨_, _, _, is, _⟩ := course_resolveValue course
      · cases r with
        | error f => cases same
        | ok w =>
          obtain ⟨rfl, rfl⟩ := Prod.mk.inj (Except.ok.inj same)
          rw [is]
          exact (resolved_of_told resolves known told.1).1 v rfl
      · cases is
    have settled := inner v _ _ visits log o run told.2 (by rw [List.getLast?_concat, named])
    refine ⟨settled.deeper, settled.named, fun is => settled.succeeded ?_, fun e is => .inl ?_⟩
    · cases o with
      | ok x => rfl
      | error e => cases is
    · have is : failureOf o = some e := by
        cases o with
        | ok x => cases is
        | error e => exact is
      exact (settled.failed e is).resolve_right fun never => never.2

omit textual storage in
theorem Settled.append {here here' : Origin → Prop} {visits' : List Visit} {failure : Option Origin}
    (first : p.Settled seen level here visits none) (second : p.Settled seen level here' visits' failure) :
    p.Settled seen level here' (visits ++ visits') failure where
  deeper x mem := (List.mem_append.mp mem).elim (first.deeper x) (second.deeper x)
  named x mem := (List.mem_append.mp mem).elim (first.named x) (second.named x)
  succeeded is x mem := (List.mem_append.mp mem).elim (first.succeeded rfl x) (second.succeeded is x)
  failed e is := by
    obtain ⟨x, mem, fails, arises, all⟩ | ⟨none, is⟩ := second.failed e is
    · refine .inl ⟨x, List.mem_append_right _ mem, fails, arises, fun y mem e' fails' => ?_⟩
      obtain mem | mem := List.mem_append.mp mem
      · rw [first.succeeded rfl y mem] at fails'
        cases fails'
      · exact all y mem e' fails'
    · exact .inr ⟨fun x mem => (List.mem_append.mp mem).elim (first.succeeded rfl x) (none x), is⟩

omit textual storage in
theorem Settled.mono {here here' : Origin → Prop} {failure : Option Origin}
    (settled : p.Settled seen level here visits failure) (weaker : ∀ e, here e → here' e) :
    p.Settled seen level here' visits failure :=
  { settled with failed := fun e is => (settled.failed e is).imp_right (And.imp_right (weaker e)) }

omit textual storage in
/-- The rule for an execution, from what its computation comes to. -/
theorem Settled.visited {v : Compiled} {calls : List (Helper × HelperCall)} {failure : Option Origin}
    (settled : p.Settled seen (level + 1) (p.Arises seen v.name calls.getLast?) visits failure)
    (named : own.chain.getLast? = some v.name) :
    p.Settled seen level (fun _ => False) (⟨level, v, own, calls, failure⟩ :: visits) failure where
  deeper x mem := by
    obtain rfl | mem := List.mem_cons.mp mem
    · exact Nat.le_refl level
    · exact Nat.le_of_succ_le (settled.deeper x mem)
  named x mem := by
    obtain rfl | mem := List.mem_cons.mp mem
    · exact named
    · exact settled.named x mem
  succeeded is x mem := by
    obtain rfl | mem := List.mem_cons.mp mem
    · exact is
    · exact settled.succeeded is x mem
  failed e is := by
    subst is
    obtain ⟨x, mem, fails, arises, all⟩ | ⟨none, arises⟩ := settled.failed e rfl
    · refine .inl ⟨x, List.mem_cons_of_mem _ mem, fails, arises, fun y mem' e' fails' => ?_⟩
      obtain rfl | mem' := List.mem_cons.mp mem'
      · exact ⟨(Option.some.inj fails').symm, Nat.le_of_succ_le (settled.deeper x mem)⟩
      · exact all y mem' e' fails'
    · refine .inl ⟨_, List.mem_cons_self, rfl, arises, fun y mem e' fails' => ?_⟩
      obtain rfl | mem := List.mem_cons.mp mem
      · exact ⟨(Option.some.inj fails').symm, Nat.le_refl level⟩
      · rw [none y mem] at fails'
        cases fails'

omit textual storage in
/-- What a computation comes to if its calls do. -/
theorem Follows.settled {answers : HelperCall → Stage → Description Value} {α : Type}
    {helpers : List Helper} {x : Step α} {o : Except Origin (α × Stage)}
    {calls : List (Helper × HelperCall)}
    (follows : Follows answers level template own helpers x calls visits log o)
    (told : ∀ x ∈ exchanges log, p.Told seen x)
    (inner : ∀ call s visits log o, answers call s visits log o → (∀ x ∈ exchanges log, p.Told seen x) →
      p.Settled seen (level + 1)
        (p.Arises seen template (some (s.helpers.getD call.helper default, call))) visits (failureOf o)) :
    p.Settled seen (level + 1) (p.Arises seen template calls.getLast?) visits (failureOf o) := by
  induction follows with
  | done => exact settled_nil fun _ is => by cases is
  | @raised _ r _ =>
    refine settled_nil fun e is => ?_
    obtain rfl := Option.some.inj is
    exact arises_of template _ (Kind.isTemplate_of_isForeign r.foreign)
  | failed answer => exact inner _ _ _ _ _ answer told
  | @answered helpers call m resume visits log v s calls visits' log' o answer rest ih =>
    simp only [exchanges_called, exchanges_append, List.mem_append, or_imp, forall_and] at told
    have first := inner _ _ _ _ _ answer told.1
    refine first.append ((ih told.2).mono fun e arises => arises.later fun x is => ?_)
    rw [List.getLast?_cons, is, Option.getD_some]

/-- **What executions fail with** arises in the innermost of them. -/
theorem Executes.settled {room : Nat} {v : Compiled} {o : Except Origin (Text × Stage)}
    (executes : p.Executes room level v own s visits log o) (told : ∀ x ∈ exchanges log, p.Told seen x)
    (named : own.chain.getLast? = some v.name) :
    p.Settled seen level (fun _ => False) visits (failureOf o) := by
  induction room generalizing level v own s visits log o with
  | zero =>
    obtain ⟨rfl, rfl, rfl⟩ := executes
    refine .visited (settled_nil fun e is => ?_) named
    obtain rfl := Option.some.inj is
    exact arises_of v.name _ (Eq.refl false)
  | succ room ih =>
    cases executes with
    | unready unready =>
      refine .visited (settled_nil fun e is => ?_) named
      obtain rfl := Option.some.inj is
      exact arises_of v.name _ (foreign_of_ready unready)
    | ran ready follows =>
      have told := fun x mem => told x (List.mem_cons_of_mem _ mem)
      refine .visited (follows.settled told fun call s visits log o calls told => ?_) named
      exact calls.settled textual storage told fun v own s visits log o run told named =>
        ih run told named

/-- **What a request fails with.** The requested name does not resolve, or the output cannot be encoded, or
a failure arises in the innermost execution. -/
theorem Renders.settled {name : Text} {model : Option Model} {entries : List (Text × Model)} {e : Origin}
    (mapping : givenModel model = .dict entries) (renders : p.Renders name model visits log (.error e))
    (told : ∀ x ∈ exchanges log, p.Told seen x) :
    (∃ f, e = .other f ∧ (f.kind = .cancelled ∨ p.Unresolved seen name f)) ∨
    (∃ output reason f, Encoding.encode p.encoding .refuse output = .ok (.error (reason, f)) ∧
      e = .other (.because {
        kind := .render
        text := some ("Output cannot be encoded as " ++ p.encoding ++ ": " ++ reason)
        template := some name } f)) ∨
    (∀ x ∈ visits, x.own.chain.getLast? = some x.template.name) ∧ p.Innermost seen visits e := by
  have resolved {xs r} (course : (p.resolve name).Course xs r) (told : ∀ x ∈ xs, p.Told seen x) :=
    resolved_of_told course List.mem_cons_self told
  generalize is : (Except.error e : Except Origin Bytes) = o at renders
  cases renders with
  | @unresolved xs f course =>
    obtain rfl := Except.error.inj is
    simp only [exchanges_append, exchanges_did, List.mem_append, or_imp, forall_and] at told
    exact .inl ⟨f, rfl, (resolved course told.1).2 f rfl⟩
  | unmodelled _ fails =>
    -- a mapping always gives variables
    obtain ⟨es, m, gives, _⟩ := gives_givenEntries mapping { strict := p.compiler.strictUndefined }
    rw [onMachine, gives] at fails
    cases fails
  | failed course _ executes =>
    obtain rfl := Except.error.inj is
    simp only [exchanges_append, exchanges_did, List.mem_append, or_imp, forall_and] at told
    have settled := executes.settled textual storage (fun x mem => ?_) rfl
    · exact .inr (.inr ⟨settled.named, (settled.failed e rfl).resolve_right fun never => never.2⟩)
    · exact told.2 x (by simp [mem])
  | @ended xs v _ _ _ _ t _ course _ executes =>
    simp only [exchanges_append, exchanges_did, List.mem_append, or_imp, forall_and] at told
    have named := (resolved course told.1).1 v rfl
    rw [named] at is
    refine .inr (.inl ?_)
    have usable : Encoding.defect? false .refuse = none := rfl
    obtain ⟨_, b, bytes⟩ | ⟨reason, f, fault⟩ | ⟨other, _⟩ :=
      textual.coded.accepted.encode_cases usable t
    · rw [encoded, bytes] at is
      cases is
    · rw [encoded, fault] at is
      exact ⟨t, reason, f, fault, Except.error.inj is⟩
    · rw [textual.text] at other
      cases other

end

end Pipeline

end Stencil
