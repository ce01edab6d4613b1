import Mathlib.Algebra.Ring.GeomSum
import Stencil.Proofs.Pipeline.Resolving

/-!
# How deep templates nest

As long as templates only call the helpers that they were given themselves, no execution is nested deeper
than the limit, and the call that would go deeper fails the whole request at once. So the number of
executions is bounded by how many calls each of them makes.

## Main definitions

- `Pipeline.Visit.Faithful` — an execution that calls no helper but its own
- `Pipeline.Guarded` — what holds of executions that only call their own helpers
- `Pipeline.Traced` — executions that come from calls of each other

## Main results

- `Pipeline.depth_bounded`

## Design notes

A helper can be handed on to other templates. It still counts from the template that it was given to, so
one that calls the helper of a template around it goes deeper than the limit.
-/

namespace Stencil

open Template

namespace Pipeline

/-- An execution calls no helper but its own. -/
def Visit.Faithful (x : Visit) : Prop :=
  ∀ call ∈ x.calls, call.1 = x.own

variable {p : Pipeline} {xs : List (Exchange Compiled)}

/-! ### Executions that only call their own helpers -/

/-- What holds of executions and of what they fail with, as long as they only call their own helpers. There
are at most `most b` of them if each makes at most `b` calls. -/
structure Guarded (p : Pipeline) (most : Nat → Nat) (visits : List Visit) (log : List Entry)
    (failure : Option Origin) (ending : List Entry := []) : Prop where
  levels : ∀ x ∈ visits, x.own.chain.length = x.level ∧ x.level ≤ p.maxDepth
  /-- A call at the last level is the last thing that happens before the ending. -/
  refused : ∀ (level : Nat) own helper call, .called level own helper call ∈ log → level = p.maxDepth →
    (∃ before, log = before ++ .called level own helper call :: ending) ∧ own.chain.length = level ∧
      ∃ e, failure = some e ∧ ∀ name, call.name.asText? = some name → e = .nesting own name
  /-- Without such a call nothing is too deep. -/
  spared : (∀ (level : Nat) own helper call, .called level own helper call ∈ log → level ≠ p.maxDepth) →
    ∀ helper name, failure ≠ some (.nesting helper name)
  counted : ∀ b, (∀ x ∈ visits, x.calls.length ≤ b) → visits.length ≤ most b

section

variable {most : Nat → Nat} {visits : List Visit} {log ending : List Entry} {failure : Option Origin}

/-- Nothing is executed and nothing else is called where a failure does not come from a call that is too
deep. -/
theorem guarded_nil (none : ∀ level own helper call, .called level own helper call ∉ log)
    (other : ∀ helper name, failure ≠ some (.nesting helper name)) :
    p.Guarded most [] log failure ending where
  levels _ mem := by cases mem
  refused _ _ _ _ mem := absurd mem (none _ _ _ _)
  spared _ := other
  counted _ _ := Nat.zero_le _

namespace Guarded

/-- The rule for entries in front that are no calls at the last level. -/
theorem after (guarded : p.Guarded most visits log failure ending) (before : List Entry)
    (none : ∀ (level : Nat) own helper call, .called level own helper call ∈ before → level ≠ p.maxDepth) :
    p.Guarded most visits (before ++ log) failure ending where
  levels := guarded.levels
  refused level own helper call mem last := by
    have mem := (List.mem_append.mp mem).resolve_left fun mem => none _ _ _ _ mem last
    obtain ⟨⟨log', rfl⟩, rest⟩ := guarded.refused _ _ _ _ mem last
    exact ⟨⟨before ++ log', (List.append_assoc ..).symm⟩, rest⟩
  spared none' := guarded.spared fun l o h c mem => none' l o h c (List.mem_append_right _ mem)
  counted := guarded.counted

/-- The rule for an ending without calls. -/
theorem followed (guarded : p.Guarded most visits log failure) (ending : List Entry)
    (none : ∀ level own helper call, .called level own helper call ∉ ending) :
    p.Guarded most visits (log ++ ending) failure ending where
  levels := guarded.levels
  refused level own helper call mem last := by
    have mem := (List.mem_append.mp mem).resolve_right (none _ _ _ _)
    obtain ⟨⟨before, rfl⟩, rest⟩ := guarded.refused _ _ _ _ mem last
    exact ⟨⟨before, List.append_assoc ..⟩, rest⟩
  spared none' := guarded.spared fun l o h c mem => none' l o h c (List.mem_append_left _ mem)
  counted := guarded.counted

/-- The rule for what happens after executions that have not failed. -/
theorem succeeded (guarded : p.Guarded most visits log none) (rest : List Entry)
    (none : ∀ level own helper call, .called level own helper call ∉ rest)
    (other : ∀ helper name, failure ≠ some (.nesting helper name)) :
    p.Guarded most visits (log ++ rest) failure ending where
  levels := guarded.levels
  refused level own helper call mem last := by
    have mem := (List.mem_append.mp mem).resolve_right (none _ _ _ _)
    obtain ⟨_, _, _, is, _⟩ := guarded.refused _ _ _ _ mem last
    cases is
  spared _ := other
  counted := guarded.counted

end Guarded

end

section

variable {level : Nat} {template : Text} {own helper : Helper} {most : Nat → Nat} {visits : List Visit}
  {log : List Entry} {call : HelperCall} {s : Stage}

theorem called_notMem_did : .called level own helper call ∉ xs.map Entry.did := by
  simp

theorem of_ne_nesting (template : Text) (f : Failure) (helper : Helper) (name : Text) :
    some (Origin.of template f) ≠ some (.nesting helper name) := by
  rw [Origin.of]
  split <;> (intro is; cases is)

theorem ofNested_ne_nesting (template : Text) (helper : Helper) (name : Text) (f : Failure)
    (helper' : Helper) (name' : Text) :
    some (Origin.ofNested template helper name f) ≠ some (.nesting helper' name') := by
  rw [Origin.ofNested]
  split
  · intro is
    cases is
  · exact of_ne_nesting template f helper' name'

/-- A call that is too deep does nothing and fails. -/
theorem Calls.deep {runs : Compiled → Helper → Stage → Description Text}
    {o : Except Origin (Value × Stage)} (calls : p.Calls runs template helper call s visits log o)
    (deep : p.maxDepth ≤ helper.chain.length) :
    visits = [] ∧ log = [] ∧ ∃ e, o = .error e ∧ ∀ name, call.name.asText? = some name →
      e = .nesting helper name := by
  cases calls with
  | unresolved shallow | unmodelled shallow | ran shallow => exact absurd deep (Int.not_le_of_gt shallow)
  | refused _ is =>
    refine ⟨rfl, rfl, _, rfl, fun name named => ?_⟩
    rw [is] at named
    obtain rfl := Option.some.inj named
    rfl
  | nameless _ none =>
    refine ⟨rfl, rfl, _, rfl, fun name named => ?_⟩
    rw [none] at named
    cases named

/-- **A call that is not too deep** is guarded if the execution is that it leads to. -/
theorem Calls.guarded {runs : Compiled → Helper → Stage → Description Text}
    {o : Except Origin (Value × Stage)} (calls : p.Calls runs template helper call s visits log o)
    (shallow : helper.chain.length < p.maxDepth)
    (inner : ∀ v own s visits log o, runs v own s visits log o →
      own.chain.length = helper.chain.length + 1 → (∀ x ∈ visits, x.Faithful) →
        p.Guarded most visits log (failureOf o))
    (faithful : ∀ x ∈ visits, x.Faithful) : p.Guarded most visits log (failureOf o) := by
  cases calls with
  | refused deep | nameless deep => exact absurd deep (Int.not_le_of_gt shallow)
  | unresolved => exact guarded_nil (fun _ _ _ _ => called_notMem_did) (ofNested_ne_nesting _ _ _ _)
  | unmodelled => exact guarded_nil (fun _ _ _ _ => called_notMem_did) (of_ne_nesting _ _)
  | @ran xs v m entries m' visits log o _ course given run =>
    have guarded := (inner v _ _ visits log o run List.length_append faithful).after (xs.map .did)
      fun _ _ _ _ mem => absurd mem called_notMem_did
    cases o <;> exact guarded

/-- What a computation comes to is guarded if its calls are. -/
theorem Follows.guarded {answers : HelperCall → Stage → Description Value} {α : Type}
    {helpers : List Helper} {x : Step α} {o : Except Origin (α × Stage)}
    {calls : List (Helper × HelperCall)}
    (follows : Follows answers level template own helpers x calls visits log o)
    (deep : ∀ call s visits log o, answers call s visits log o →
      s.helpers.getD call.helper default = own → level = p.maxDepth →
        visits = [] ∧ log = [] ∧ ∃ e, o = .error e ∧ ∀ name, call.name.asText? = some name →
          e = .nesting own name)
    (shallow : ∀ call s visits log o, answers call s visits log o →
      s.helpers.getD call.helper default = own → level < p.maxDepth → (∀ x ∈ visits, x.Faithful) →
        p.Guarded most visits log (failureOf o))
    (length : own.chain.length = level) (within : level ≤ p.maxDepth)
    (calling : ∀ call ∈ calls, call.1 = own) (faithful : ∀ x ∈ visits, x.Faithful) :
    p.Guarded (fun b => calls.length * most b) visits log (failureOf o) := by
  induction follows with
  | done => exact guarded_nil (fun _ _ _ _ => List.not_mem_nil) nofun
  | raised => exact guarded_nil (fun _ _ _ _ => List.not_mem_nil) (of_ne_nesting _ _)
  | @failed helpers call m resume visits log e answer =>
    have known : helpers.getD call.helper default = own := calling _ List.mem_cons_self
    obtain more | last := Int.lt_or_eq_of_le within
    · have guarded := (shallow _ _ _ _ _ answer known more faithful).after
        [.called level own (helpers.getD call.helper default) call] fun l o h c mem => by
          cases List.mem_singleton.mp mem
          exact Int.ne_of_lt more
      refine { guarded with counted := fun b most => ?_ }
      rw [List.length_singleton, Nat.one_mul]
      exact guarded.counted b most
    · obtain ⟨rfl, rfl, e', is, named⟩ := deep _ _ _ _ _ answer known last
      obtain rfl := Except.error.inj is
      refine ⟨fun x mem => ?_, fun l o' h c mem _ => ?_, fun none => ?_, fun b _ => Nat.zero_le _⟩
      · cases mem
      · cases List.mem_singleton.mp mem
        exact ⟨⟨[], rfl⟩, length, _, rfl, named⟩
      · exact absurd last (none _ _ _ _ (List.mem_singleton_self _))
  | @answered helpers call m resume visits log v s calls visits' log' o answer rest ih =>
    have known : helpers.getD call.helper default = own := calling _ List.mem_cons_self
    have more : level < p.maxDepth := by
      refine (Int.lt_or_eq_of_le within).resolve_right fun last => ?_
      obtain ⟨_, _, _, is, _⟩ := deep _ _ _ _ _ answer known last
      cases is
    have first := shallow _ _ _ _ _ answer known more fun x mem => faithful x (List.mem_append_left _ mem)
    have second := (ih (fun c mem => calling c (List.mem_cons_of_mem _ mem))
      fun x mem => faithful x (List.mem_append_right _ mem)).after
        (.called level own (helpers.getD call.helper default) call :: log) fun l o h c mem last => by
          obtain is | mem := List.mem_cons.mp mem
          · cases is
            exact absurd last (Int.ne_of_lt more)
          · obtain ⟨_, _, _, is, _⟩ := first.refused _ _ _ _ mem last
            cases is
    refine { second with levels := fun x mem => ?_, counted := fun b most => ?_ }
    · exact (List.mem_append.mp mem).elim (first.levels x) (second.levels x)
    · rw [List.length_append, List.length_cons, Nat.succ_mul, Nat.add_comm]
      exact Nat.add_le_add (second.counted b fun x mem => most x (List.mem_append_right _ mem))
        (first.counted b fun x mem => most x (List.mem_append_left _ mem))

/-- The rule for an execution, from what its computation comes to. -/
theorem Guarded.visited {v : Compiled} {calls : List (Helper × HelperCall)} {failure : Option Origin}
    (guarded : p.Guarded (fun b => calls.length * most b) visits log failure)
    (length : own.chain.length = level) (within : level ≤ p.maxDepth) :
    p.Guarded (fun b => b * most b + 1) (⟨level, v, own, calls, failure⟩ :: visits)
      (.did (.act (.run v)) :: log) failure := by
  have after := guarded.after [.did (.act (.run v))] fun _ _ _ _ mem => by simp at mem
  refine { after with levels := fun x mem => ?_, counted := fun b few => ?_ }
  · obtain rfl | mem := List.mem_cons.mp mem
    · exact ⟨length, within⟩
    · exact guarded.levels x mem
  · have inner := guarded.counted b fun x mem => few x (List.mem_cons_of_mem _ mem)
    have own : calls.length ≤ b := few _ List.mem_cons_self
    exact Nat.add_le_add_right (inner.trans (Nat.mul_le_mul_right _ own)) 1

/-- **The executions of a request are guarded** as long as they only call their own helpers. -/
theorem Executes.guarded {room : Nat} {v : Compiled} {o : Except Origin (Text × Stage)}
    (executes : p.Executes room level v own s visits log o) (length : own.chain.length = level)
    (within : level ≤ p.maxDepth) (faithful : ∀ x ∈ visits, x.Faithful) :
    p.Guarded (fun b => ∑ i ∈ Finset.range (p.maxDepth.toNat + 1 - level), b ^ i) visits log
      (failureOf o) := by
  have step (level b : Nat) (within : level ≤ p.maxDepth) :
      ∑ i ∈ Finset.range (p.maxDepth.toNat + 1 - level), b ^ i =
        b * ∑ i ∈ Finset.range (p.maxDepth.toNat - level), b ^ i + 1 := by
    rw [← geom_sum_succ]
    congr 2
    omega
  induction room generalizing level v own s visits log o with
  | zero =>
    obtain ⟨rfl, rfl, rfl⟩ := executes
    simp only [step level _ within]
    exact .visited (guarded_nil (fun _ _ _ _ => List.not_mem_nil) (of_ne_nesting _ _)) length within
  | succ room ih =>
    simp only [step level _ within]
    cases executes with
    | unready =>
      exact .visited (guarded_nil (fun _ _ _ _ => List.not_mem_nil) (of_ne_nesting _ _)) length within
    | @ran x calls visits log o ready follows =>
      refine .visited (follows.guarded (fun call s visits log o calls is last => ?deep)
        (fun call s visits log o calls is more fair => ?more) length within
        (faithful _ List.mem_cons_self) fun x mem => faithful x (List.mem_cons_of_mem _ mem)) length within
      case deep =>
        rw [is] at calls
        exact calls.deep (by rw [length]; exact Int.le_of_eq last.symm)
      case more =>
        rw [is] at calls
        refine calls.guarded (by rw [length]; exact more) (fun v' own' m visits log o run deeper fair => ?_) fair
        rw [length] at deeper
        have guarded := ih run deeper (by omega) fair
        rwa [Nat.add_sub_add_right] at guarded

end

/-! ### Where executions come from -/

/-- An execution comes from a call of another one: it is one level deeper, and its chain is that of the
helper that was called, and then the name that it was called for. -/
def Visit.NestedIn (x y : Visit) : Prop :=
  ∃ call ∈ y.calls, x.level = y.level + 1 ∧
    x.own.chain = call.1.chain ++ [call.2.name.asText?.getD []]

/-- The visits are what the log runs, in the same order, and each comes from another one, unless it is
of the given ones. -/
structure Traced (first : Visit → Prop) (visits : List Visit) (log : List Entry) : Prop where
  ran : (exchanges log).filterMap Exchange.run? = visits.map Visit.template
  nested : ∀ x ∈ visits, first x ∨ ∃ y ∈ visits, x.NestedIn y

section

variable {first first' : Visit → Prop} {visits visits' : List Visit} {log log' : List Entry}

theorem traced_nil (ran : (exchanges log).filterMap Exchange.run? = []) : Traced first [] log :=
  ⟨ran, fun _ mem => by cases mem⟩

namespace Traced

/-- The rule for entries in front that run nothing. -/
theorem after (traced : Traced first visits log) (before : List Entry)
    (ran : (exchanges before).filterMap Exchange.run? = []) : Traced first visits (before ++ log) where
  ran := by rw [exchanges_append, List.filterMap_append, ran, traced.ran, List.nil_append]
  nested := traced.nested

/-- The rule for an ending that runs nothing. -/
theorem followed (traced : Traced first visits log) (ending : List Entry)
    (ran : (exchanges ending).filterMap Exchange.run? = []) : Traced first visits (log ++ ending) where
  ran := by rw [exchanges_append, List.filterMap_append, ran, traced.ran, List.append_nil]
  nested := traced.nested

theorem mono (traced : Traced first visits log) (weaker : ∀ x, first x → first' x) :
    Traced first' visits log :=
  ⟨traced.ran, fun x mem => (traced.nested x mem).imp_left (weaker x)⟩

theorem append (traced : Traced first visits log) (traced' : Traced first visits' log') :
    Traced first (visits ++ visits') (log ++ log') where
  ran := by
    rw [exchanges_append, List.filterMap_append, List.map_append, traced.ran, traced'.ran]
  nested x mem := by
    obtain mem | mem := List.mem_append.mp mem
    · exact (traced.nested x mem).imp_right fun ⟨y, at_, is⟩ => ⟨y, List.mem_append_left _ at_, is⟩
    · exact (traced'.nested x mem).imp_right fun ⟨y, at_, is⟩ => ⟨y, List.mem_append_right _ at_, is⟩

end Traced

end

section

variable {level : Nat} {template : Text} {own helper : Helper} {visits : List Visit} {log : List Entry}
  {call : HelperCall} {s : Stage}

/-- What a call executes first is one level deeper, and its chain goes on with the name that was asked
for. -/
theorem Calls.traced {runs : Compiled → Helper → Stage → Description Text}
    {o : Except Origin (Value × Stage)} (calls : p.Calls runs template helper call s visits log o)
    (inner : ∀ v own s visits log o, runs v own s visits log o →
      Traced (fun x => x.level = level + 1 ∧ x.own = own) visits log) :
    Traced (fun x => x.level = level + 1 ∧
      x.own.chain = helper.chain ++ [call.name.asText?.getD []]) visits log := by
  have resolving {xs r} (course : (p.resolveValue call.name s.machine).Course xs r) :
      (exchanges (xs.map .did)).filterMap Exchange.run? = [] := by
    rw [exchanges_did]
    exact ran_of_resolveValue course
  cases calls with
  | refused | nameless => exact traced_nil rfl
  | unresolved _ course => exact traced_nil (resolving course)
  | unmodelled _ course => exact traced_nil (resolving course)
  | ran _ course _ run =>
    exact ((inner _ _ _ _ _ _ run).mono fun x ⟨same, is⟩ => ⟨same, by rw [is]⟩).after _ (resolving course)

theorem Follows.traced {answers : HelperCall → Stage → Description Value} {α : Type}
    {helpers : List Helper} {x : Step α} {o : Except Origin (α × Stage)}
    {calls : List (Helper × HelperCall)}
    (follows : Follows answers level template own helpers x calls visits log o)
    (inner : ∀ call s visits log o, answers call s visits log o →
      Traced (fun x => x.level = level + 1 ∧ x.own.chain =
        (s.helpers.getD call.helper default).chain ++ [call.name.asText?.getD []]) visits log)
    (v : Compiled) (failure : Option Origin) :
    Traced (fun x => x.NestedIn ⟨level, v, own, calls, failure⟩) visits log := by
  induction follows with
  | done | raised => exact traced_nil rfl
  | failed answer =>
    exact ((inner _ _ _ _ _ answer).mono fun x is => ⟨_, List.mem_singleton_self _, is⟩).after [_] rfl
  | answered answer _ ih =>
    refine (((inner _ _ _ _ _ answer).mono fun x is => ⟨_, List.mem_cons_self, is⟩).append
      (ih.mono ?_)).after [_] rfl
    rintro x ⟨call, mem, is⟩
    exact ⟨call, List.mem_cons_of_mem _ mem, is⟩

/-- The rule for an execution that calls nothing. -/
theorem traced_alone {v : Compiled} {calls : List (Helper × HelperCall)} {failure : Option Origin} :
    Traced (fun x => x.level = level ∧ x.own = own) [⟨level, v, own, calls, failure⟩]
      [.did (.act (.run v))] := by
  refine ⟨rfl, fun x mem => .inl ?_⟩
  obtain rfl := List.mem_singleton.mp mem
  exact ⟨rfl, rfl⟩

theorem Executes.traced {room : Nat} {v : Compiled} {o : Except Origin (Text × Stage)}
    (executes : p.Executes room level v own s visits log o) :
    Traced (fun x => x.level = level ∧ x.own = own) visits log := by
  induction room generalizing level v own s visits log o with
  | zero =>
    obtain ⟨rfl, rfl, rfl⟩ := executes
    exact traced_alone
  | succ room ih =>
    cases executes with
    | unready => exact traced_alone
    | @ran x calls visits log o _ follows =>
      have traced := follows.traced
        (fun _ _ _ _ _ calls => calls.traced fun _ _ _ _ _ _ run => ih run) v (failureOf o)
      refine ⟨congrArg (v :: ·) traced.ran, fun x mem => ?_⟩
      obtain rfl | mem := List.mem_cons.mp mem
      · exact .inl ⟨rfl, rfl⟩
      · refine .inr ?_
        obtain nested | ⟨y, at_, nested⟩ := traced.nested x mem
        · exact ⟨_, List.mem_cons_self, nested⟩
        · exact ⟨y, List.mem_cons_of_mem _ at_, nested⟩

end

/-! ### Requests -/

section

variable {name : Text} {model : Option Model} {visits : List Visit} {log : List Entry}
  {o : Except Origin Bytes}

theorem called_notMem_reportOf {level : Nat} {own helper : Helper} {call : HelperCall}
    {r : Except Failure Bytes} : .called level own helper call ∉ reportOf name r := by
  cases r with
  | ok b => exact List.not_mem_nil
  | error f =>
    rw [reportOf]
    split
    · simp
    · split <;> simp

theorem ran_reportOf {r : Except Failure Bytes} :
    (exchanges (reportOf name r)).filterMap Exchange.run? = [] := by
  cases r with
  | ok b => rfl
  | error f =>
    rw [reportOf]
    split
    · rfl
    · split <;> rfl

/-- What is executed at the first level has one name in its chain, and all else is nested. -/
theorem Renders.traced (renders : p.Renders name model visits log o) :
    Traced (fun x => x.level = 1 ∧ x.own.chain.length = 1) visits log := by
  have resolves {xs r} (course : (p.resolve name).Course xs r) :
      (exchanges (xs.map .did)).filterMap Exchange.run? = [] := by
    rw [exchanges_did]
    exact ran_of_resolveAt course
  have first {room v own s log} {o : Except Origin (Text × Stage)} (length : own.chain.length = 1)
      (executes : p.Executes room 1 v own s visits log o) :
      Traced (fun x => x.level = 1 ∧ x.own.chain.length = 1) visits log := by
    refine executes.traced.mono ?_
    rintro x ⟨is, same⟩
    exact ⟨is, same ▸ length⟩
  cases renders with
  | unresolved course => exact (traced_nil ran_reportOf).after _ (resolves course)
  | unmodelled course => exact ((traced_nil ran_reportOf).after [_] rfl).after _ (resolves course)
  | failed course _ executes =>
    exact (((first rfl executes).followed _ ran_reportOf).after [_] rfl).after _ (resolves course)
  | ended course _ executes =>
    refine (((first rfl executes).followed _ ?_).after [_] rfl).after _ (resolves course)
    exact ran_reportOf

/-- **A request is guarded** as long as its executions only call their own helpers. -/
theorem Renders.guarded (positive : 1 ≤ p.maxDepth) (renders : p.Renders name model visits log o)
    (faithful : ∀ x ∈ visits, x.Faithful) :
    p.Guarded (fun b => ∑ i ∈ Finset.range p.maxDepth.toNat, b ^ i) visits log (failureOf o)
      (reportOf name (o.mapError (Origin.failure p))) := by
  have first {v : Compiled} {own s log} {o : Except Origin (Text × Stage)} (length : own.chain.length = 1)
      (executes : p.Executes p.room 1 v own s visits log o) :=
    executes.guarded length positive faithful
  have resolving {failure ending log} {xs : List (Exchange Compiled)}
      (guarded : p.Guarded (fun b => ∑ i ∈ Finset.range p.maxDepth.toNat, b ^ i) visits log failure ending) :
      p.Guarded (fun b => ∑ i ∈ Finset.range p.maxDepth.toNat, b ^ i) visits (xs.map .did ++ log) failure
        ending :=
    guarded.after (xs.map .did) fun _ _ _ _ mem => absurd mem called_notMem_did
  cases renders with
  | unresolved => exact resolving (guarded_nil (fun _ _ _ _ => called_notMem_reportOf) nofun)
  | unmodelled =>
    refine resolving (guarded_nil (fun _ _ _ _ mem => ?_) nofun)
    exact called_notMem_reportOf ((List.mem_cons.mp mem).resolve_left (by simp))
  | failed _ _ executes =>
    exact resolving (((first rfl executes).followed _ fun _ _ _ _ => called_notMem_reportOf).after [_]
      fun _ _ _ _ mem => by simp at mem)
  | @ended xs v entries m visits log t s _ _ executes =>
    refine resolving (((first rfl executes).succeeded (_ :: _) (fun _ _ _ _ mem => ?_)
      fun _ _ => ?_).after [_] fun _ _ _ _ mem => by simp at mem)
    · exact called_notMem_reportOf ((List.mem_cons.mp mem).resolve_left (by simp))
    · cases p.encoded .refuse v.name t <;> nofun

end

/-- **No request nests deeper than the limit** as long as its templates call no helpers but their own, so
that every cycle of templates ends. Every course of a request is described by its executions: they are what
it runs, each one that is nested comes from a call, and its chain is that of the called helper with the name
that was asked for. If they are faithful, then none is nested deeper than the limit. A call at the last level
fails the request with the whole chain in the message, and all that happens after it is the report of this
failure. A request without such a call does not fail by going too deep. If no execution makes more than `b`
calls, there are no more executions than in a tree of that depth in which each has `b` below it. -/
theorem depth_bounded (p : Pipeline) (positive : 1 ≤ p.maxDepth) (name : Text) (model : Option Model) :
    (∀ xs r, (p.renderFile name model).Course xs r →
      ∃ visits log o, p.Renders name model visits log o ∧ exchanges log = xs ∧
        r = o.mapError (Origin.failure p)) ∧
    ∀ visits log o, p.Renders name model visits log o →
      (exchanges log).filterMap Exchange.run? = visits.map Visit.template ∧
      (∀ x ∈ visits, (x.level = 1 ∧ x.own.chain.length = 1) ∨ ∃ y ∈ visits, x.NestedIn y) ∧
      ((∀ x ∈ visits, x.Faithful) →
        (∀ x ∈ visits, x.level ≤ p.maxDepth ∧ x.own.chain.length = x.level) ∧
        (∀ (level : Nat) own helper call asked, .called level own helper call ∈ log →
          level = p.maxDepth → call.name.asText? = some asked →
          own.chain.length = level ∧ o = .error (.nesting own asked) ∧
            ∃ before, log = before ++ .called level own helper call ::
              reportOf name (.error ((Origin.nesting own asked).failure p))) ∧
        ((∀ (level : Nat) own helper call, .called level own helper call ∈ log → level ≠ p.maxDepth) →
          ∀ helper asked, o ≠ .error (.nesting helper asked)) ∧
        ∀ b, (∀ x ∈ visits, x.calls.length ≤ b) →
          visits.length ≤ ∑ i ∈ Finset.range p.maxDepth.toNat, b ^ i) := by
  refine ⟨fun xs r => renders_of_course, fun visits log o renders => ?_⟩
  have traced := renders.traced
  refine ⟨traced.ran, traced.nested, fun faithful => ?_⟩
  have guarded := renders.guarded positive faithful
  refine ⟨fun x mem => (guarded.levels x mem).symm, fun level own helper call asked mem last named => ?_,
    fun none helper asked is => ?_, guarded.counted⟩
  · obtain ⟨before, length, e, fails, is⟩ := guarded.refused level own helper call mem last
    obtain rfl := is asked named
    cases o with
    | ok b => cases fails
    | error e =>
      obtain rfl := Option.some.inj fails
      exact ⟨length, rfl, before⟩
  · subst is
    exact guarded.spared none helper asked rfl

/-- The rule for an execution whose first call fails, if it calls its own helper. -/
theorem Executes.failed_by {room level : Nat} {v : Compiled} {own : Helper} {s : Stage} {call : HelperCall}
    {m : Machine} {resume : Value → Machine → Step Text} {visits : List Visit} {log : List Entry}
    {e : Origin} (ready : p.ready v own s = .ok (.nested call m resume))
    (is : (s.helpers ++ [own]).getD call.helper default = own)
    (fails : p.Calls (p.Executes room (level + 1)) v.name own call ⟨m, s.helpers ++ [own]⟩ visits log
      (.error e)) :
    p.Executes (room + 1) level v own s (⟨level, v, own, [(own, call)], some e⟩ :: visits)
      (.did (.act (.run v)) :: .called level own own call :: log) (.error e) := by
  have fails' : p.Calls (p.Executes room (level + 1)) v.name
      ((s.helpers ++ [own]).getD call.helper default) call ⟨m, s.helpers ++ [own]⟩ visits log (.error e) := by
    rw [is]
    exact fails
  have follows : Follows (fun call s => p.Calls (p.Executes room (level + 1)) v.name
      (s.helpers.getD call.helper default) call s) level v.name own (s.helpers ++ [own])
      (.nested call m resume) _ _ _ _ := .failed fails'
  rw [is] at follows
  exact .ran ready follows

/-- A template that nests itself, where templates may nest two levels deep. -/
theorem depth_bounded_cycle :
    let p : Pipeline := { templateDir := "t", maxDepth := 2 }
    1 ≤ p.maxDepth ∧ ∃ visits log own,
      p.Renders "a" none visits log (.error (.nesting own "a")) ∧ own.chain = [("a" : Text), "a"] ∧
      (∀ x ∈ visits, x.Faithful ∧ x.level ≤ p.maxDepth) ∧ visits.length = ∑ i ∈ Finset.range 2, 1 ^ i := by
  intro p
  let v : Compiled := { name := "a", source := "\x7b\x7b render('a') \x7d\x7d", static := false }
  -- both executions ask for the template again, each by its own helper
  let again (p : Pipeline) (v : Compiled) : Bool :=
    match onMachine (givenEntries none) { strict := p.compiler.strictUndefined } with
    | .finish (.ok (entries, m)) =>
      match p.ready v ⟨entries, [v.name]⟩ { machine := m } with
      | .ok (.nested call m _) =>
        call.helper == 0 && call.name.asText? == some ("a" : Text) &&
        match (p.resolveValue call.name m).told fun _ => some v with
        | (_, .ok (w, m)) =>
          match onMachine (nestedModel entries call) m with
          | .finish (.ok (entries', m)) =>
            match p.ready w ⟨entries', [v.name, "a"]⟩
              { machine := m, helpers := [⟨entries, [v.name]⟩] } with
            | .ok (.nested call _ _) => call.helper == 1 && call.name.asText? == some ("a" : Text)
            | .ok (.done ..) | .error _ => false
          | .finish (.error _) | .lookup .. | .act .. | .read .. | .share .. => false
        | (_, .error _) => false
      | .ok (.done ..) | .error _ => false
    | .finish (.error _) | .lookup .. | .act .. | .read .. | .share .. => false
  have runs : again p v = true := by decide +kernel
  have depth : p.maxDepth = 2 := rfl
  have called : v.name = "a" := rfl
  clear_value p v
  dsimp only [again] at runs
  split at runs <;> try cases runs
  next entries m given =>
  split at runs <;> try cases runs
  next call m₁ resume ready =>
  simp only [Bool.and_eq_true, beq_iff_eq] at runs
  obtain ⟨⟨zeroth, named⟩, runs⟩ := runs
  split at runs <;> try cases runs
  next xs w m₂ told =>
  split at runs <;> try cases runs
  next entries' m₃ given' =>
  split at runs <;> try cases runs
  next call' m₄ resume' ready' =>
  simp only [Bool.and_eq_true, beq_iff_eq] at runs
  obtain ⟨one, named'⟩ := runs
  have resolves := (p.resolveValue call.name m₁).course_told fun _ => some v
  rw [told] at resolves
  let outer : Helper := ⟨entries, [v.name]⟩
  let inner : Helper := ⟨entries', [v.name, "a"]⟩
  let visits : List Visit := [⟨1, v, outer, [(outer, call)], some (.nesting inner "a")⟩,
    ⟨2, w, inner, [(inner, call')], some (.nesting inner "a")⟩]
  have refused : p.Calls (p.Executes (p.maxDepth.toNat + 148) 3) w.name inner call' ⟨m₄, [outer, inner]⟩ [] []
      (.error (.nesting inner "a")) :=
    .refused (Int.le_of_eq depth) named'
  have nested : p.Executes (p.maxDepth.toNat + 149) 2 w inner ⟨m₃, [outer]⟩ _ _ _ :=
    Executes.failed_by ready' (by rw [one]; rfl) refused
  have ran : p.Calls (p.Executes (p.maxDepth.toNat + 149) 2) v.name outer call ⟨m₁, [outer]⟩ _ _
      (.error (.nesting inner "a")) :=
    .ran (o := .error (.nesting inner "a")) (by rw [depth]; exact Int.ofNat_lt.mpr Nat.one_lt_two) resolves
      given' (by rw [named]; exact nested)
  have renders : p.Renders "a" none visits _ (.error (.nesting inner "a")) :=
    .failed ⟨some v, _, rfl, _, rfl, rfl, rfl⟩ given (Executes.failed_by ready (by rw [zeroth]; rfl) ran)
  have faithful : ∀ x ∈ visits, x.Faithful := by
    simp [visits, Visit.Faithful]
  have bounded := ((depth_bounded p (by omega) "a" none).2 _ _ _ renders).2.2 faithful
  exact ⟨by omega, visits, _, inner, renders, congrArg (fun n => [n, ("a" : Text)]) called,
    fun x mem => ⟨faithful x mem, (bounded.1 x mem).1⟩, rfl⟩

/-- A template lends its helper to the template that it nests, which nests a third one by it. So three
templates are inside of each other where two may be. -/
theorem lent_helper_nests_deeper :
    let p : Pipeline := { templateDir := "t", maxDepth := 2 }
    let m : MemoryStorage := { files := [
      ("t/a", ("\x7b\x7b render('b', r=render) \x7d\x7d" : Text).map UInt8.ofNat),
      ("t/b", ("\x7b\x7b r('c') \x7d\x7d" : Text).map UInt8.ofNat),
      ("t/c", ("deep" : Text).map UInt8.ofNat)] }
    ((Session.start (.create [(p, 10)] none (.memory m))).render 0 (.file "a" none)).1 =
      some (.ok (("deep" : Text).map UInt8.ofNat)) := by
  decide +kernel

end Pipeline

end Stencil
