import Stencil.Proofs.Cache.Conservation
import Stencil.Proofs.Pipeline.Resolving
import Stencil.Proofs.Schedule.Lone
import Stencil.Proofs.Session.Accounts
import Stencil.Proofs.Session.Private

/-!
# The lookups of a request

What a request reports is told by its lookups, one after the other: of the template that it is for, and then of those
that helpers are called for. Here this is said of the deeds of a course, done to a cache that nobody else uses in the
meantime.

## Main definitions

- `Cache.Neat` — a cache as it is kept by all that is done to it
- `Deed.notices` — what a deed reports, and `Reports` — what deeds report one after the other
- `LooksUp` — what the lookup of one name reports
- `Pipeline.Lookups` — what the lookups for calls of helpers report
- `Pipeline.Asks` — exchanges that report the lookups for certain calls
- `Pipeline.Logged` — what a whole request reports

## Main results

- `looksUp_of_course` — to resolve a name is one lookup
- `Pipeline.Executes.asks` — an execution reports the lookups for its calls
- `Pipeline.Renders.logged` — a request that is described reports what it should
-/

namespace Stencil

open Template
open Routine (Expands expands_nil expands_lookup expands_act expands_read)

/-! ### Caches as they are kept -/

namespace Cache

variable {α : Type} {P : Text → α → Prop} {c : Cache α}

/-- A cache without double keys and within its bound, whose entries have a property. -/
structure Neat (P : Text → α → Prop) (c : Cache α) : Prop where
  distinct : c.keys.Nodup
  fits : c.size ≤ c.capacity
  holds : c.Holds P

theorem neat_empty (P : Text → α → Prop) (capacity : Nat) : (empty capacity : Cache α).Neat P :=
  ⟨List.nodup_nil, Nat.zero_le _, holds_empty capacity⟩

/-- Whatever is done to a cache, its keys stay apart and it stays within its bound. -/
theorem Neat.perform (neat : c.Neat P) (op : Operation α) (holds : (c.perform op).2.Holds P) :
    (c.perform op).2.Neat P := by
  have bound : (c.perform op).2.capacity = c.capacity := capacity_perform c op
  obtain ⟨key, _, keys⟩ | ⟨_, keys, _⟩ := keys_perform op neat.distinct neat.fits
  · refine ⟨?_, ?_, holds⟩
    · rw [keys]
      exact (nodup_moved neat.distinct).sublist (List.drop_sublist _ _)
    · rw [bound, ← length_keys, keys, List.rtake, List.length_drop]
      omega
  · refine ⟨neat.distinct.sublist keys, ?_, holds⟩
    rw [bound, ← length_keys]
    exact (length_keys c ▸ keys.length_le).trans neat.fits

theorem Neat.lookup (neat : c.Neat P) (key : Text) : (c.lookup key).2.Neat P :=
  neat.perform (.get key) (neat.holds.lookup key)

theorem Neat.miss (neat : c.Neat P) : c.miss.Neat P :=
  ⟨neat.distinct, neat.fits, neat.holds⟩

theorem Neat.insert (neat : c.Neat P) {key : Text} {v : α} (new : P key v) : (c.insert key v).Neat P :=
  neat.perform (.put key v) (neat.holds.insert new)

theorem Neat.invalidate (neat : c.Neat P) (key : Text) : (c.invalidate key).2.Neat P :=
  neat.perform (.invalidate key) (Holds.invalidate (neat.holds.mono fun _ _ valid _ => valid))

theorem Neat.clear (neat : c.Neat P) : c.clear.Neat P :=
  neat.perform .clear (holds_clear c)

/-- At most one entry is dropped at a time. -/
theorem Neat.length_overflow_le (neat : c.Neat P) (key : Text) : (c.overflow key).length ≤ 1 := by
  have fits := neat.fits
  rw [length_overflow, length_moved neat.distinct, length_keys]
  split <;> omega

/-- A lookup that finds nothing is counted, and that is all. -/
theorem lookup_of_none {key : Text} (none : (c.lookup key).1 = none) : (c.lookup key).2 = c.miss := by
  rw [Cache.lookup] at none ⊢
  cases found : c.find? key with
  | none => rfl
  | some e =>
    rw [found] at none
    cases none

end Cache

/-- A template is kept under its own name. -/
def Compiled.Under (name : Text) (v : Compiled) : Prop :=
  v.name = name

/-! ### What deeds report -/

/-- What a deed reports that is done by a service with this cache. Reads of a storage in memory are not reported. -/
def Deed.notices (c : Cache Compiled) : Deed Compiled → List Notice
  | lookup name _ => [if (c.lookup name).1.isSome then .cacheHit name else .cacheMiss name]
  | act (.note n) => [n]
  | act (.miss shown) => [.cacheMiss shown]
  | act (.keep name _) => (c.overflow name).map .evicted
  | join name => [.joined name]
  | act (.count _) | act (.run _) | begin _ | serve .. => []

/-- A lookup finds what the cache holds. -/
def Deed.Heeds (c : Cache Compiled) : Deed Compiled → Prop
  | lookup name found => found = (c.lookup name).1
  | act _ | join _ | begin _ | serve .. => True

/-- What deeds report that are done one after the other by a service with this cache, and the cache that they leave. -/
inductive Reports : Cache Compiled → List (Deed Compiled) → List Notice → Cache Compiled → Prop where
  | nil (c : Cache Compiled) : Reports c [] [] c
  | cons {c c' : Cache Compiled} {d : Deed Compiled} {ds : List (Deed Compiled)} {ns : List Notice}
      (heeds : d.Heeds c) (rest : Reports (d.onCache c) ds ns c') : Reports c (d :: ds) (d.notices c ++ ns) c'

namespace Reports

variable {c c' : Cache Compiled} {d : Deed Compiled} {ds es : List (Deed Compiled)} {ns : List Notice}

@[simp] theorem nil_iff : Reports c [] ns c' ↔ ns = [] ∧ c' = c := by
  constructor
  · rintro ⟨⟩
    exact ⟨rfl, rfl⟩
  · rintro ⟨rfl, rfl⟩
    exact .nil c'

@[simp] theorem cons_iff : Reports c (d :: ds) ns c' ↔
    d.Heeds c ∧ ∃ ns', ns = d.notices c ++ ns' ∧ Reports (d.onCache c) ds ns' c' := by
  constructor
  · rintro ⟨⟩
    exact ⟨‹_›, _, rfl, ‹_›⟩
  · rintro ⟨heeds, ns', rfl, rest⟩
    exact .cons heeds rest

/-- One more deed. -/
theorem concat (reports : Reports c ds ns c') (heeds : d.Heeds c') :
    Reports c (ds ++ [d]) (ns ++ d.notices c') (d.onCache c') := by
  induction reports with
  | nil c =>
    rw [← List.append_nil ([] ++ d.notices c)]
    exact .cons heeds (.nil _)
  | cons first _ ih =>
    rw [List.append_assoc]
    exact .cons first (ih heeds)

theorem split (reports : Reports c (ds ++ es) ns c') :
    ∃ ns₁ ns₂ c₁, ns = ns₁ ++ ns₂ ∧ Reports c ds ns₁ c₁ ∧ Reports c₁ es ns₂ c' := by
  induction ds generalizing c ns with
  | nil => exact ⟨[], ns, c, rfl, .nil c, reports⟩
  | cons d ds ih =>
    cases reports with
    | cons heeds rest =>
      obtain ⟨ns₁, ns₂, c₁, rfl, first, second⟩ := ih rest
      exact ⟨_, ns₂, c₁, (List.append_assoc ..).symm, .cons heeds first, second⟩

end Reports

/-! ### One lookup -/

/-- **What the lookup of a name reports.** It is a hit if the name is resident. Else it is read, and if that leads to a
template, this is compiled and kept, which drops at most one other. -/
inductive LooksUp (c : Cache Compiled) (name path : Text) :
    Except Failure Compiled → List Notice → Cache Compiled → Prop where
  | hit {v : Compiled} (resident : name ∈ c.keys) (found : (c.lookup name).1 = some v) :
      LooksUp c name path (.ok v) [.cacheHit name] (c.lookup name).2
  | fails (f : Failure) (absent : name ∉ c.keys) :
      LooksUp c name path (.error f) [.cacheMiss name, .fetching name path] c.miss
  | loads (v : Compiled) (absent : name ∉ c.keys) (few : (c.overflow name).length ≤ 1) :
      LooksUp c name path (.ok v) ([.cacheMiss name, .fetching name path, .compiled name v.static] ++
        (c.overflow name).map .evicted) (c.miss.insert name v)

section

variable {p : Pipeline} {c c' : Cache Compiled} {name path : Text} {xs : List (Exchange Compiled)}
  {ds : List (Deed Compiled)} {ns : List Notice}

/-- What a load reports. -/
theorem reports_load {o : Except Failure Compiled} (course : (p.load name path).Course xs o)
    (expands : Expands p.load xs ds) (reports : Reports c ds ns c') :
    (∃ f, o = .error f ∧ ns = [.fetching name path] ∧ c' = c) ∨
      ∃ v, o = .ok v ∧ v.name = name ∧ c' = c.insert name v ∧
        ns = [.fetching name path, .compiled name v.static] ++ (c.overflow name).map .evicted := by
  obtain ⟨answer, rfl, is⟩ := Pipeline.course_load course
  cases o with
  | error f =>
    simp only [Pipeline.keeping, List.map_nil, expands_act, expands_read, expands_nil] at expands
    obtain ⟨_, rfl, _, rfl, _, rfl, rfl⟩ := expands
    simp [Deed.notices, Deed.onCache, Deed.Heeds] at reports
    exact .inl ⟨f, rfl, reports⟩
  | ok v =>
    simp only [Pipeline.keeping, List.map_cons, List.map_nil, expands_act, expands_read, expands_nil] at expands
    obtain ⟨_, rfl, _, rfl, _, rfl, _, rfl, _, rfl, _, rfl, rfl⟩ := expands
    simp [Deed.notices, Deed.onCache, Deed.Heeds] at reports
    have named : v.name = name := by
      cases answer with
      | error f => cases is
      | ok b => exact Compiler.compile_name is.symm
    exact .inr ⟨v, rfl, named, reports.2, reports.1⟩

/-- **To resolve a name is one lookup.** -/
theorem looksUp_of_course {r : Except Failure Compiled} (course : (p.resolveAt name path).Course xs r)
    (expands : Expands p.load xs ds) (reports : Reports c ds ns c') (neat : c.Neat Compiled.Under) :
    LooksUp c name path r ns c' ∧ c'.Neat Compiled.Under ∧ ∀ v, r = .ok v → v.name = name := by
  obtain ⟨v, rfl, rfl⟩ | ⟨ys, rfl, loads⟩ := Pipeline.course_resolveAt course
  · simp only [expands_lookup, expands_act, expands_nil] at expands
    obtain ⟨_, rfl, _, rfl, rfl⟩ := expands
    simp only [Reports.cons_iff, Reports.nil_iff, Deed.notices, Deed.onCache, Deed.Heeds] at reports
    obtain ⟨found, _, rfl, -, _, rfl, rfl, rfl⟩ := reports
    have resident : name ∈ c.keys := by
      by_contra absent
      rw [Cache.lookup_eq_none_iff.mpr absent] at found
      cases found
    rw [← found]
    refine ⟨.hit resident found.symm, neat.lookup name, ?_⟩
    rintro _ ⟨⟩
    exact neat.holds.found found.symm
  · simp only [expands_lookup, expands_act] at expands
    obtain ⟨_, rfl, es, rfl, expands⟩ := expands
    simp only [Reports.cons_iff, Deed.notices, Deed.onCache, Deed.Heeds] at reports
    obtain ⟨found, _, rfl, -, ns, rfl, reports⟩ := reports
    have absent : name ∉ c.keys := Cache.lookup_eq_none_iff.mp found.symm
    rw [Cache.lookup_of_none found.symm] at reports
    -- a load reports the same, whether it is shared or not
    have loaded : ∃ o, r.isOk = o.isOk ∧ (∀ v, r = .ok v → o = .ok v) ∧ ∃ zs, (p.load name path).Course zs o ∧
        Expands p.load zs es := by
      obtain rfl | loads := loads
      · cases expands with
        | @share _ _ zs _ es _ o went loads rest =>
          obtain rfl := expands_nil.mp rest
          refine ⟨o, ?_, fun v => ok_of_told, zs, went, by rwa [List.append_nil]⟩
          cases o <;> rfl
      · exact ⟨r, rfl, fun _ => id, ys, loads, expands⟩
    obtain ⟨o, ok, same, zs, course, expands⟩ := loaded
    rw [← found]
    obtain ⟨f, rfl, rfl, rfl⟩ | ⟨v, rfl, named, rfl, rfl⟩ := reports_load course expands reports
    · cases r with
      | ok v => cases ok
      | error g => exact ⟨.fails g absent, neat.miss, fun _ is => by cases is⟩
    · cases r with
      | error g => cases ok
      | ok w =>
        obtain rfl := Except.ok.inj (same w rfl)
        refine ⟨.loads v absent (neat.length_overflow_le name), neat.miss.insert named, ?_⟩
        rintro _ ⟨⟩
        exact named

end

namespace Pipeline

/-! ### The lookups for calls -/

/-- The helpers that are called, and what for, in the order of the calls. -/
def callsIn (log : List Entry) : List (Helper × HelperCall) :=
  log.filterMap fun
    | .called _ _ helper call => some (helper, call)
    | .did _ => none

@[simp] theorem callsIn_append (log log' : List Entry) : callsIn (log ++ log') = callsIn log ++ callsIn log' :=
  List.filterMap_append

@[simp] theorem callsIn_called (level : Nat) (own helper : Helper) (call : HelperCall) (log : List Entry) :
    callsIn (.called level own helper call :: log) = (helper, call) :: callsIn log := rfl

@[simp] theorem callsIn_cons (x : Exchange Compiled) (log : List Entry) : callsIn (.did x :: log) = callsIn log := rfl

@[simp] theorem callsIn_did (xs : List (Exchange Compiled)) : callsIn (xs.map .did) = [] := by
  rw [callsIn, List.filterMap_map]
  exact List.filterMap_eq_nil_iff.mpr fun _ _ => rfl

/-- **What the lookups for calls report**, one after the other. After a lookup that fails, and after a call that is not
allowed, there are no others, and all goes wrong. -/
inductive Lookups (p : Pipeline) : Cache Compiled → List (Helper × HelperCall) → List Notice → Cache Compiled → Bool →
    Prop where
  | none (c : Cache Compiled) (well : Bool) : Lookups p c [] [] c well
  | found {c c₁ c' : Cache Compiled} {helper : Helper} {call : HelperCall} {calls : List (Helper × HelperCall)}
      {name path : Text} {v : Compiled} {ns ns' : List Notice} {well : Bool}
      (shallow : helper.chain.length < p.maxDepth) (named : call.name.asText? = some name)
      (from_ : path ∈ p.pathsOf name) (looks : LooksUp c name path (.ok v) ns c₁)
      (rest : Lookups p c₁ calls ns' c' well) : Lookups p c ((helper, call) :: calls) (ns ++ ns') c' well
  | failed {c c' : Cache Compiled} {helper : Helper} {call : HelperCall} {name path : Text} {f : Failure}
      {ns : List Notice} (shallow : helper.chain.length < p.maxDepth) (named : call.name.asText? = some name)
      (from_ : path ∈ p.pathsOf name) (looks : LooksUp c name path (.error f) ns c') :
      Lookups p c [(helper, call)] ns c' false
  /-- The template that the helper was given to is as deep as templates may nest. -/
  | refused (c : Cache Compiled) {helper : Helper} (call : HelperCall) (deep : p.maxDepth ≤ helper.chain.length) :
      Lookups p c [(helper, call)] [] c false
  /-- A helper is called for what is no text. This may be looked up too, but it is not found. -/
  | nameless {c c' : Cache Compiled} {helper : Helper} {call : HelperCall} {ns : List Notice}
      (shallow : helper.chain.length < p.maxDepth) (unnamed : call.name.asText? = Option.none)
      (looks : ns = [] ∧ c' = c ∨ ∃ shown, ns = [.cacheMiss shown] ∧ c' = c.miss) :
      Lookups p c [(helper, call)] ns c' false

namespace Lookups

variable {p : Pipeline} {c c₁ c' : Cache Compiled} {calls calls' : List (Helper × HelperCall)} {ns ns' : List Notice}
  {well : Bool}

/-- What goes well may go on. -/
theorem append (lookups : p.Lookups c calls ns c₁ true) (lookups' : p.Lookups c₁ calls' ns' c' well) :
    p.Lookups c (calls ++ calls') (ns ++ ns') c' well := by
  generalize is : true = good at lookups
  induction lookups with
  | none => exact lookups'
  | found shallow named from_ looks _ ih =>
    rw [List.append_assoc]
    exact .found shallow named from_ looks (ih lookups' is)
  | failed | refused | nameless => cases is

/-- What need not go well may have gone well. -/
theorem of_well (lookups : p.Lookups c calls ns c' true) (well : Bool) : p.Lookups c calls ns c' well := by
  have more := lookups.append (.none c' well)
  rwa [List.append_nil, List.append_nil] at more

end Lookups

variable {p : Pipeline} {c c' : Cache Compiled} {xs : List (Exchange Compiled)} {ds : List (Deed Compiled)}
  {ns : List Notice} {helper own : Helper} {call : HelperCall} {s : Stage} {template : Text} {level : Nat}
  {visits : List Visit} {log : List Entry}

/-- What an execution or a call does to a neat cache, it does by the lookups for calls. -/
def Asks (p : Pipeline) (calls : List (Helper × HelperCall)) (xs : List (Exchange Compiled)) (well : Bool) : Prop :=
  ∀ c ds ns c', Expands p.load xs ds → Reports c ds ns c' → c.Neat Compiled.Under →
    p.Lookups c calls ns c' well ∧ c'.Neat Compiled.Under

/-- To resolve the name that a helper is called for is one lookup. -/
theorem lookups_of_resolveValue {r : Except Failure (Compiled × Machine)} (shallow : helper.chain.length < p.maxDepth)
    (course : (p.resolveValue call.name s.machine).Course xs r) : p.Asks [(helper, call)] xs r.isOk := by
  intro c ds ns c' expands reports neat
  obtain ⟨name, path, r', named, from_, resolves, rfl⟩ | ⟨unnamed, acts, f, rfl, _⟩ := course_resolveValue course
  · obtain ⟨looks, neat, _⟩ := looksUp_of_course resolves expands reports neat
    refine ⟨?_, neat⟩
    cases r' with
    | error f => exact .failed shallow named from_ looks
    | ok v =>
      have one := Lookups.found shallow named from_ looks (.none c' true)
      rwa [List.append_nil] at one
  · obtain rfl | ⟨shown, rfl⟩ := acts
    · obtain rfl := expands_nil.mp expands
      obtain ⟨rfl, rfl⟩ := Reports.nil_iff.mp reports
      exact ⟨.nameless shallow unnamed (.inl ⟨rfl, rfl⟩), neat⟩
    · simp only [expands_act, expands_nil] at expands
      obtain ⟨_, rfl, _, rfl, rfl⟩ := expands
      simp [Deed.notices, Deed.onCache, Deed.Heeds] at reports
      obtain ⟨rfl, rfl⟩ := reports
      exact ⟨.nameless shallow unnamed (.inr ⟨shown, rfl, rfl⟩), neat.miss⟩

/-- One after the other. -/
theorem Asks.append {calls calls' : List (Helper × HelperCall)} {ys : List (Exchange Compiled)} {well : Bool}
    (asks : p.Asks calls xs true) (asks' : p.Asks calls' ys well) : p.Asks (calls ++ calls') (xs ++ ys) well := by
  intro c ds ns c' expands reports neat
  obtain ⟨ds₁, ds₂, rfl, first, second⟩ := expands.split
  obtain ⟨ns₁, ns₂, c₁, rfl, before, after⟩ := reports.split
  obtain ⟨lookups, neat⟩ := asks c ds₁ ns₁ c₁ first before neat
  obtain ⟨lookups', neat⟩ := asks' c₁ ds₂ ns₂ c' second after neat
  exact ⟨lookups.append lookups', neat⟩

theorem asks_nil (p : Pipeline) (well : Bool) : p.Asks [] [] well := by
  intro c ds ns c' expands reports neat
  obtain rfl := expands_nil.mp expands
  obtain ⟨rfl, rfl⟩ := Reports.nil_iff.mp reports
  exact ⟨.none c' well, neat⟩

/-- To run a template looks nothing up and reports nothing. -/
theorem Asks.run {calls : List (Helper × HelperCall)} {well : Bool} (v : Compiled) (asks : p.Asks calls xs well) :
    p.Asks calls (.act (.run v) :: xs) well := by
  intro c ds ns c' expands reports neat
  obtain ⟨es, rfl, rest⟩ := expands_act.mp expands
  obtain ⟨_, _, rfl, reports⟩ := Reports.cons_iff.mp reports
  exact asks c es _ c' rest reports neat

/-- **What a call reports** is the lookup of the name, and what the execution of that template reports. -/
theorem Calls.asks {runs : Compiled → Helper → Stage → Description Text} {o : Except Origin (Value × Stage)}
    (calls : p.Calls runs template helper call s visits log o)
    (inner : ∀ {v own s visits log o}, runs v own s visits log o → p.Asks (callsIn log) (exchanges log) o.isOk) :
    p.Asks ((helper, call) :: callsIn log) (exchanges log) o.isOk := by
  cases calls with
  | refused deep | nameless deep =>
    intro c ds ns c' expands reports neat
    obtain rfl := expands_nil.mp expands
    obtain ⟨rfl, rfl⟩ := Reports.nil_iff.mp reports
    exact ⟨.refused c' call deep, neat⟩
  | unresolved shallow course =>
    rw [callsIn_did, exchanges_did]
    exact lookups_of_resolveValue shallow course
  | unmodelled shallow course =>
    rw [callsIn_did, exchanges_did]
    intro c ds ns c' expands reports neat
    obtain ⟨lookups, neat⟩ := lookups_of_resolveValue shallow course c ds ns c' expands reports neat
    exact ⟨lookups.of_well false, neat⟩
  | @ran xs v m entries m' _ log o shallow course given run =>
    have rest := inner run
    rw [show (Except.map _ o).isOk = o.isOk by cases o <;> rfl, callsIn_append, callsIn_did, exchanges_append,
      exchanges_did]
    exact (lookups_of_resolveValue shallow course).append rest

/-- **What a computation reports** are the lookups for its calls. -/
theorem Follows.asks {answers : HelperCall → Stage → Description Value} {α : Type} {helpers : List Helper} {x : Step α}
    {o : Except Origin (α × Stage)} {calls : List (Helper × HelperCall)}
    (follows : Follows answers level template own helpers x calls visits log o)
    (inner : ∀ {call s visits log o}, answers call s visits log o →
      p.Asks ((s.helpers.getD call.helper default, call) :: callsIn log) (exchanges log) o.isOk) :
    p.Asks (callsIn log) (exchanges log) o.isOk := by
  induction follows with
  | done | raised => exact p.asks_nil _
  | failed answer => exact inner answer
  | @answered _ _ _ _ _ log _ _ _ _ log' _ answer _ ih =>
    rw [exchanges_called, exchanges_append, callsIn_called, callsIn_append]
    exact (inner answer).append ih

/-- **What an execution reports** are the lookups for the calls that come of it, in their order. -/
theorem Executes.asks {room : Nat} {v : Compiled} {o : Except Origin (Text × Stage)}
    (executes : p.Executes room level v own s visits log o) : p.Asks (callsIn log) (exchanges log) o.isOk := by
  induction room generalizing level v own s visits log o with
  | zero =>
    obtain ⟨rfl, rfl, rfl⟩ := executes
    exact (p.asks_nil _).run v
  | succ room ih =>
    cases executes with
    | unready => exact (p.asks_nil _).run v
    | ran ready follows => exact (follows.asks fun answer => answer.asks ih).run v

/-! ### Whole requests -/

/-- What is reported at the end of a request for the template of a name. -/
def lastWord (name : Text) (o : Except Failure Bytes) : List Notice :=
  ((faultOf o).map (Stencil.Request.file name none).report).toList

/-- **What a whole request reports**: the lookup of its name; if that leads to a template, that this is rendered, and
the lookups for calls of helpers; and what is reported at the end. If a name is not found, the request fails. -/
inductive Logged (p : Pipeline) (name : Text) (c : Cache Compiled) (o : Except Failure Bytes) :
    List (Helper × HelperCall) → List Notice → Cache Compiled → Prop where
  | unresolved {f : Failure} {ns : List Notice} {c' : Cache Compiled}
      (looks : LooksUp c name (p.templatePath name) (.error f) ns c') (fails : o = .error f) :
      Logged p name c o [] (ns ++ lastWord name o) c'
  | rendered {v : Compiled} {ns ns' : List Notice} {c₁ c' : Cache Compiled} {calls : List (Helper × HelperCall)}
      {well : Bool} (looks : LooksUp c name (p.templatePath name) (.ok v) ns c₁)
      (lookups : p.Lookups c₁ calls ns' c' well) (fails : well = false → ∃ f, o = .error f) :
      Logged p name c o calls (ns ++ .rendering name :: (ns' ++ lastWord name o)) c'

section

variable {name : Text} {o : Except Failure Bytes}

theorem callsIn_reportOf (name : Text) (o : Except Failure Bytes) : callsIn (reportOf name o) = [] := by
  cases o with
  | ok b => rfl
  | error f =>
    rw [reportOf]
    split
    · rfl
    · split <;> rfl

/-- What is done about the outcome of a request leaves the cache as it is. -/
theorem reports_reportOf (expands : Expands p.load (exchanges (reportOf name o)) ds) (reports : Reports c ds ns c') :
    ns = lastWord name o ∧ c' = c := by
  have counted {kind : Kind} {n : Notice}
      (expands : Expands p.load [.act (.count (.failure kind)), .act (.note n)] ds) : ns = [n] ∧ c' = c := by
    simp only [expands_act, expands_nil] at expands
    obtain ⟨_, rfl, _, rfl, rfl⟩ := expands
    simpa [Deed.notices, Deed.onCache, Deed.Heeds] using reports
  have silent (expands : Expands p.load [] ds) : ns = [] ∧ c' = c := by
    obtain rfl := expands_nil.mp expands
    exact Reports.nil_iff.mp reports
  cases o with
  | ok b => exact silent expands
  | error f =>
    rw [reportOf] at expands
    rw [lastWord, faultOf]
    split at expands
    · next storage =>
      rw [if_pos (Kind.isTemplate_of_isStorage storage), Option.map_some, Stencil.Request.report, if_pos storage]
      exact counted expands
    · next other =>
      split at expands
      · next family =>
        rw [if_pos family, Option.map_some, Stencil.Request.report, if_neg other]
        exact counted expands
      · next foreign =>
        rw [if_neg foreign]
        exact silent expands

/-- A request whose name is found. -/
theorem logged_of_found {v : Compiled} {calls : List (Helper × HelperCall)} {zs : List (Exchange Compiled)}
    {well : Bool} (course : (p.resolve name).Course xs (.ok v)) (asks : p.Asks calls zs well)
    (fails : well = false → ∃ f, o = .error f)
    (expands : Expands p.load (xs ++ .act (.note (.rendering v.name)) :: (zs ++ exchanges (reportOf name o))) ds)
    (reports : Reports c ds ns c') (neat : c.Neat Compiled.Under) : p.Logged name c o calls ns c' := by
  obtain ⟨ds₁, _, rfl, resolves, notes⟩ := expands.split
  obtain ⟨_, rfl, onward⟩ := expands_act.mp notes
  obtain ⟨ds₂, ds₃, rfl, renders, ends⟩ := onward.split
  obtain ⟨ns₁, _, c₁, rfl, first, noted⟩ := reports.split
  obtain ⟨-, _, rfl, onward⟩ := Reports.cons_iff.mp noted
  obtain ⟨ns₂, ns₃, c₂, rfl, second, third⟩ := onward.split
  obtain ⟨looks, neat, named⟩ := looksUp_of_course course resolves first neat
  obtain ⟨lookups, _⟩ := asks _ _ _ _ renders second neat
  obtain ⟨rfl, rfl⟩ := reports_reportOf ends third
  rw [Deed.notices, named v rfl]
  exact .rendered looks lookups fails

end

/-- **A request that is described reports what it should.** -/
theorem Renders.logged {name : Text} {model : Option Model} {o : Except Origin Bytes}
    (renders : p.Renders name model visits log o) (expands : Expands p.load (exchanges log) ds)
    (reports : Reports c ds ns c') (neat : c.Neat Compiled.Under) :
    p.Logged name c (o.mapError (Origin.failure p)) (callsIn log) ns c' := by
  cases renders with
  | unresolved course =>
    rw [exchanges_append, exchanges_did] at expands
    obtain ⟨ds₁, ds₂, rfl, resolves, ends⟩ := expands.split
    obtain ⟨ns₁, ns₂, c₁, rfl, first, second⟩ := reports.split
    obtain ⟨looks, _⟩ := looksUp_of_course course resolves first neat
    obtain ⟨rfl, rfl⟩ := reports_reportOf ends second
    rw [callsIn_append, callsIn_did, callsIn_reportOf]
    exact .unresolved looks rfl
  | unmodelled course fails =>
    rw [callsIn_append, callsIn_did, callsIn_cons, callsIn_reportOf]
    rw [exchanges_append, exchanges_did, exchanges_cons] at expands
    exact logged_of_found course (p.asks_nil false) (fun _ => ⟨_, rfl⟩) expands reports neat
  | failed course given executes =>
    rw [callsIn_append, callsIn_did, callsIn_cons, callsIn_append, callsIn_reportOf, List.append_nil]
    rw [exchanges_append, exchanges_did, exchanges_cons, exchanges_append] at expands
    exact logged_of_found course executes.asks (fun _ => ⟨_, rfl⟩) expands reports neat
  | @ended xs v entries m visits log t s course given executes =>
    have same : ((p.encoded .refuse v.name t).mapError Origin.other).mapError (Origin.failure p) =
        p.encoded .refuse v.name t := by
      cases p.encoded .refuse v.name t <;> rfl
    have counted : p.Asks (callsIn log) (exchanges log ++ [.act (.count .render)]) true := by
      have none : p.Asks [] [.act (.count .render)] true := by
        intro c ds ns c' expands reports neat
        simp only [expands_act, expands_nil] at expands
        obtain ⟨_, rfl, rfl⟩ := expands
        obtain ⟨_, _, rfl, rest⟩ := Reports.cons_iff.mp reports
        obtain ⟨rfl, rfl⟩ := Reports.nil_iff.mp rest
        exact ⟨.none c' true, neat⟩
      have both := executes.asks.append none
      rwa [List.append_nil] at both
    rw [same, callsIn_append, callsIn_did, callsIn_cons, callsIn_append, callsIn_cons, callsIn_reportOf,
      List.append_nil]
    rw [exchanges_append, exchanges_did, exchanges_cons, exchanges_append, exchanges_cons,
      List.append_cons (exchanges log)] at expands
    exact logged_of_found course counted (fun is => by cases is) expands reports neat

end Pipeline

end Stencil
