import Stencil.Proofs.Pipeline.Proceeds
import Stencil.Proofs.Schedule.Everywhere
import Stencil.Proofs.Session.Loads

/-!
# What requests and loads do at their turns

The turn of a request has three parts: it takes up the answer that it was given, it goes on with what it finds in the
cache, and it stops because it has ended or because a name has to be loaded. Here it is said once what is done in each
part.

## Main definitions

- `Standing.Proceeds` — where a request stands that proceeds
- `Standing.Leads`, `Pipeline.Walks`, `Pipeline.Stops` — the three parts of the turn of a request
- `Standing.OnLoad`, `Standing.Loading` — where a load stands, and its turn

## Main results

- `Standing.Proceeds.turn`, `Standing.OnLoad.turn`
-/

namespace Stencil

open Deployment

namespace Pipeline

variable {β : Type} {p : Pipeline} {ends : List (Act Compiled) → Except Failure β → Prop}
  {known more : Compiled → Prop} {missing : Text → Prop}

/-- What goes on once a name is resolved, or cannot be. -/
structure Awaits (p : Pipeline) (ends : List (Act Compiled) → Except Failure β → Prop) (known : Compiled → Prop)
    (k : Except Failure Compiled → Request β) : Prop where
  ok : ∀ more v, known ≤ more → more v → p.Proceeds ends more (k (.ok v))
  fails : ∀ more f, known ≤ more → p.Proceeds ends more (k (.error f))

theorem Awaits.mono {k : Except Failure Compiled → Request β} (awaits : p.Awaits ends known k)
    (le : known ≤ more) : p.Awaits ends more k :=
  ⟨fun _ v le' => awaits.ok _ v (le.trans le'), fun _ f le' => awaits.fails _ f (le.trans le')⟩

/-- What a request does while it need not wait: each name that it resolves is in the cache, or was loaded just
before. -/
inductive Walks (p : Pipeline) (known : Compiled → Prop) (missing : Text → Prop) : List (Deed Compiled) → Prop where
  | nil : Walks p known missing []
  | act {a : Act Compiled} {ds : List (Deed Compiled)} (plain : a.Plain) (walks : Walks p known missing ds) :
      Walks p known missing (.act a :: ds)
  | run {v : Compiled} {ds : List (Deed Compiled)} (is : known v) (walks : Walks p known missing ds) :
      Walks p known missing (.act (.run v) :: ds)
  | miss (shown : Text) {ds : List (Deed Compiled)} (walks : Walks p known missing ds) :
      Walks p known missing (.act (.miss shown) :: .act (.count .miss) :: ds)
  | hit (name : Text) (v : Compiled) {ds : List (Deed Compiled)} (walks : Walks p known missing ds) :
      Walks p known missing (.lookup name (some v) :: .act (.count .hit) :: ds)
  | join {name : Text} {ds : List (Deed Compiled)} (shared : p.singleFlight = true) (absent : missing name)
      (walks : Walks p known missing ds) :
      Walks p known missing (.lookup name none :: .act (.count .miss) :: .join name :: ds)

/-- What a request does before it stops, and where it stops: it has ended, or a name has to be loaded. -/
inductive Stops (p : Pipeline) (ends : List (Act Compiled) → Except Failure β → Prop) (known : Compiled → Prop)
    (missing : Text → Prop) : List (Deed Compiled) → Halt Compiled β → Prop where
  | ended {acts : List (Act Compiled)} {o : Except Failure β} (is : ends acts o) :
      Stops p ends known missing (acts.map .act) (.ended o)
  | shares {name path : Text} {k : Except Failure Compiled → Request β} (shared : p.singleFlight = true)
      (from_ : path ∈ p.pathsOf name) (awaits : p.Awaits ends known k) (absent : missing name) :
      Stops p ends known missing [.lookup name none, .act (.count .miss)] (.sharing name path k)
  | held {name path : Text} {k : Except Failure Compiled → Request β} (alone : p.singleFlight = false)
      (from_ : path ∈ p.pathsOf name) (awaits : p.Awaits ends known k) (absent : missing name) :
      Stops p ends known missing
        [.lookup name none, .act (.count .miss), .act (.note (.fetching name path)), .act (.count .fetch)]
        (.held path fun source => (p.loaded name source).onEnd k)
  | paused {name path : Text} {k : Except Failure Compiled → Request β} (alone : p.singleFlight = false)
      (from_ : path ∈ p.pathsOf name) (awaits : p.Awaits ends known k) (absent : missing name) :
      Stops p ends known missing
        [.lookup name none, .act (.count .miss), .act (.note (.fetching name path)), .act (.count .fetch),
          .begin path]
        (.paused path fun source => (p.loaded name source).onEnd k)

/-- What a routine does until it stops: it walks, and then it stops. -/
structure Strides (p : Pipeline) (ends : List (Act Compiled) → Except Failure β → Prop) (known : Compiled → Prop)
    (missing : Text → Prop) (ds : List (Deed Compiled)) (halt : Halt Compiled β) : Prop where
  parts : ∃ walk stop, ds = walk ++ stop ∧ p.Walks known missing walk ∧ p.Stops ends known missing stop halt

theorem Strides.of_stops {ds : List (Deed Compiled)} {halt : Halt Compiled β}
    (stops : p.Stops ends known missing ds halt) : p.Strides ends known missing ds halt :=
  ⟨[], ds, rfl, .nil, stops⟩

/-- Whatever walks on before strides, strides. -/
theorem Strides.of_walks (pre : List (Deed Compiled)) {ds : List (Deed Compiled)} {halt : Halt Compiled β}
    (walks : ∀ {walk}, p.Walks known missing walk → p.Walks known missing (pre ++ walk))
    (strides : p.Strides ends known missing ds halt) : p.Strides ends known missing (pre ++ ds) halt := by
  obtain ⟨walk, stop, rfl, walk_, stops⟩ := strides
  exact ⟨pre ++ walk, stop, (List.append_assoc ..).symm, walks walk_, stops⟩

end Pipeline

theorem Act.ne_keep {V : Type} {a : Act V} (other : a.kept? = none) (name : Text) (v : V) : a ≠ .keep name v := by
  rintro rfl
  cases other

/-- What is known of the cache of a service as long as nothing is put there: what may be found in it, and what may be
missing. -/
structure Deployment.Offers (service : Nat) (known : Compiled → Prop) (missing : Text → Prop) (I : Deployment → Prop) :
    Prop where
  lookup : ∀ d name, I d → I (d.lookup service name).2
  act : ∀ d a, (∀ name v, a ≠ .keep name v) → I d → I (d.act service a)
  found : ∀ d name v, I d → (d.lookup service name).1 = some v → known v
  absent : ∀ d name, I d → (d.lookup service name).1 = none → missing name

namespace Pipeline

variable {β : Type} {p : Pipeline} {ends : List (Act Compiled) → Except Failure β → Prop}
  {known : Compiled → Prop} {missing : Text → Prop} {service : Nat} {I : Deployment → Prop}
  {landed : Text → Option (Except Failure Compiled)}

theorem deeds_closing (service : Nat) (landed : Text → Option (Except Failure Compiled)) (acts : List (Act Compiled)) (o : Except Failure β) (d : Deployment) :
    host.deeds service landed (closing acts o) d = acts.map .act ∧
      (host.advance service landed (closing acts o) d).1 = .ended o := by
  induction acts generalizing d with
  | nil => exact ⟨rfl, rfl⟩
  | cons a acts ih =>
    obtain ⟨deeds, ended⟩ := ih (d.act service a)
    exact ⟨congrArg _ deeds, ended⟩

/-- How a request goes on after it has looked up a name. -/
def resolved (p : Pipeline) (name path : Text) (k : Except Failure Compiled → Request β) :
    Option Compiled → Request β
  | some v => .act (.count .hit) (k (.ok v))
  | none => .act (.count .miss) (if p.singleFlight then .share name path k else (p.load name path).onEnd k)

theorem resolveAt_onEnd (p : Pipeline) (name path : Text) (k : Except Failure Compiled → Request β) :
    (p.resolveAt name path).onEnd k = .lookup name (p.resolved name path k) := by
  refine congrArg (Routine.lookup name) (funext fun found => ?_)
  cases found with
  | some v => rfl
  | none =>
    change Routine.act (.count .miss) (Routine.onEnd (if p.singleFlight then _ else _) k) = _
    rw [resolved]
    split <;> rfl

/-- A request that proceeds does so until it stops. -/
theorem Proceeds.strides {r : Request β} (proceeds : p.Proceeds ends known r)
    (offers : Offers service known missing I)
    (informed : ∀ name v, landed name = some (.ok v) → known v) {d : Deployment} (ok : I d) :
    p.Strides ends known missing (host.deeds service landed r d) (host.advance service landed r d).1 := by
  induction proceeds generalizing d with
  | ends is =>
    obtain ⟨deeds, ended⟩ := deeds_closing service landed _ _ d
    rw [deeds, ended]
    exact .of_stops (.ended is)
  | @act known a r plain _ ih =>
    refine .of_walks [.act a] (.act plain) (ih offers informed (offers.act d a ?_ ok))
    rintro name v rfl
    exact plain.elim
  | @run known v r is _ ih =>
    exact .of_walks [.act (.run v)] (.run is)
      (ih offers informed (offers.act d (.run v) (Act.ne_keep rfl) ok))
  | @miss known shown r _ ih =>
    have counted := offers.act _ (.count .miss) (Act.ne_keep rfl) (offers.act d (.miss shown) (Act.ne_keep rfl) ok)
    exact .of_walks [.act (.miss shown), .act (.count .miss)] (.miss shown) (ih offers informed counted)
  | @resolve known name path k from_ found fails ih ih' =>
    have awaits : p.Awaits ends known k := ⟨found, fails⟩
    have kept := offers.lookup d name ok
    have finds := offers.found d name
    have absent := offers.absent d name ok
    rw [resolveAt_onEnd]
    change p.Strides ends known missing (.lookup name (d.lookup service name).1 ::
      host.deeds service landed (p.resolved name path k (d.lookup service name).1) (d.lookup service name).2)
      (host.advance service landed (p.resolved name path k (d.lookup service name).1) (d.lookup service name).2).1
    generalize d.lookup service name = answer at kept finds absent ⊢
    obtain ⟨answer, d'⟩ := answer
    cases answer with
    | some v =>
      refine .of_walks [.lookup name (some v), .act (.count .hit)] (.hit name v) ?_
      exact ih known v le_rfl (finds v ok rfl) offers informed (offers.act d' (.count .hit) (Act.ne_keep rfl) kept)
    | none =>
      have missed := offers.act d' (.count .miss) (Act.ne_keep rfl) kept
      dsimp only [resolved]
      cases single : p.singleFlight with
      | true =>
        simp only [if_pos, Host.deeds, Host.advance]
        cases told : landed name with
        | none => exact .of_stops (.shares single from_ awaits (absent rfl))
        | some o =>
          have joined := offers.act _ (.note (.joined name)) (Act.ne_keep rfl) missed
          refine .of_walks [.lookup name none, .act (.count .miss), .join name] (.join single (absent rfl)) ?_
          cases o with
          | ok v => exact ih known v le_rfl (informed name v told) offers informed joined
          | error f => exact ih' known f le_rfl offers informed joined
      | false =>
        simp only [Bool.false_eq_true, if_false, load_eq, Routine.onEnd, Host.deeds, Host.advance]
        split
        · exact .of_stops (.held single from_ awaits (absent rfl))
        · exact .of_stops (.paused single from_ awaits (absent rfl))

end Pipeline

/-- Where a request stands that proceeds. -/
inductive Standing.Proceeds {β : Type} (p : Pipeline) (ends : List (Act Compiled) → Except Failure β → Prop)
    (known : Compiled → Prop) : Standing Compiled β → Prop where
  | fresh {r : Pipeline.Request β} (proceeds : p.Proceeds ends known r) : Proceeds p ends known (.fresh r)
  | held {name path : Text} {k : Except Failure Compiled → Pipeline.Request β} (alone : p.singleFlight = false)
      (from_ : path ∈ p.pathsOf name) (awaits : p.Awaits ends known k) :
      Proceeds p ends known (.held path fun source => (p.loaded name source).onEnd k)
  | passed {name path : Text} {k : Except Failure Compiled → Pipeline.Request β} (alone : p.singleFlight = false)
      (from_ : path ∈ p.pathsOf name) (awaits : p.Awaits ends known k) :
      Proceeds p ends known (.passed path fun source => (p.loaded name source).onEnd k)
  | paused {name path : Text} {k : Except Failure Compiled → Pipeline.Request β} (alone : p.singleFlight = false)
      (from_ : path ∈ p.pathsOf name) (awaits : p.Awaits ends known k) :
      Proceeds p ends known (.paused path fun source => (p.loaded name source).onEnd k)
  | waiting {l : Nat} {k : Except Failure Compiled → Pipeline.Request β} (shared : p.singleFlight = true)
      (awaits : p.Awaits ends known k) : Proceeds p ends known (.waiting l k)
  | landed {o : Except Failure Compiled} {k : Except Failure Compiled → Pipeline.Request β}
      (shared : p.singleFlight = true) (awaits : p.Awaits ends known k) (told : ∀ v, o = .ok v → known v) :
      Proceeds p ends known (.landed o k)
  | resumed {r : Pipeline.Request β} (proceeds : p.Proceeds ends known r) : Proceeds p ends known (.resumed r)
  | ended (o : Except Failure β) : Proceeds p ends known (.ended o)

/-- How a request takes up the answer that it was given. What it has loaded gets known to it. -/
inductive Standing.Leads {β : Type} (p : Pipeline) (known : Compiled → Prop) :
    Standing Compiled β → Bool → List (Deed Compiled) → (Compiled → Prop) → Prop where
  | fresh (r : Pipeline.Request β) : Leads p known (.fresh r) false [] known
  | passed (path : Text) (next : Except Failure Bytes → Pipeline.Request β) :
      Leads p known (.passed path next) true [] known
  | interrupted (path : Text) (next : Except Failure Bytes → Pipeline.Request β) :
      Leads p known (.paused path next) true [] known
  | fails (path : Text) (next : Except Failure Bytes → Pipeline.Request β) (answer : Except Failure Bytes) :
      Leads p known (.paused path next) false [.serve path answer] known
  | lands (path : Text) (next : Except Failure Bytes → Pipeline.Request β) {name : Text} {b : Bytes} {v : Compiled}
      (alone : p.singleFlight = false) (compiles : p.compiler.compile name b = .ok v) :
      Leads p known (.paused path next) false
        [.serve path (.ok b), .act (.note (.compiled name v.static)), .act (.count .compile), .act (.keep name v)]
        fun w => w = v ∨ known w
  | landed (o : Except Failure Compiled) (next : Except Failure Compiled → Pipeline.Request β) (c : Bool) :
      Leads p known (.landed o next) c [] known
  | resumed (r : Pipeline.Request β) (c : Bool) : Leads p known (.resumed r) c [] known

/-- The turn of a request that proceeds. One that was not begun may be dropped, and one that has passed the gate
begins its read. -/
inductive Standing.Turns {β : Type} (p : Pipeline) (ends : List (Act Compiled) → Except Failure β → Prop)
    (known : Compiled → Prop) (missing : Text → Prop) :
    Standing Compiled β → Bool → List (Deed Compiled) → Halt Compiled β → Prop where
  | dropped (r : Pipeline.Request β) : Turns p ends known missing (.fresh r) true [] (.ended (.error .cancelled))
  | begins {name path : Text} {k : Except Failure Compiled → Pipeline.Request β} (alone : p.singleFlight = false)
      (from_ : path ∈ p.pathsOf name) (awaits : p.Awaits ends known k) :
      Turns p ends known missing (.passed path fun source => (p.loaded name source).onEnd k) false [.begin path]
        (.paused path fun source => (p.loaded name source).onEnd k)
  | strides {st : Standing Compiled β} {c : Bool} {lead ds : List (Deed Compiled)} {more : Compiled → Prop}
      {halt : Halt Compiled β} (leads : st.Leads p known c lead more) (strides : p.Strides ends more missing ds halt) :
      Turns p ends known missing st c (lead ++ ds) halt

/-- What is known of the cache of a service while requests take their turns, as long as what they put there gets known
too. -/
structure Deployment.Supplies (p : Pipeline) (service : Nat) (missing : Text → Prop)
    (J : (Compiled → Prop) → Deployment → Prop) : Prop where
  offers : ∀ known, Offers service known missing (J known)
  serves : ∀ known d path, J known d → J known (d.serve path).2
  keeps : p.singleFlight = false → ∀ known d name v, J known d →
    J (fun w => w = v ∨ known w) (d.act service (.keep name v))

namespace Standing

variable {β : Type} {p : Pipeline} {ends : List (Act Compiled) → Except Failure β → Prop}
  {known more : Compiled → Prop} {missing : Text → Prop} {service : Nat}
  {J : (Compiled → Prop) → Deployment → Prop} {landed : Text → Option (Except Failure Compiled)}
  {st : Standing Compiled β} {c : Bool} {halt : Halt Compiled β} {d d' : Deployment}

theorem Proceeds.mono (proceeds : st.Proceeds p ends known) (le : known ≤ more) : st.Proceeds p ends more := by
  cases proceeds with
  | fresh proceeds => exact .fresh (proceeds.mono le)
  | held alone from_ awaits => exact .held alone from_ (awaits.mono le)
  | passed alone from_ awaits => exact .passed alone from_ (awaits.mono le)
  | paused alone from_ awaits => exact .paused alone from_ (awaits.mono le)
  | waiting shared awaits => exact .waiting shared (awaits.mono le)
  | landed shared awaits told => exact .landed shared (awaits.mono le) fun v is => le v (told v is)
  | resumed proceeds => exact .resumed (proceeds.mono le)
  | ended o => exact .ended o

/-- Who goes on at once, strides. -/
private theorem turns_of_leads (supplies : Supplies p service missing J)
    (informed : ∀ name v, landed name = some (.ok v) → known v) {lead : List (Deed Compiled)}
    (leads : st.Leads p known c lead more) (le : known ≤ more) {r : Pipeline.Request β}
    (proceeds : p.Proceeds ends more r) (ok : J more d)
    (goes : some (host.advance service landed r d) = some (halt, d')) :
    st.Turns p ends known missing c (lead ++ host.deeds service landed r d) halt := by
  have strides := proceeds.strides (supplies.offers more) (fun name v told => le v (informed name v told)) ok
  rw [Option.some.inj goes] at strides
  exact .strides leads strides

/-- **The turn of a request.** -/
theorem Proceeds.turn (supplies : Supplies p service missing J)
    (informed : ∀ name v, landed name = some (.ok v) → known v) (proceeds : st.Proceeds p ends known)
    (ok : J known d) (goes : host.turn service landed c st d = some (halt, d')) :
    st.Turns p ends known missing c (host.turnDeeds service landed c st d) halt := by
  cases proceeds with
  | @fresh r proceeds =>
    cases c with
    | true =>
      cases goes
      exact .dropped r
    | false => exact turns_of_leads supplies informed (.fresh r) le_rfl proceeds ok goes
  | held | waiting | ended => cases goes
  | @passed name path k alone from_ awaits =>
    cases c with
    | true => exact turns_of_leads supplies informed (.passed path _) le_rfl (awaits.fails _ _ le_rfl) ok goes
    | false =>
      cases goes
      exact .begins alone from_ awaits
  | @paused name path k alone from_ awaits =>
    cases c with
    | true => exact turns_of_leads supplies informed (.interrupted path _) le_rfl (awaits.fails _ _ le_rfl) ok goes
    | false =>
      have served := supplies.serves known d path ok
      change some (host.advance service landed ((p.loaded name (d.serve path).1).onEnd k) (d.serve path).2) = _ at goes
      change Turns p ends known missing _ _ (.serve path (d.serve path).1 ::
        host.deeds service landed ((p.loaded name (d.serve path).1).onEnd k) (d.serve path).2) _
      generalize d.serve path = answer at served goes ⊢
      obtain ⟨answer, e⟩ := answer
      cases compiles : answer.bind (p.compiler.compile name) with
      | error f =>
        rw [Pipeline.loaded_of_error compiles] at goes ⊢
        exact turns_of_leads supplies informed (.fails path _ answer) le_rfl (awaits.fails _ f le_rfl) served goes
      | ok v =>
        rw [Pipeline.loaded_of_ok compiles] at goes ⊢
        cases answer with
        | error f => cases compiles
        | ok b =>
          have offers := supplies.offers known
          have noted := offers.act e (.note (.compiled name v.static)) (Act.ne_keep rfl) served
          have counted := offers.act _ (.count .compile) (Act.ne_keep rfl) noted
          have kept := supplies.keeps alone known _ name v counted
          exact turns_of_leads supplies informed (.lands path _ alone compiles) (fun _ => .inr)
            (awaits.ok _ v (fun _ => .inr) (.inl rfl)) kept goes
  | @landed o k shared awaits told =>
    refine turns_of_leads supplies informed (.landed o k c) le_rfl ?_ ok goes
    cases c with
    | true => exact awaits.fails _ .cancelled le_rfl
    | false =>
      cases o with
      | ok v => exact awaits.ok _ v le_rfl (told v rfl)
      | error f => exact awaits.fails _ f le_rfl
  | @resumed r proceeds => exact turns_of_leads supplies informed (.resumed r c) le_rfl proceeds ok goes

/-- Where a request stops, it still proceeds. -/
theorem proceeds_of_stops {ds : List (Deed Compiled)} (stops : p.Stops ends known missing ds halt) (l : Nat) :
    (halt.standing l).Proceeds p ends known := by
  cases stops with
  | ended => exact .ended _
  | shares shared _ awaits _ => exact .waiting shared awaits
  | held alone from_ awaits _ => exact .held alone from_ awaits
  | paused alone from_ awaits _ => exact .paused alone from_ awaits

end Standing

/-- Where a load stands. -/
inductive Standing.OnLoad (p : Pipeline) (name path : Text) : Standing Compiled Compiled → Prop where
  | fresh : OnLoad p name path (.fresh (p.load name path))
  | held : OnLoad p name path (.held path (p.loaded name))
  | passed : OnLoad p name path (.passed path (p.loaded name))
  | paused : OnLoad p name path (.paused path (p.loaded name))
  | ended (o : Except Failure Compiled) : OnLoad p name path (.ended o)

/-- The turn of a load that was not cancelled. -/
inductive Standing.Loading (p : Pipeline) (name path : Text) :
    Standing Compiled Compiled → List (Deed Compiled) → Halt Compiled Compiled → Prop where
  | holds : Loading p name path (.fresh (p.load name path))
      [.act (.note (.fetching name path)), .act (.count .fetch)] (.held path (p.loaded name))
  | pauses : Loading p name path (.fresh (p.load name path))
      [.act (.note (.fetching name path)), .act (.count .fetch), .begin path] (.paused path (p.loaded name))
  | begins : Loading p name path (.passed path (p.loaded name)) [.begin path] (.paused path (p.loaded name))
  | fails (answer : Except Failure Bytes) (f : Failure) : Loading p name path (.paused path (p.loaded name))
      [.serve path answer] (.ended (.error f))
  | lands {b : Bytes} {v : Compiled} (compiles : p.compiler.compile name b = .ok v) :
      Loading p name path (.paused path (p.loaded name))
        [.serve path (.ok b), .act (.note (.compiled name v.static)), .act (.count .compile), .act (.keep name v)]
        (.ended (.ok v))

/-- **The turn of a load.** -/
theorem Standing.OnLoad.turn {p : Pipeline} {name path : Text} {service : Nat}
    {landed : Text → Option (Except Failure Compiled)} {st : Standing Compiled Compiled}
    {halt : Halt Compiled Compiled} {d d' : Deployment} (onLoad : st.OnLoad p name path)
    (goes : host.turn service landed false st d = some (halt, d')) :
    st.Loading p name path (host.turnDeeds service landed false st d) halt := by
  cases onLoad with
  | held | ended => cases goes
  | fresh =>
    have runs := Option.some.inj goes
    simp only [Pipeline.load_eq, Host.advance] at runs
    simp only [Host.turnDeeds, Bool.false_eq_true, if_false, Pipeline.load_eq, Host.deeds]
    split at runs
    · next held =>
      rw [if_pos held]
      cases runs
      exact .holds
    · next open_ =>
      rw [if_neg open_]
      cases runs
      exact .pauses
  | passed =>
    cases goes
    exact .begins
  | paused =>
    have runs := Option.some.inj goes
    change host.advance service landed (p.loaded name (d.serve path).1) (d.serve path).2 = _ at runs
    change Loading p name path _ (.serve path (d.serve path).1 ::
      host.deeds service landed (p.loaded name (d.serve path).1) (d.serve path).2) _
    generalize d.serve path = answer at runs ⊢
    obtain ⟨answer, e⟩ := answer
    cases compiles : answer.bind (p.compiler.compile name) with
    | error f =>
      rw [Pipeline.loaded_of_error compiles] at runs ⊢
      cases runs
      exact .fails answer f
    | ok v =>
      rw [Pipeline.loaded_of_ok compiles] at runs ⊢
      cases answer with
      | error f => cases compiles
      | ok b =>
        cases runs
        exact .lands compiles

end Stencil
