import Stencil.Proofs.Session.Chronicle
import Stencil.Proofs.Session.Turns

/-!
# Jobs in the service of requests

All jobs of a session are requests to its services and loads for them. What a job does at its turn depends on where
it stands, and on nothing else.

## Main definitions

- `Work.InService` — a request to a service, or a load for it
- `Standing.Stirs` — what such a job does at its turn
- `Session.InService` — all jobs of a session are of this kind

## Main results

- `Work.InService.stirs` — the turn of a job
- `Session.InService.after` — all jobs stay of this kind
-/

namespace Stencil

open Deployment

variable {services : List (Pipeline × Nat)} {asked : Nat → Request → Prop}

/-- What a request does last. -/
def Request.Ends (r : Request) (acts : List (Act Compiled)) (o : Except Failure Bytes) : Prop :=
  acts = r.closing o

/-- Nothing is said of what is known, or missing. -/
def anyone {τ : Type} (_ : τ) : Prop := True

/-- The job of a number is a request to one of the services, and to which it was `asked`, or it is a load for one of
them. Loads are not cancelled. -/
inductive Work.InService (services : List (Pipeline × Nat)) (asked : Nat → Request → Prop) (id service : Nat) :
    Work Compiled Bytes → Bool → Prop where
  | request {p : Pipeline} {k : Nat} {r : Request} {st : Standing Compiled Bytes} {c : Bool}
      (served : services[service]? = some (p, k)) (asks : asked id r) (proceeds : st.Proceeds p r.Ends anyone) :
      InService services asked id service (.request st) c
  /-- A request to no service. -/
  | lost {f : Failure} (c : Bool) (unserved : services[service]? = none) (other : f.kind.isTemplate = false) :
      InService services asked id service (.request (.fresh (.fail f))) c
  | refused {f : Failure} (c : Bool) (unserved : services[service]? = none) (other : f.kind.isTemplate = false) :
      InService services asked id service (.request (.ended (.error f))) c
  | load {p : Pipeline} {k : Nat} {name path : Text} {st : Standing Compiled Compiled} {waiters : List Nat}
      (served : services[service]? = some (p, k)) (shared : p.singleFlight = true) (from_ : path ∈ p.pathsOf name)
      (onLoad : st.OnLoad p name path) : InService services asked id service (.load name st waiters) false

/-- What a job does at its turn, and where it stops. -/
inductive Standing.Stirs (services : List (Pipeline × Nat)) (asked : Nat → Request → Prop) (missing : Text → Prop)
    (id service : Nat) : {β : Type} → (Standing Compiled β → Work Compiled Bytes) → Standing Compiled β → Bool →
      List (Deed Compiled) → Halt Compiled β → Prop where
  | request {p : Pipeline} {k : Nat} {r : Request} {st : Standing Compiled Bytes} {c : Bool}
      {ds : List (Deed Compiled)} {halt : Halt Compiled Bytes} (served : services[service]? = some (p, k))
      (asks : asked id r) (turns : st.Turns p r.Ends anyone missing c ds halt) :
      Stirs services asked missing id service .request st c ds halt
  | lost {g : Failure} (f : Failure) (c : Bool) (unserved : services[service]? = none)
      (other : g.kind.isTemplate = false) :
      Stirs services asked missing id service .request (.fresh (.fail f)) c [] (.ended (.error g))
  | load {p : Pipeline} {k : Nat} {name path : Text} {st : Standing Compiled Compiled} {waiters : List Nat}
      {ds : List (Deed Compiled)} {halt : Halt Compiled Compiled} (served : services[service]? = some (p, k))
      (shared : p.singleFlight = true) (from_ : path ∈ p.pathsOf name) (loading : st.Loading p name path ds halt) :
      Stirs services asked missing id service (fun st => .load name st waiters) st false ds halt

/-- What is known of the names that are missing in the cache of a service, while requests take their turns. -/
structure Deployment.Lacks (p : Pipeline) (service : Nat) (missing : Text → Prop) (J : Deployment → Prop) : Prop where
  lookup : ∀ d name, J d → J (d.lookup service name).2
  act : ∀ d a, (∀ name v, a = .keep name v → p.singleFlight = false) → J d → J (d.act service a)
  serve : ∀ d path, J d → J (d.serve path).2
  absent : ∀ d name, J d → (d.lookup service name).1 = none → missing name

theorem Deployment.lacks_anyone (p : Pipeline) (service : Nat) : Lacks p service anyone anyone where
  lookup _ _ _ := trivial
  act _ _ _ _ := trivial
  serve _ _ _ := trivial
  absent _ _ _ _ := trivial

theorem Deployment.Lacks.supplies {p : Pipeline} {service : Nat} {missing : Text → Prop} {J : Deployment → Prop}
    (lacks : Lacks p service missing J) : Supplies p service missing fun known d => (∀ v, known v) ∧ J d where
  offers _ := {
    lookup := fun d name ok => ⟨ok.1, lacks.lookup d name ok.2⟩
    act := fun d a other ok => ⟨ok.1, lacks.act d a (fun name v is => absurd is (other name v)) ok.2⟩
    found := fun _ _ v ok _ => ok.1 v
    absent := fun d name ok => lacks.absent d name ok.2 }
  serves _ d path ok := ⟨ok.1, lacks.serve d path ok.2⟩
  keeps alone _ d _ _ ok := ⟨fun w => .inr (ok.1 w), lacks.act d _ (fun _ _ _ => alone) ok.2⟩

namespace Work.InService

variable {β : Type} {s t : Session} {e : Event Deployment Compiled Bytes} {id service : Nat}
  {wrap : Standing Compiled β → Work Compiled Bytes} {st : Standing Compiled β} {c : Bool}
  {halt : Halt Compiled β} {d : Deployment}

/-- **The turn of a job.** -/
theorem stirs (inService : (wrap st).InService services asked id service c) {missing : Text → Prop}
    {J : Deployment → Prop}
    (lacks : ∀ p k, services[service]? = some (p, k) → Lacks p service missing J) (ok : J s.state)
    (move : s.Move host e t id service wrap st c halt d) :
    st.Stirs services asked missing id service wrap c
      (host.turnDeeds service (s.landed? service) c st s.state) halt := by
  obtain ⟨_, seat, _, goes⟩ := move
  cases seat with
  | request =>
    cases inService with
    | @request p k r _ _ served asks proceeds =>
      exact .request served asks
        (proceeds.turn (lacks p k served).supplies (fun _ _ _ => trivial) ⟨fun _ => trivial, ok⟩ goes)
    | @lost f _ unserved other =>
      cases c with
      | true =>
        cases goes
        exact .lost f true unserved rfl
      | false =>
        cases goes
        exact .lost f false unserved other
    | refused => cases goes
  | load name waiters =>
    cases inService with
    | load served shared from_ onLoad => exact .load served shared from_ (onLoad.turn goes)

end Work.InService

namespace Standing.Stirs

variable {β : Type} {missing : Text → Prop} {id service : Nat} {wrap : Standing Compiled β → Work Compiled Bytes}
  {st : Standing Compiled β} {c : Bool} {ds : List (Deed Compiled)} {halt : Halt Compiled β}

theorem inService (stirs : st.Stirs services asked missing id service wrap c ds halt) (l : Nat) :
    (wrap (halt.standing l)).InService services asked id service false := by
  cases stirs with
  | @request p k r _ _ _ _ served asks turns =>
    refine .request served asks ?_
    cases turns with
    | dropped => exact .ended _
    | begins alone from_ awaits => exact .paused alone from_ awaits
    | strides leads strides =>
      obtain ⟨_, _, _, _, stops⟩ := strides
      exact (proceeds_of_stops stops l).mono fun _ _ => trivial
  | lost f c unserved other => exact .refused false unserved other
  | load served shared from_ loading =>
    refine .load served shared from_ ?_
    cases loading with
    | holds => exact .held
    | pauses => exact .paused
    | begins => exact .paused
    | fails | lands => exact .ended _

end Standing.Stirs

namespace Session

variable {s : Session} {e : Event Deployment Compiled Bytes}

/-- All jobs are requests to the services or loads for them. -/
structure InService (services : List (Pipeline × Nat)) (asked : Nat → Request → Prop) (s : Session) : Prop where
  roster : s.state.roster = services
  jobs : ∀ id job, s.job? id = some job → job.work.InService services asked id job.service job.cancelling

/-- What an event brings is what the next job is asked for. -/
def Brings (asked : Nat → Request → Prop) (s : Session) (e : Event Deployment Compiled Bytes) : Prop :=
  ∀ service routine, e = .submit service routine ∨ e = .start service routine →
    ∃ r, routine = s.routine service r ∧ asked s.jobs.length r

/-- What a job asks to have loaded is a load of its service. -/
theorem starts_inService (roster : s.state.roster = services) {t : Session} {id service : Nat} {β : Type}
    {wrap : Standing Compiled β → Work Compiled Bytes} {st : Standing Compiled β} {c : Bool} {name path : Text}
    {next : Except Failure Compiled → Pipeline.Request β} {d : Deployment} {ds : List (Deed Compiled)}
    {missing : Text → Prop} (move : s.Move host e t id service wrap st c (.sharing name path next) d)
    (stirs : st.Stirs services asked missing id service wrap c ds (.sharing name path next)) :
    ∃ p k, services[service]? = some (p, k) ∧ p.singleFlight = true ∧ path ∈ p.pathsOf name ∧ missing name ∧
      host.load service name path d = p.load name path := by
  cases stirs with
  | @request p k r _ _ _ _ served asks turns =>
    cases turns with
    | strides leads strides =>
      obtain ⟨_, _, _, _, stops⟩ := strides
      cases stops with
      | shares shared from_ awaits absent =>
        have frame : s.state.Frame d := by
          rw [Host.turn_deeds move.goes]
          exact frame_effects _ _ _
        exact ⟨p, k, served, shared, from_, absent, load_of_served (frame.roster.trans roster ▸ served) name path⟩
  | load served shared from_ loading => cases loading

/-- Whatever is changed apart from the jobs leaves the services as they are. -/
theorem Happening.Effect.roster {a : Happening} {d d' : Deployment} (effect : a.Effect d d') : d'.roster = d.roster := by
  cases effect with
  | incident effect => exact effect.keeps.1
  | get service name => exact (frame_lookup _ _ _).roster
  | read path => exact ((frame_beginRead _ _).trans (frame_serve _ _)).roster
  | edit f =>
    rw [Deployment.updateFiles]
    split <;> rfl

namespace InService

theorem carries (inService : s.InService services asked) (admits : s.Admits e) (brings : s.Brings asked e) :
    s.Carries host e (Work.InService services asked) (Work.InService services asked) where
  rests := by
    intro id service w w' c same holds
    cases holds with
    | request served asks proceeds =>
      rw [Work.bare_eq_request.mp same]
      exact .request served asks proceeds
    | lost c unserved other =>
      rw [Work.bare_eq_request.mp same]
      exact .lost c unserved other
    | refused c unserved other =>
      rw [Work.bare_eq_request.mp same]
      exact .refused c unserved other
    | load served shared from_ onLoad =>
      cases w' with
      | request st => cases same
      | load name st waiters =>
        cases same
        exact .load served shared from_ onLoad
  acts l move holds _ := (holds.stirs (fun p k _ => lacks_anyone p _) trivial move).inService l
  starts move holds _ _ := by
    have stirs := holds.stirs (fun p k _ => lacks_anyone p _) trivial move
    obtain ⟨p, k, served, shared, from_, _, loads⟩ := starts_inService inService.roster move stirs
    rw [loads]
    exact .load served shared from_ .fresh
  told seat at_l lands holds := by
    cases seat with
    | request =>
      cases holds with
      | request served asks proceeds =>
        cases proceeds with
        | waiting shared awaits => exact .request served asks (.landed shared awaits fun _ _ => trivial)
    | load name waiters =>
      cases holds with
      | load served shared from_ onLoad => cases onLoad
  passes seat holds := by
    cases seat with
    | request =>
      cases holds with
      | request served asks proceeds =>
        cases proceeds with
        | held alone from_ awaits => exact .request served asks (.passed alone from_ awaits)
    | load name waiters =>
      cases holds with
      | load served shared from_ onLoad =>
        cases onLoad
        exact .load served shared from_ .passed
  interrupted seat is at_ goes holds := by
    obtain ⟨_, _, _, at_'⟩ := admits.request is
    have same := Option.some.inj (at_.symm.trans at_')
    cases seat with
    | load name waiters => cases same
    | request =>
      cases holds with
      | lost | refused => cases goes
      | request served asks proceeds =>
        refine .request served asks ?_
        cases proceeds with
        | held alone from_ awaits =>
          cases goes
          exact .resumed (awaits.fails _ .cancelled le_rfl)
        | waiting shared awaits =>
          cases goes
          exact .resumed (awaits.fails _ _ le_rfl)
        | fresh | passed | paused | landed | resumed | ended => cases goes
  flagged is at_ holds := by
    obtain ⟨_, _, _, at_'⟩ := admits.request is
    have same := congrArg Job.work (Option.some.inj (at_.symm.trans at_'))
    cases holds with
    | request served asks proceeds => exact .request served asks proceeds
    | lost c unserved other => exact .lost true unserved other
    | refused c unserved other => exact .refused true unserved other
    | load => cases same
  answered _ is _ := by
    subst is
    cases admits
  brings := by
    intro service r is
    have routine (r : Request) (asks : asked s.jobs.length r) :
        Work.InService services asked s.jobs.length service (.request (.fresh (s.routine service r))) false := by
      cases served : services[service]? with
      | none =>
        have unserved := served
        rw [← inService.roster, roster_getElem?, Option.map_eq_none_iff] at unserved
        rw [Session.routine, unserved]
        exact .lost false served rfl
      | some found =>
        obtain ⟨p, k⟩ := found
        rw [routine_of_served inService.roster served]
        exact .request served asks (.fresh (r.proceeds p fun _ _ => trivial))
    obtain ⟨r, rfl, asks⟩ := brings service r is
    exact routine r asks

/-- What the job does whose turn it is. -/
theorem stirs (inService : s.InService services asked) (admits : s.Admits e) (brings : s.Brings asked e)
    {missing : Text → Prop} {J : Deployment → Prop} {t : Session} {id service : Nat} {β : Type}
    {wrap : Standing Compiled β → Work Compiled Bytes} {st : Standing Compiled β} {c : Bool} {halt : Halt Compiled β}
    {d : Deployment} (lacks : ∀ p k, services[service]? = some (p, k) → Lacks p service missing J) (ok : J s.state)
    (move : s.Move host e t id service wrap st c halt d) :
    st.Stirs services asked missing id service wrap c (host.turnDeeds service (s.landed? service) c st s.state) halt :=
  ((inService.carries admits brings).summoned inService.jobs move.summons move.at_).stirs lacks ok move

/-- **All jobs stay in the service of requests.** -/
theorem after (inService : s.InService services asked) (admits : s.Admits e) (brings : s.Brings asked e) :
    InService services asked (s.after host e) where
  roster := by
    obtain rests | move := s.after_passing host e
    · obtain same | ⟨f, is, _⟩ := rests.state
      · rw [same, inService.roster]
      · exact absurd is (admits.inside f)
    · rw [move.state, move.entries, List.foldl_map]
      exact (frame_effects _ _ _).roster.trans inService.roster
  jobs := (inService.carries admits brings).jobs inService.jobs

/-- What is changed apart from the jobs leaves them in service. -/
theorem change (inService : s.InService services asked) {a : Happening} {d : Deployment}
    (effect : a.Effect s.state d) : InService services asked { s with state := d } where
  roster := effect.roster.trans inService.roster
  jobs := inService.jobs

end InService

theorem inService_start (d : Deployment) : (start d).InService d.roster asked :=
  ⟨rfl, fun _ _ => nofun⟩

theorem InService.mono {asked' : Nat → Request → Prop} (inService : s.InService services asked)
    (le : ∀ id r, id < s.jobs.length → asked id r → asked' id r) : s.InService services asked' where
  roster := inService.roster
  jobs id job at_ := by
    have lt := Scheduler.lt_of_job? at_
    have holds := inService.jobs id job at_
    obtain ⟨service, work, c⟩ := job
    cases holds with
    | request served asks proceeds => exact .request served (le id _ lt asks) proceeds
    | lost c unserved other => exact .lost c unserved other
    | refused c unserved other => exact .refused c unserved other
    | load served shared from_ onLoad => exact .load served shared from_ onLoad

/-- **In every run all jobs are in the service of requests**, and so is kept what is kept as long as they are. -/
theorem InService.undergo {Q : Session → List Line → Prop} (inService : s.InService services asked)
    (open_ : ∀ id r, s.jobs.length ≤ id → asked id r) (begun : Q s []) (as : List Happening)
    (inside : ∀ t ls e, t.InService services asked → t.Admits e → t.Brings asked e → Q t ls →
      Q (t.after host e) (ls ++ (t.entries host e).map .deed))
    (outside : ∀ t ls a d, a ∈ as → a.Effect t.state d → Q t ls →
      Q { t with state := d } (ls ++ a.uses t.state)) :
    (s.undergo as).InService services asked ∧ Q (s.undergo as) (s.chronicle as) := by
  have kept := chronicle_keeps
    (Q := fun t ls => t.InService services asked ∧ s.jobs.length ≤ t.jobs.length ∧ Q t ls)
    ⟨inService, le_rfl, begun⟩ as ?_ ?_
  · exact ⟨kept.1, kept.2.2⟩
  · intro t ls e admits ⟨served, grown, holds⟩
    have brings : t.Brings asked e := by
      rintro service routine (rfl | rfl)
      · cases admits with
        | submit service r => exact ⟨r, rfl, open_ _ r grown⟩
      · cases admits with
        | start service r => exact ⟨r, rfl, open_ _ r grown⟩
    refine ⟨served.after admits brings, ?_, inside t ls e served admits brings holds⟩
    exact grown.trans (Scheduler.length_le_play host t [e])
  · intro t ls a d mem effect ⟨served, grown, holds⟩
    exact ⟨served.change effect, grown, outside t ls a d mem effect holds⟩

/-- **All jobs are in the service of requests** after every run. -/
theorem InService.lasts (inService : s.InService services fun _ _ => True) (as : List Happening) :
    (s.undergo as).InService services fun _ _ => True :=
  (inService.undergo (Q := fun _ _ => True) (fun _ _ _ => trivial) trivial as (fun _ _ _ _ _ _ _ => trivial)
    fun _ _ _ _ _ _ _ => trivial).1

end Session

end Stencil
