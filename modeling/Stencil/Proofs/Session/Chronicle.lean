import Stencil.Proofs.Schedule.Deeds
import Stencil.Proofs.Session.Failures

/-!
# The chronicle of a run

Caches and the storage can be used directly, apart from the services, and the files of a storage can be changed. The
chronicle of a run puts on record what jobs do and which direct uses are made, in order. What is counted in a
deployment is what the chronicle tells.

## Main definitions

- `Session.Happening` — an incident, a direct use of a cache or of the storage, or a change of its files
- `Session.undergo` — a session after many of these
- `Session.Line`, `Session.chronicle` — what is put on record

## Main results

- `Session.chronicle_keeps` — what each part of a run keeps is kept by the run
- `Session.chronicle_shows` — what a deployment shows is what the chronicle makes of it
-/

namespace Stencil

open Deployment

namespace Deployment

/-- Whatever is done leaves the services and what is stored as they are. -/
theorem frame_effect (service : Nat) (deed : Deed Compiled) (d : Deployment) :
    d.Frame (host.effect service deed d) := by
  cases deed with
  | lookup name found => exact d.frame_lookup service name
  | act a => exact d.frame_act service a
  | join name => exact d.frame_act service (.note (.joined name))
  | begin path => exact d.frame_beginRead path
  | serve path answer => exact d.frame_serve path

theorem frame_effects (service : Nat) (ds : List (Deed Compiled)) (d : Deployment) :
    d.Frame (ds.foldl (fun x deed => host.effect service deed x) d) := by
  induction ds generalizing d with
  | nil => exact .refl d
  | cons deed ds ih => exact (frame_effect service deed d).trans (ih _)

end Deployment

namespace Session

/-- What happens to a session that is not the only one to use its caches and its storage. -/
inductive Happening where
  | incident (i : Incident)
  /-- A name is looked up in the cache of a service. -/
  | get (service : Nat) (name : Text)
  /-- A path is read. -/
  | read (path : Text)
  /-- The files of the storage change. -/
  | edit (f : FileTree → FileTree)

def Happening.events (s : Session) : Happening → List (Event Deployment Compiled Bytes)
  | incident i => i.events s
  | get service name => [.update fun d => (d.lookup service name).2]
  | read path => [.update fun d => ((d.beginRead path).serve path).2]
  | edit f => [.update fun d => d.updateFiles f]

/-- How a happening changes a deployment by itself, and not by the jobs. -/
inductive Happening.Effect (d : Deployment) : Happening → Deployment → Prop
  | incident {i : Incident} {d' : Deployment} (effect : i.Effect d d') : Effect d (.incident i) d'
  | get (service : Nat) (name : Text) : Effect d (.get service name) (d.lookup service name).2
  | read (path : Text) : Effect d (.read path) ((d.beginRead path).serve path).2
  | edit (f : FileTree → FileTree) : Effect d (.edit f) (d.updateFiles f)

/-- A line of the chronicle. -/
inductive Line where
  | deed (e : Entry Compiled)
  /-- A name was looked up in a cache directly, and found or not. -/
  | got (cache : Nat) (found : Bool)
  /-- The storage was read directly. -/
  | read

/-- The direct uses that are made. -/
def Happening.uses (d : Deployment) : Happening → List Line
  | get service name =>
    match d.roster[service]? with
    | some (_, cache) => [.got cache (d.lookup service name).1.isSome]
    | none => []
  | read _ => [.read]
  | incident _ | edit _ => []

def happen (s : Session) (a : Happening) : Session :=
  s.play host (a.events s)

/-- A session after all of these, in this order. -/
def undergo (s : Session) (as : List Happening) : Session :=
  as.foldl happen s

/-- What one happening puts on record. -/
def lines (s : Session) (a : Happening) : List Line :=
  (s.record host (a.events s)).map .deed ++ a.uses s.state

/-- The chronicle of a run. -/
def chronicle (s : Session) : List Happening → List Line
  | [] => []
  | a :: as => s.lines a ++ (s.happen a).chronicle as

theorem undergo_append (s : Session) (as bs : List Happening) :
    s.undergo (as ++ bs) = (s.undergo as).undergo bs :=
  List.foldl_append

theorem chronicle_append (s : Session) (as bs : List Happening) :
    s.chronicle (as ++ bs) = s.chronicle as ++ (s.undergo as).chronicle bs := by
  induction as generalizing s with
  | nil => rfl
  | cons a as ih =>
    rw [List.cons_append, chronicle, chronicle, ih, List.append_assoc]
    rfl

/-- What jobs do at an event, or what is done to them. -/
inductive Admits (s : Session) : Event Deployment Compiled Bytes → Prop where
  | step : Admits s .step
  | submit (service : Nat) (r : Request) : Admits s (.submit service (s.routine service r))
  | start (service : Nat) (r : Request) : Admits s (.start service (s.routine service r))
  | cancel {id service : Nat} {st : Standing Compiled Bytes} {c : Bool}
      (at_ : s.job? id = some ⟨service, .request st, c⟩) : Admits s (.cancel id)
  | openGate : Admits s .openGate

theorem Admits.inside {s : Session} {e : Event Deployment Compiled Bytes} (admits : s.Admits e) :
    ∀ f, e ≠ .update f := by
  rintro f rfl
  cases admits

/-- Only requests are cancelled. -/
theorem Admits.request {s : Session} {e : Event Deployment Compiled Bytes} {id : Nat} (admits : s.Admits e)
    (is : e = .cancel id) : ∃ service st c, s.job? id = some ⟨service, .request st, c⟩ := by
  subst is
  cases admits with
  | cancel at_ => exact ⟨_, _, _, at_⟩

/-- A happening comes to an event, or it changes the deployment; then the gate may be opened. -/
inductive Comes (s : Session) (a : Happening) : Session → List Line → Prop where
  | nothing : Comes s a s []
  | event {e : Event Deployment Compiled Bytes} (admits : s.Admits e) :
      Comes s a (s.after host e) ((s.entries host e).map .deed)
  | change {d : Deployment} (effect : a.Effect s.state d) : Comes s a { s with state := d } (a.uses s.state)
  | release {d : Deployment} (effect : a.Effect s.state d) :
      Comes s a (Scheduler.openGate { s with state := d }) (a.uses s.state)

theorem happen_of_event {s : Session} {a : Happening} {e : Event Deployment Compiled Bytes}
    (events : a.events s = [e]) (unused : a.uses s.state = []) :
    s.happen a = s.after host e ∧ s.lines a = (s.entries host e).map .deed := by
  rw [happen, lines, events, unused, List.append_nil, Scheduler.record, Scheduler.record, List.append_nil]
  exact ⟨rfl, rfl⟩

/-- An incident comes to nothing, to one event, or to a change of the deployment; then the gate may be opened. -/
inductive Incident.Comes (s : Session) (i : Incident) : List (Event Deployment Compiled Bytes) → Prop where
  | nothing : Comes s i []
  | event {e : Event Deployment Compiled Bytes} (admits : s.Admits e)
      (asks : ∀ service routine, e = .submit service routine ∨ e = .start service routine →
        ∃ op r, i = .operation op ∧ op.Asks service r ∧ routine = s.routine service r) : Comes s i [e]
  | change (f : Deployment → Deployment) (effect : i.Effect s.state (f s.state)) : Comes s i [.update f]
  | release (f : Deployment → Deployment) (effect : i.Effect s.state (f s.state)) : Comes s i [.update f, .openGate]

theorem Incident.comes (s : Session) (i : Incident) : i.Comes s (i.events s) := by
  cases i with
  | failing f => exact .change _ (.failing f)
  | operation op =>
    cases op with
    | step => exact .event .step fun _ _ is => by simp at is
    | submit service r =>
      refine .event (.submit service r) fun other routine is => ⟨.submit service r, r, rfl, ?_⟩
      obtain ⟨rfl, rfl⟩ : service = other ∧ s.routine service r = routine := by simpa using is
      exact ⟨.inl rfl, rfl⟩
    | start service r =>
      refine .event (.start service r) fun other routine is => ⟨.start service r, r, rfl, ?_⟩
      obtain ⟨rfl, rfl⟩ : service = other ∧ s.routine service r = routine := by simpa using is
      exact ⟨.inr rfl, rfl⟩
    | cancel id =>
      rw [Incident.events, Operation.events]
      split
      · next at_ => exact .event (.cancel at_) fun _ _ is => by simp at is
      · exact .nothing
    | invalidate service name => exact .change _ (.operation (.invalidate service name))
    | clear service => exact .change _ (.operation (.clear service))
    | add path content => exact .change _ (.operation (.add path content))
    | remove path => exact .change _ (.operation (.remove path))
    | hold => exact .change _ (.operation .hold)
    | release => exact .release _ (.operation .release)

theorem comes (s : Session) (a : Happening) : s.Comes a (s.happen a) (s.lines a) := by
  cases a with
  | get service name => exact .change (.get service name)
  | read path => exact .change (.read path)
  | edit f => exact .change (.edit f)
  | incident i =>
    have comes := i.comes s
    change s.Comes _ (s.play host (i.events s)) ((s.record host (i.events s)).map .deed ++ [])
    generalize i.events s = es at comes
    rw [List.append_nil]
    cases comes with
    | nothing => exact .nothing
    | event admits =>
      rw [Scheduler.record, Scheduler.record, List.append_nil]
      exact .event admits
    | change f effect => exact .change (.incident effect)
    | release f effect => exact .release (.incident effect)

/-- **What each part of a run keeps is kept by the run**: what the jobs do at an event, and what is changed apart
from them. -/
theorem chronicle_keeps {Q : Session → List Line → Prop} {s : Session} (begun : Q s []) (as : List Happening)
    (inside : ∀ t ls e, t.Admits e → Q t ls → Q (t.after host e) (ls ++ (t.entries host e).map .deed))
    (outside : ∀ t ls a d, a ∈ as → a.Effect t.state d → Q t ls → Q { t with state := d } (ls ++ a.uses t.state)) :
    Q (s.undergo as) (s.chronicle as) := by
  suffices kept : ∀ t ls, Q t ls → Q (t.undergo as) (ls ++ t.chronicle as) from kept s [] begun
  induction as with
  | nil =>
    intro t ls holds
    rw [chronicle, List.append_nil]
    exact holds
  | cons a as ih =>
    intro t ls holds
    rw [chronicle, ← List.append_assoc]
    refine ih (fun t ls b d mem => outside t ls b d (List.mem_cons_of_mem _ mem)) _ _ ?_
    have comes := t.comes a
    generalize t.happen a = u, t.lines a = new at comes
    cases comes with
    | nothing => rwa [List.append_nil]
    | event admits => exact inside t ls _ admits holds
    | change effect => exact outside t ls a _ List.mem_cons_self effect holds
    | release effect =>
      have changed := outside t ls a _ List.mem_cons_self effect holds
      have opened := inside _ _ _ .openGate changed
      rwa [show (Scheduler.entries host _ _ : List (Entry Compiled)) = [] from rfl, List.map_nil,
        List.append_nil] at opened

/-- What a line makes of what a deployment shows: a deed what deeds make, and a direct use something else. -/
def Line.tell {τ : Type} (f : Nat → τ → Deed Compiled → τ) (g : τ → Line → τ) (x : τ) : Line → τ
  | deed e => f e.service x e.deed
  | got cache found => g x (.got cache found)
  | read => g x .read

/-- **What a deployment shows** is what the chronicle makes of what it showed at first. -/
theorem chronicle_shows {τ : Type} {I : Deployment → Prop} {X : Deployment → τ} {f : Nat → τ → Deed Compiled → τ}
    {g : τ → Line → τ} (shows : host.Shows I X f) {s : Session} (ok : I s.state) (as : List Happening)
    (outside : ∀ d a d', a ∈ as → a.Effect d d' → I d →
      I d' ∧ X d' = (a.uses d).foldl (Line.tell f g) (X d)) :
    I (s.undergo as).state ∧ X (s.undergo as).state = (s.chronicle as).foldl (Line.tell f g) (X s.state) := by
  refine chronicle_keeps (Q := fun t ls => I t.state ∧ X t.state = ls.foldl (Line.tell f g) (X s.state))
    ⟨ok, rfl⟩ as (fun t ls e admits ⟨ok, same⟩ => ?_) fun t ls a d mem effect ⟨ok, same⟩ => ?_
  · obtain ⟨ok', same'⟩ := shows.after admits.inside ok
    refine ⟨ok', ?_⟩
    rw [List.foldl_append, ← same, List.foldl_map]
    exact same'
  · obtain ⟨ok', same'⟩ := outside t.state a d mem effect ok
    refine ⟨ok', ?_⟩
    rw [List.foldl_append, ← same]
    exact same'

end Session

end Stencil
