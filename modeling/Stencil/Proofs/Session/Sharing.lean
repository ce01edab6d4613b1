import Stencil.Proofs.Pipeline.Rendition
import Stencil.Proofs.Session.Failures
import Stencil.Proofs.Session.Invalidate
import Stencil.Proofs.Session.Transparent

/-!
# Services that share a cache

What a request finds in the cache of its service may have been compiled by another one. That makes no
difference while the storage stays as it is, unless it was compiled with other options and carries its
executable form.

## Main definitions

- `Compiler.Agrees` — compilers with the same options, apart from their mode and their encoding
- `Pipeline.Shares` — what a name may resolve to for a service that shares its cache
- `Session.alone` — a service on its own
- `Session.unchanging` — the regime of several services over a storage that stays as it is
- `Pipeline.compiling` — a pipeline with a compiler in static or in dynamic mode
- `Session.ModesAgree` — what a request comes to in both modes

## Main results

- `Session.settles_unchanging`
- `Session.neighbours_invisible`
- `Session.modes_agree`
-/

namespace Stencil

namespace Compiler

/-- Compilers with the same options, apart from their mode and their encoding. -/
structure Agrees (c d : Compiler) : Prop where
  autoEscape : c.autoEscape = d.autoEscape
  strictUndefined : c.strictUndefined = d.strictUndefined
  spacing : c.spacing = d.spacing

/-- Compilers that agree give a source the same executable form. -/
theorem Agrees.program {c d : Compiler} (agrees : c.Agrees d) : c.program = d.program := by
  funext name source
  rw [Compiler.program, Compiler.program, switches, switches, agrees.autoEscape, agrees.strictUndefined,
    agrees.spacing]

end Compiler

namespace Pipeline

/-- What a name may resolve to for a service that shares its cache: what it has compiled itself from
these contents, or what another one has. -/
def Shares (services : List (Pipeline × Nat)) (p : Pipeline) (k : Nat) (c : Contents) (name : Text)
    (o : Except Failure Compiled) : Prop :=
  o = p.resolution c name ∨ ∃ (service : Nat) (q : Pipeline) (v : Compiled),
    services[service]? = some (q, k) ∧ q.resolution c name = .ok v ∧ o = .ok v

/-- What services compile that agree where it matters has one executable form. -/
theorem program?_of_shares {services : List (Pipeline × Nat)} {p : Pipeline} {k : Nat} {c : Contents}
    (alike : ∀ (service : Nat) (q : Pipeline), services[service]? = some (q, k) →
      q.templateDir = p.templateDir ∧ q.compiler.encoding = p.compiler.encoding ∧
      (q.compiler.static = true → q.compiler.Agrees p.compiler))
    (name : Text) (o : Except Failure Compiled) (shares : p.Shares services k c name o) :
    p.program? o = p.standing c name := by
  obtain rfl | ⟨service, q, v, is, resolves, rfl⟩ := shares
  · exact p.program?_resolution c name
  · obtain ⟨dir, encoding, agrees⟩ := alike service q is
    refine program?_of_resolution ?_ encoding (fun static => ?_) resolves
    · rw [templatePath, templatePath, dir]
    · rw [(agrees static).program]

/-- Whoever compiled it, a template has the name that it is found under. -/
theorem name_of_shares {services : List (Pipeline × Nat)} {p : Pipeline} {k : Nat} {c : Contents}
    (name : Text) (v : Compiled) (shares : p.Shares services k c name (.ok v)) : v.name = name := by
  obtain own | ⟨_, q, _, _, resolves, is⟩ := shares
  · exact name_of_resolution own.symm
  · obtain rfl := Except.ok.inj is
    exact name_of_resolution resolves

end Pipeline

namespace Session

open Routine

/-- A service on its own over a storage, with a cache of this size. -/
def alone (p : Pipeline) (size : Nat) (storage : Storage) : Session :=
  start (.create [(p, size)] none storage)

/-- The regime of several services over a storage that stays as it is, for a request with a known
outcome. -/
def unchanging (services : List (Pipeline × Nat)) (plain : PlainServices services) (storage : Storage)
    (uncancelled : storage.Uncancelled) (gated : Prop) (id : Nat) (P : Except Failure Bytes → Prop) :
    Regime where
  services
  contents c := c = storage.contents
  fresh k name v := ∃ (service : Nat) (q : Pipeline), services[service]? = some (q, k) ∧
    q.resolution storage.contents name = .ok v
  shared id' service name o := id' = id → ∃ (q : Pipeline) (k : Nat),
    services[service]? = some (q, k) ∧ o = q.resolution storage.contents name
  runs _ _ := True
  post id' o := id' = id → P o
  cancellable id' := id' ≠ id
  gated
  inMemory := storage.isMemory
  first := 0
  stale _ := False
  recent := Regime.recent_of_none
  plain
  keeps service q k c name v is met resolves :=
    ⟨service, q, is, (show c = storage.contents from met) ▸ resolves⟩
  tells id' service q k c name is met _ := by
    refine ⟨q, k, is, ?_⟩
    rw [show c = storage.contents from met]
    exact q.toldOf_resolution uncancelled.reads name

section

variable {services : List (Pipeline × Nat)} {plain : PlainServices services} {storage : Storage}
  {uncancelled : storage.Uncancelled} {gated : Prop} {id : Nat} {P : Except Failure Bytes → Prop}

theorem unchanging_free {id' : Nat} (other : id' ≠ id) :
    (unchanging services plain storage uncancelled gated id P).Free id' where
  runs _ := trivial
  shared _ _ _ e := absurd e other
  post _ e := absurd e other

/-- The names of a service resolve to what it or another one has compiled. -/
theorem unchanging_resolves {service k : Nat} {p : Pipeline} (is : services[service]? = some (p, k)) :
    p.Resolves ((unchanging services plain storage uncancelled gated id P).terms id service) False
      (p.Shares services k storage.contents) := by
  refine Regime.resolves is (fun sure => sure.elim) (fun name v fresh => ?_) (fun name o told => ?_)
    (fun c name met => .inl ?_) (fun may => absurd rfl may) fun _ _ _ => trivial
  · obtain ⟨service', q, is', resolves⟩ := fresh
    exact .inr ⟨service', q, v, is', resolves, rfl⟩
  · obtain ⟨q, k', is', rfl⟩ := told rfl
    obtain ⟨rfl, -⟩ := Prod.mk.inj (Option.some.inj (is.symm.trans is'))
    exact .inl rfl
  · rw [show c = storage.contents from met]

/-- An operation that leaves the storage as it is and does not cancel the request. -/
theorem unchanging_allows {s : Session} {op : Operation} (quiet : ¬op.Changes) (held : op = .hold → gated)
    (apart : (s.operate op).jobs.length ≤ id ∨ id < s.jobs.length)
    (spared : id < s.jobs.length → op ≠ .cancel id) :
    (unchanging services plain storage uncancelled gated id P).Allows s op :=
  Regime.allows_of_apart (fun _ other => ⟨unchanging_free other, other⟩) apart
    (fun e lt => absurd e (spared lt)) (fun changes => absurd changes quiet) held

theorem unchanging_free_contract (open_ : ¬gated) :
    (unchanging services plain storage uncancelled gated id P).contract.Free where
  requests _ _ := open_
  loads _ := open_

end

/-- **A request to one of several services** ends with its result if it ends, however it is served and
whatever the services have compiled before, as long as the storage stays as it is. It does end unless
reads are held back. -/
theorem settles_unchanging {d : Deployment} (plain : PlainServices d.roster)
    (uncancelled : d.storage.Uncancelled) (empty : d.CachesHold fun _ _ _ => False) (open_ : d.held = false)
    {service k : Nat} {p : Pipeline} (served : d.roster[service]? = some (p, k)) {name : Text}
    {model : Option Model} {F : Failure → Prop} {x : Option Bytes}
    (results : ∀ t, p.Resolves t False (p.Shares d.roster k d.storage.contents) →
      Results t F x (p.renderFile name model))
    (before after : List Operation) {own : Operation} (asks : own.Asks service (.file name model))
    (quiet : ∀ op ∈ before ++ after, ¬op.Changes)
    (spared : .cancel ((start d).run before).jobs.length ∉ after) :
    let id := ((start d).run before).jobs.length
    let t := (start d).run (before ++ own :: after)
    (∀ o, t.outcome? id = some o → Meets F x o) ∧
      (.hold ∉ before ++ after ∨ t.Unheld Deployment.host →
        ∃ o, t.Settles Deployment.host id o ∧ Meets F x o) := by
  intro id t
  let s := (start d).run before
  let G := unchanging d.roster plain d.storage uncancelled (.hold ∈ before ++ after) id (Meets F x)
  have begun : G.contract.Sound (start d) := by
    refine Regime.sound_start ⟨rfl, rfl, rfl, fun k c at_k => ?_, fun held => ?_⟩ rfl
    · exact (empty k c at_k).mono fun _ _ none => none.elim
    · rw [open_] at held
      cases held
  have reached : G.contract.Sound s := by
    refine Regime.sound_run begun fun pre op post e => ?_
    have mem : op ∈ before ++ after := by simp [e]
    have soon : (((start d).run pre).operate op).jobs.length ≤ s.jobs.length := length_operate_le _ e
    refine unchanging_allows (quiet op mem) (fun held => held ▸ mem) (.inl soon) fun lt => ?_
    exact absurd (Nat.lt_of_lt_of_le lt (length_le_run _ [op])) (Nat.not_lt_of_le soon)
  obtain ⟨sound, st, cancelling, at_⟩ := Regime.sound_request reached served asks after
    (fun c met => (results _ (unchanging_resolves served) c met).mono fun _ o meets _ => meets)
    (fun may => absurd rfl may)
    (fun service' n l _ => .inl fun c o => G.contract.tells _ l service' n c o (Nat.zero_le l))
    fun pre op post e there => by
      have mem : op ∈ after := by simp [e]
      have mem' : op ∈ before ++ after := List.mem_append_right _ mem
      exact unchanging_allows (quiet op mem') (fun held => held ▸ mem') (.inr there)
        fun _ cancels => spared (cancels ▸ mem)
  have same : (s.operate own).run after = t := by rw [← run_cons, ← run_append]
  rw [same] at sound at_
  refine ⟨fun o outcome => ?_, fun unheld => ?_⟩
  · obtain ⟨_, _, post⟩ := sound.post_of_outcome? at_ outcome
    exact post rfl
  · have settles : ∃ o c, t.Settles Deployment.host id o ∧ G.contents c ∧ G.post id o := by
      obtain never | unheld := unheld
      · exact sound.settles (unchanging_free_contract never) at_
      · exact sound.settles_unheld unheld Deployment.calm at_
    obtain ⟨o, _, settles, _, post⟩ := settles
    exact ⟨o, settles, post rfl⟩

/-- **A request to a service on its own** has the bytes that its name stands for. If it fails, the name
does not resolve for that reason, or it does resolve and the failure is no compile problem. -/
theorem settles_alone (p : Pipeline) (size : Nat) {storage : Storage} (plain : Markup.Plain p.templateDir)
    (uncancelled : storage.Uncancelled) (name : Text) (model : Option Model)
    (before after : List Operation) {own : Operation} (asks : own.Asks 0 (.file name model))
    (quiet : ∀ op ∈ before ++ after, ¬op.Changes)
    (spared : .cancel ((alone p size storage).run before).jobs.length ∉ after) :
    let id := ((alone p size storage).run before).jobs.length
    let t := (alone p size storage).run (before ++ own :: after)
    let P := Meets (fun f => p.resolution storage.contents name = .error f ∨
        (∃ v, p.resolution storage.contents name = .ok v) ∧ f.Executing)
      (p.rendition (p.standing storage.contents) name model)
    (∀ o, t.outcome? id = some o → P o) ∧
      (.hold ∉ before ++ after ∨ t.Unheld Deployment.host →
        ∃ o, t.Settles Deployment.host id o ∧ P o) := by
  let d := Deployment.create [(p, size)] none storage
  have only : ∀ (service : Nat) (q : Pipeline), d.roster[service]? = some (q, 0) → q = p := by
    intro service q is
    obtain ⟨_, mem⟩ := Deployment.mem_of_create is
    exact (Prod.mk.inj (List.mem_singleton.mp mem)).1
  have own_ : ∀ n o, p.Shares d.roster 0 storage.contents n o → o = p.resolution storage.contents n := by
    rintro n o (own | ⟨service, q, v, is, resolves, rfl⟩)
    · exact own
    · rw [← resolves, only service q is]
  have results : ∀ t, p.Resolves t False (p.Shares d.roster 0 storage.contents) →
      Results t (fun f => p.resolution storage.contents name = .error f ∨
          (∃ v, p.resolution storage.contents name = .ok v) ∧ f.Executing)
        (p.rendition (p.standing storage.contents) name model) (p.renderFile name model) := by
    intro t resolves
    have meaning : ∀ n o, p.Shares d.roster 0 storage.contents n o →
        p.program? o = p.standing storage.contents n :=
      fun n o shares => own_ n o shares ▸ p.program?_resolution storage.contents n
    refine (resolves.renderFile_results meaning Pipeline.name_of_shares name model).mono fun f fails => ?_
    refine fails.imp (fun shares => (own_ _ _ shares).symm) fun ⟨⟨v, shares⟩, executing⟩ => ?_
    exact ⟨⟨v, (own_ _ _ shares).symm⟩, executing⟩
  have plainServices : PlainServices d.roster :=
    plainServices_create plain fun q mem => by rw [List.mem_singleton.mp mem]
  exact settles_unchanging plainServices uncancelled (Deployment.cachesHold_create _ _ _ _) rfl rfl results
    before after asks quiet spared

/-- **Services that share a cache do not notice each other**, as long as the storage stays as it is and
those that compile statically have the options of the one that is asked. Whatever was compiled and kept
before, a request has the bytes that it has on its own, or fails if it fails on its own. -/
theorem neighbours_invisible (pipelines : List (Pipeline × Nat)) (size : Nat) (storage : Storage)
    (dir encoding : Text) (service : Nat) (p : Pipeline) (n : Nat) (name : Text) (model : Option Model)
    (before after : List Operation) (own : Operation) (served : pipelines[service]? = some (p, n))
    (plain : Markup.Plain dir) (uncancelled : storage.Uncancelled)
    (same : ∀ q ∈ pipelines, q.1.templateDir = dir ∧ q.1.compiler.encoding = encoding)
    (agree : ∀ q ∈ pipelines, q.1.compiler.static = true → q.1.compiler.Agrees p.compiler)
    (asks : own.Asks service (.file name model)) (quiet : ∀ op ∈ before ++ after, ¬op.Changes)
    (spared : .cancel ((start (.create pipelines (some size) storage)).run before).jobs.length ∉ after) :
    let s : Session := start (.create pipelines (some size) storage)
    let id := (s.run before).jobs.length
    let t := s.run (before ++ own :: after)
    ∃ o, ((alone p 0 storage).run [.start 0 (.file name model)]).Settles Deployment.host 0 o ∧
      (∀ o', t.outcome? id = some o' → o'.toOption = o.toOption) ∧
      (.hold ∉ before ++ after ∨ t.Unheld Deployment.host →
        ∃ o', t.Settles Deployment.host id o' ∧ o'.toOption = o.toOption) := by
  intro s id t
  have served' : (Deployment.create pipelines (some size) storage).roster[service]? = some (p, 0) := by
    rw [Deployment.roster_getElem?]
    simp [Deployment.create, served]
  obtain ⟨ownDir, ownEncoding⟩ := same _ (List.mem_of_getElem? served)
  have alike : ∀ (service' : Nat) (q : Pipeline),
      (Deployment.create pipelines (some size) storage).roster[service']? = some (q, 0) →
      q.templateDir = p.templateDir ∧ q.compiler.encoding = p.compiler.encoding ∧
        (q.compiler.static = true → q.compiler.Agrees p.compiler) := by
    intro service' q is
    obtain ⟨size', mem⟩ := Deployment.mem_of_create is
    obtain ⟨itsDir, itsEncoding⟩ := same _ mem
    exact ⟨itsDir.trans ownDir.symm, itsEncoding.trans ownEncoding.symm, agree _ mem⟩
  obtain ⟨o, settles, meets⟩ := (settles_alone p 0 (ownDir ▸ plain) uncancelled name model [] [] (.inr rfl)
    (fun _ mem => absurd mem List.not_mem_nil) List.not_mem_nil).2 (.inl List.not_mem_nil)
  obtain ⟨ends, comes⟩ := settles_unchanging (d := .create pipelines (some size) storage)
    (plainServices_create plain fun q mem => (same q mem).1) uncancelled
    (Deployment.cachesHold_create _ _ _ _) rfl served'
    (fun t resolves => resolves.renderFile_results (Pipeline.program?_of_shares alike)
      Pipeline.name_of_shares name model)
    before after asks quiet spared
  refine ⟨o, settles, fun o' outcome => ?_, fun unheld => ?_⟩
  · exact (ends o' outcome).toOption.trans meets.toOption.symm
  · obtain ⟨o', settles', meets'⟩ := comes unheld
    exact ⟨o', settles', meets'.toOption.trans meets.toOption.symm⟩

/-- A template that was compiled without escaping, but dynamically, is rendered by a service that
escapes. -/
theorem neighbours_invisible_dynamic :
    let off : Pipeline := { templateDir := "t", compiler := { autoEscape := false } }
    let on : Pipeline := { templateDir := "t", compiler := { static := true } }
    let source : Text := "\x7b\x7b v \x7d\x7d"
    let storage : Storage := .memory { files := [("t/x", source.map UInt8.ofNat)] }
    let r : Request := .file "x" (some (.dict [("v", .str "<b>")]))
    let before : List Operation := .start 0 r :: List.replicate 4 .step
    let s : Session := start (.create [(off, 1), (on, 1)] (some 1) storage)
    let id := (s.run before).jobs.length
    let t := s.run (before ++ [.start 1 r])
    Markup.Plain "t" ∧ storage.Uncancelled ∧ (∀ op ∈ before, ¬op.Changes) ∧ .hold ∉ before ∧
      ∃ o, ((alone on 0 storage).run [.start 0 r]).Settles Deployment.host 0 o ∧
        (∀ o', t.outcome? id = some o' → o'.toOption = o.toOption) ∧
        ∃ o', t.Settles Deployment.host id o' ∧ o'.toOption = o.toOption := by
  intro off on source storage r before s id t
  have plain : Markup.Plain "t" := by unfold Markup.Plain; decide
  have uncancelled : storage.Uncancelled := fun _ is => by cases is
  have quiet : ∀ op ∈ before, ¬op.Changes := by simp [before, Operation.Changes]
  have never : .hold ∉ before := by simp [before]
  have same : ∀ q ∈ [(off, 1), (on, 1)], q.1.templateDir = "t" ∧ q.1.compiler.encoding = "utf-8" := by
    simp [off, on]
  have agree : ∀ q ∈ [(off, 1), (on, 1)], q.1.compiler.static = true → q.1.compiler.Agrees on.compiler := by
    intro q mem static
    obtain rfl | rfl : q = (off, 1) ∨ q = (on, 1) := by simpa using mem
    · cases static
    · exact ⟨rfl, rfl, rfl⟩
  obtain ⟨o, settles, ends, comes⟩ := neighbours_invisible [(off, 1), (on, 1)] 1 storage "t" "utf-8" 1 on 1
    "x" _ before [] (.start 1 r) rfl plain uncancelled same agree (.inr rfl) (by simpa using quiet)
    List.not_mem_nil
  exact ⟨plain, uncancelled, quiet, never, o, settles, ends, comes (.inl (by simpa using never))⟩

/-- A template that was compiled statically without escaping is rendered as it is by a service that
escapes. -/
theorem static_options_leak :
    let off : Pipeline := { templateDir := "t", compiler := { static := true, autoEscape := false } }
    let on : Pipeline := { templateDir := "t" }
    let source : Text := "\x7b\x7b v \x7d\x7d"
    let m : MemoryStorage := { files := [("t/x", source.map UInt8.ofNat)] }
    let r : Request := .file "x" (some (.dict [("v", .str "<b>")]))
    let s : Session := start (.create [(off, 1), (on, 1)] (some 1) (.memory m))
    (s.render 1 r).1 = some (.ok (("&lt;b&gt;" : Text).map UInt8.ofNat)) ∧
      ((s.render 0 r).2.render 1 r).1 = some (.ok (("<b>" : Text).map UInt8.ofNat)) := by
  decide +kernel

end Session

/-! ### Static and dynamic mode

A service that compiles statically and one that compiles dynamically render the same bytes, whatever their
caches went through. What is found out when the executable form is made fails a request in either mode,
if not with the same failure. What is found out before is reported alike. -/

namespace Pipeline

variable {p : Pipeline} {c : Contents} {name : Text} {f : Failure}

/-- The pipeline with its compiler in static or in dynamic mode. -/
def compiling (p : Pipeline) (static : Bool) : Pipeline :=
  { p with compiler := p.compiler.statically static }

/-- What does not resolve in dynamic mode does not resolve in static mode for the same reason. -/
theorem refused_compiling (fails : (p.compiling false).resolution c name = .error f) :
    (p.compiling true).resolution c name = .error f := by
  obtain missing | ⟨b, stored, fails⟩ := error_of_bind fails
  · change (c (p.templatePath name)).bind _ = _
    rw [show c (p.templatePath name) = .error f from missing]
    rfl
  · rw [resolution_of_stored (show c ((p.compiling true).templatePath name) = .ok b from stored)]
    exact Compiler.refused_statically fails

/-- Both modes render the same bytes. -/
theorem rendition_compiling (p : Pipeline) (static : Bool) (c : Contents) (name : Text)
    (model : Option Model) : (p.compiling static).rendition ((p.compiling static).standing c) name model =
      p.rendition (p.standing c) name model := rfl

end Pipeline

namespace Session

open Routine

/-- What a request comes to in static and in dynamic mode: the same bytes or two failures. A compile
problem of the dynamic mode is that of the static one. -/
structure ModesAgree (o : Bool → Except Failure Bytes) : Prop where
  bytes : (o true).toOption = (o false).toOption
  refused : ∀ f, o false = .error f → f.kind = .compile → o true = .error f

theorem modesAgree_of_meets {p : Pipeline} {c : Contents} {name : Text} {model : Option Model}
    {o : Bool → Except Failure Bytes}
    (meets : ∀ static, Meets (fun f => (p.compiling static).resolution c name = .error f ∨
        (∃ v, (p.compiling static).resolution c name = .ok v) ∧ f.Executing)
      ((p.compiling static).rendition ((p.compiling static).standing c) name model) (o static)) :
    ModesAgree o := by
  simp only [Pipeline.rendition_compiling] at meets
  refine ⟨(meets true).toOption.trans (meets false).toOption.symm, fun f fails compile => ?_⟩
  have dynamic := meets false
  have static := meets true
  rw [fails] at dynamic
  -- a compile problem of a request is that of its own name, and static mode has it too
  obtain ⟨nothing, refused | ⟨_, executing⟩⟩ := dynamic
  · have refused := Pipeline.refused_compiling refused
    cases is : o true with
    | ok bytes =>
      rw [is] at static
      cases nothing.symm.trans static
    | error g =>
      rw [is] at static
      obtain ⟨_, same | ⟨⟨v, resolves⟩, _⟩⟩ := static
      · exact congrArg Except.error (Except.error.inj (same.symm.trans refused))
      · cases resolves.symm.trans refused
  · exact absurd compile executing

/-- **Static and dynamic compilation agree.** Two services over the same storage that stays as it is, one
of each mode and each with its own past, render the same bytes for a request or both fail. If the dynamic
one has a compile problem, the static one has the same. -/
theorem modes_agree (p : Pipeline) (storage : Storage) (name : Text) (model : Option Model)
    (size : Bool → Nat) (before after : Bool → List Operation) (own : Bool → Operation)
    (plain : Markup.Plain p.templateDir) (uncancelled : storage.Uncancelled)
    (asks : ∀ static, (own static).Asks 0 (.file name model))
    (quiet : ∀ static, ∀ op ∈ before static ++ after static, ¬op.Changes)
    (spared : ∀ static, .cancel ((alone (p.compiling static) (size static) storage).run
      (before static)).jobs.length ∉ after static) :
    let s (static : Bool) : Session := alone (p.compiling static) (size static) storage
    let id (static : Bool) := ((s static).run (before static)).jobs.length
    let t (static : Bool) := (s static).run (before static ++ own static :: after static)
    (∀ o : Bool → Except Failure Bytes,
      (∀ static, (t static).outcome? (id static) = some (o static)) → ModesAgree o) ∧
    ((∀ static, .hold ∉ before static ++ after static ∨ (t static).Unheld Deployment.host) →
      ∃ o : Bool → Except Failure Bytes,
        (∀ static, (t static).Settles Deployment.host (id static) (o static)) ∧ ModesAgree o) := by
  intro s id t
  have each (static : Bool) := settles_alone (p.compiling static) (size static) plain uncancelled name model
    (before static) (after static) (asks static) (quiet static) (spared static)
  refine ⟨fun o outcomes => ?_, fun unheld => ?_⟩
  · exact modesAgree_of_meets fun static => (each static).1 _ (outcomes static)
  · choose o settles meets using fun static => (each static).2 (unheld static)
    exact ⟨o, settles, modesAgree_of_meets meets⟩

/-- A filter that does not exist is found out by one mode when the template is compiled and by the other
when it is run. The dynamic service has the template in its cache then. -/
theorem modes_agree_filter :
    let p : Pipeline := { templateDir := "t" }
    let source : Text := "\x7b\x7b 1|nope \x7d\x7d"
    let storage : Storage := .memory { files := [("t/x", source.map UInt8.ofNat)] }
    let own (_ : Bool) : Operation := .submit 0 (.file "x" none)
    let before (static : Bool) : List Operation :=
      if static then [] else [.start 0 (.file "x" none), .step]
    let after (_ : Bool) : List Operation := [.invalidate 0 "x", .step]
    let s (static : Bool) : Session := alone (p.compiling static) 1 storage
    let id (static : Bool) := ((s static).run (before static)).jobs.length
    let t (static : Bool) := (s static).run (before static ++ own static :: after static)
    Markup.Plain p.templateDir ∧ storage.Uncancelled ∧
      (∀ static, ∀ op ∈ before static ++ after static, ¬op.Changes ∧ op ≠ .hold) ∧
      ∃ o : Bool → Except Failure Bytes,
        (∀ static, (t static).Settles Deployment.host (id static) (o static)) ∧ ModesAgree o := by
  intro p source storage own before after s id t
  have plain : Markup.Plain p.templateDir := by unfold Markup.Plain; decide
  have uncancelled : storage.Uncancelled := fun _ is => by cases is
  have quiet : ∀ static, ∀ op ∈ before static ++ after static, ¬op.Changes ∧ op ≠ .hold := by
    intro static
    cases static <;> simp [before, after, Operation.Changes]
  have spared : ∀ static, .cancel ((s static).run (before static)).jobs.length ∉ after static := by
    simp [after]
  refine ⟨plain, uncancelled, quiet, ?_⟩
  exact (modes_agree p storage "x" none (fun _ => 1) before after own plain uncancelled
    (fun _ => .inl rfl) (fun static op mem => (quiet static op mem).1) spared).2
    fun static => .inl fun mem => (quiet static _ mem).2 rfl

/-- The directory of the templates is escaped in the path of a safe name. A service that has rendered the
template through such a name has another one in its cache. -/
theorem escaped_directory_parts_modes :
    let p : Pipeline := { templateDir := "/a&b" }
    let m : MemoryStorage := { files := [
      ("/a&b/x", ("plain" : Text).map UInt8.ofNat),
      ("/a&amp;b/x", ("other" : Text).map UInt8.ofNat),
      ("/a&b/outer", ("\x7b\x7b render(n) \x7d\x7d" : Text).map UInt8.ofNat)] }
    let outer : Request := .file "outer" (some (.dict [("n", .safe "x")]))
    let s (static : Bool) : Session := alone (p.compiling static) 10 (.memory m)
    (((s false).render 0 outer).2.render 0 (.file "x" none)).1 =
        some (.ok (("other" : Text).map UInt8.ofNat)) ∧
      ((s true).render 0 (.file "x" none)).1 = some (.ok (("plain" : Text).map UInt8.ofNat)) := by
  decide +kernel

end Session

end Stencil
