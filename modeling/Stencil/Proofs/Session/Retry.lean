import Stencil.Proofs.Schedule.Gate
import Stencil.Proofs.Session.Failures
import Stencil.Proofs.Session.Invalidate

/-!
# Failures are not kept

Caches get nothing but what was compiled. So as long as nothing can be compiled of what is stored under a
name, the name stays out of a cache that does not have it, however often it is asked for, and the first
source that can be compiled is executed for the next request.

## Main definitions

- `Session.Made` — what the services that use a cache make of a source
- `Session.OnlyFrom` — contents of which these services can compile nothing else under a name
- `Session.Holding` — what their cache holds then
- `Session.AllForgotten` — no load has ended that is still to be forgotten
- `Session.Executes` — what a request comes to that is told of nothing else under a name

## Main results

- `Session.no_negative_caching`
-/

namespace Stencil

/-- The cache of a service is the one of its number. -/
theorem Deployment.cacheOf_of_roster {d : Deployment} {service k : Nat} {p : Pipeline}
    {c : Cache Compiled} (is : d.roster[service]? = some (p, k)) (at_k : d.caches[k]? = some c) :
    d.cacheOf service = c := by
  rw [roster_getElem?, Option.map_eq_some_iff] at is
  obtain ⟨s, at_, same⟩ := is
  obtain ⟨rfl, rfl⟩ := Prod.mk.inj same
  rw [cacheOf, at_, Option.bind_some, at_k]
  rfl

namespace Session

/-- A service that uses the cache makes this of a source. -/
def Made (services : List (Pipeline × Nat)) (k : Nat) (name : Text) (b : Bytes) (v : Compiled) : Prop :=
  ∃ (service : Nat) (q : Pipeline), services[service]? = some (q, k) ∧ q.compiler.compile name b = .ok v

/-- A service that uses the cache can compile nothing under the name, or it compiles what it makes of one
source. -/
def OnlyFrom (services : List (Pipeline × Nat)) (k : Nat) (name : Text) (b : Bytes) (c : Contents) :
    Prop :=
  ∀ (service : Nat) (q : Pipeline) (v : Compiled), services[service]? = some (q, k) →
    q.resolution c name = .ok v → q.compiler.compile name b = .ok v

/-- What caches hold from which nothing else under the name can come. -/
def Holding (services : List (Pipeline × Nat)) (k : Nat) (name : Text) (b : Bytes) (k' : Nat) (n : Text)
    (v : Compiled) : Prop :=
  v.name = n ∧ (k' = k → n = name → Made services k name b v)

/-- No load has ended that is still to be forgotten. -/
def AllForgotten (s : Session) : Prop :=
  ∀ key l, (key, l) ∈ s.flights → ¬s.Ended l

/-- Terms on which all that is told of a name is what is made of a source. -/
def sourceTerms (services : List (Pipeline × Nat)) (p : Pipeline) (k : Nat) (name : Text) (b : Bytes) :
    Terms Compiled where
  contents c := c (p.templatePath name) = .ok b
  found n v := n = name → Made services k name b v
  shared n o := n = name → ∃ v, Made services k name b v ∧ o = .ok v
  allowed _ _ := True
  sharable _ _ := True
  cancellable := False
  gated := False

/-- What a request comes to that is told of nothing under a name but what is made of a source. If it asks
for the name itself, that is what it renders. -/
structure Executes (services : List (Pipeline × Nat)) (p : Pipeline) (k : Nat) (name : Text) (b : Bytes)
    (asked : Text) (model : Option Model) (o : Except Failure Bytes) : Prop where
  told : (p.renderFile asked model).Ends (sourceTerms services p k name b) o
  renders : asked = name → ∃ v, Made services k name b v ∧
    (p.render .refuse v model).Ends (sourceTerms services p k name b) o

theorem OnlyFrom.keeps {services : List (Pipeline × Nat)} {k : Nat} {name : Text} {b : Bytes}
    {c : Contents} (only : OnlyFrom services k name b c) {service k' : Nat} {q : Pipeline} {n : Text}
    {v : Compiled} (is : services[service]? = some (q, k')) (resolves : q.resolution c n = .ok v) :
    Holding services k name b k' n v := by
  refine ⟨Pipeline.name_of_resolution resolves, ?_⟩
  rintro rfl rfl
  exact ⟨service, q, is, only service q v is resolves⟩

/-! ### While nothing else can be compiled -/

/-- The regime since a moment at which a cache did not have a name, while nothing can be compiled under it
but one source. -/
def awaiting {services : List (Pipeline × Nat)} (plain : PlainServices services) (k : Nat) (name : Text)
    (b : Bytes) (since : Session) : Regime :=
  .undemanding services plain (OnlyFrom services k name b) (Holding services k name b)
    (fun _ _ _ _ _ _ is only resolves => only.keeps is resolves) since

/-- Caches get what was just read in every run, and so a name that is not in one has to come from what is
stored from now on. -/
theorem awaiting_sound {services : List (Pipeline × Nat)} {plain : PlainServices services}
    {service k : Nat} {p : Pipeline} {name : Text} {b : Bytes} {s : Session}
    (sound : (honest services plain).contract.Sound s) (served : services[service]? = some (p, k))
    (absent : name ∉ (s.state.cacheOf service).keys)
    (now : OnlyFrom services k name b s.state.storage.contents) :
    (awaiting plain k name b s).contract.Sound s := by
  have inv : (honest services plain).Inv s.state := sound.holds.inv
  have caches : s.state.CachesHold (Holding services k name b) := by
    intro k' c at_k e mem
    refine ⟨inv.caches k' c at_k e mem, ?_⟩
    rintro rfl named
    have is : s.state.roster[service]? = some (p, k') := by
      rw [inv.roster]
      exact served
    rw [Deployment.cacheOf_of_roster is at_k] at absent
    exact absurd (List.mem_map.mpr ⟨e, mem, named⟩) absent
  refine Regime.gives_way sound (fun _ => ⟨honest_free, trivial⟩)
    ⟨inv.roster, now, inv.memory, caches, fun _ => trivial⟩ rfl (fun _ _ => trivial)
    (fun _ _ _ held => held.1) (fun id _ => ⟨Regime.undemanding_free id, trivial⟩) trivial (Nat.le_refl _)
    fun l stale => stale.elim id False.elim

/-! ### While a source is stored -/

/-- The regime while a source is stored under a name and the caches have nothing else under it, for a
request to a service that can compile the source. -/
def executing {services : List (Pipeline × Nat)} (plain : PlainServices services) {service k : Nat}
    {p : Pipeline} (served : services[service]? = some (p, k)) {name : Text} {b : Bytes} {w : Compiled}
    (compiles : p.compiler.compile name b = .ok w) (id : Nat) (P : Except Failure Bytes → Prop)
    (since : Session) : Regime where
  services
  contents c := OnlyFrom services k name b c ∧ c (p.templatePath name) = .ok b
  fresh := Holding services k name b
  shared id' service' n o := id' = id → service' = service → n = name →
    ∃ v, Made services k name b v ∧ o = .ok v
  runs _ _ := True
  post id' o := id' = id → P o
  cancellable id' := id' ≠ id
  gated := True
  first := since.jobs.length
  stale := since.Ended
  recent _ ended := ended.lt
  plain
  keeps _ _ _ _ _ _ is met resolves := met.1.keeps is resolves
  tells id' service' q k' c n is met := by
    rintro rfl rfl rfl
    obtain ⟨rfl, rfl⟩ := Prod.mk.inj (Option.some.inj (served.symm.trans is))
    refine ⟨w, ⟨service', p, served, compiles⟩, ?_⟩
    rw [Pipeline.resolution_of_stored met.2, compiles]
    rfl

section

variable {services : List (Pipeline × Nat)} {plain : PlainServices services} {service k : Nat}
  {p : Pipeline} {served : services[service]? = some (p, k)} {name : Text} {b : Bytes} {w : Compiled}
  {compiles : p.compiler.compile name b = .ok w} {id : Nat} {P : Except Failure Bytes → Prop}
  {since : Session}

theorem executing_free {id' : Nat} (other : id' ≠ id) :
    (executing plain served compiles id P since).Free id' where
  runs _ := trivial
  shared _ _ _ e := absurd e other
  post _ e := absurd e other

/-- The name resolves to what is made of the source. -/
theorem executing_resolves : p.Resolves ((executing plain served compiles id P since).terms id service)
    False fun n o => n = name → ∃ v, Made services k name b v ∧ o = .ok v := by
  refine Regime.resolves served (fun sure => sure.elim) (fun n v held e => ⟨v, held.2 rfl e, rfl⟩)
    (fun n o told => told rfl rfl) (fun c n met e => ?_) (fun may => absurd rfl may) fun _ _ _ => trivial
  obtain rfl := e
  refine ⟨w, ⟨service, p, served, compiles⟩, ?_⟩
  rw [Pipeline.resolution_of_stored met.2, compiles]

theorem ends_of_executing {α : Type} {r : Routine Compiled α} {o : Except Failure α}
    (ends : r.Ends ((executing plain served compiles id P since).terms id service) o) :
    r.Ends (sourceTerms services p k name b) o := by
  refine ends.mono (fun c met => met.2) (fun n v found e => ?_) (fun n o told => told rfl rfl)
    fun may => absurd rfl may
  obtain ⟨p', k', is, held⟩ := found
  obtain ⟨rfl, rfl⟩ := Prod.mk.inj (Option.some.inj (served.symm.trans is))
  exact held.2 rfl e

/-- A request executes the source that is stored. -/
theorem executing_ensures (asked : Text) (model : Option Model) {c : Contents}
    (met : (executing plain served compiles id P since).contents c) :
    (p.renderFile asked model).Ensures ((executing plain served compiles id P since).terms id service)
      (fun _ o => Executes services p k name b asked model o) c := by
  have resolves : p.Resolves ((executing plain served compiles id P since).terms id service) False
      fun n o => n = name → ∃ v, Made services k name b v ∧ o = .ok v := executing_resolves
  refine (resolves.renderFile_ends asked model met).ends.mono fun _ o ends => ⟨?_, fun e => ?_⟩
  · exact ends_of_executing ends.2
  · obtain ⟨f, _, fails⟩ | ⟨v, is, renders⟩ := ends.1
    · obtain ⟨v, _, is⟩ := fails e
      cases is
    · obtain ⟨v', made, is⟩ := is e
      obtain rfl := Except.ok.inj is
      exact ⟨v, made, ends_of_executing renders⟩

/-- What is made of the source is all that the caches have under the name when the request comes. -/
theorem executing_sound {s : Session} (sound : (awaiting plain k name b since).contract.Sound s)
    (ended : ∀ l, since.Ended l → s.Ended l)
    (now : s.state.storage.contents (p.templatePath name) = .ok b) (later : s.jobs.length ≤ id) :
    (executing plain served compiles id P s).contract.Sound s := by
  have inv : (awaiting plain k name b since).Inv s.state := sound.holds.inv
  refine Regime.gives_way sound (fun id' => ⟨Regime.undemanding_free id', trivial⟩)
    ⟨inv.roster, ⟨inv.contents, now⟩, inv.memory, inv.caches, fun _ => trivial⟩ rfl
    (fun _ met => met.1) (fun _ _ _ held => held) (fun id' lt => ?_) trivial (Nat.le_refl _)
    fun l stale => stale.elim (fun ended => ended) (ended l)
  have other : id' ≠ id := Nat.ne_of_lt (Nat.lt_of_lt_of_le lt later)
  exact ⟨executing_free other, other⟩

/-- A load in flight tells the request what is made of the source, or it has ended. -/
theorem executing_tells {service' l : Nat} {n : Text} (flies : ¬since.Ended l) :
    (executing plain served compiles id P since).contract.Tells id l service' n := by
  intro c o met ends
  obtain ⟨q, k', is, rfl⟩ := ends flies
  exact Regime.tells _ id service' q k' c n is met

end

/-! ### Runs -/

/-- Nothing is kept but what was compiled of what had been stored. -/
theorem kept_compiled {pipelines : List (Pipeline × Nat)} {shared : Option Nat} {m : MemoryStorage}
    (plain : PlainServices (Deployment.create pipelines shared (.memory m)).roster)
    (ops : List Operation) :
    let d := Deployment.create pipelines shared (.memory m)
    Deployment.CachesHold (fun k name v => ∃ (pre post : List Operation) (service : Nat) (q : Pipeline)
      (b : Bytes), ops = pre ++ post ∧ d.roster[service]? = some (q, k) ∧
      ((start d).run pre).stored? (q.templatePath name) = some b ∧ q.compiler.compile name b = .ok v)
      ((start d).run ops).state := by
  intro d
  let moments (c : Contents) :=
    ∃ pre post, ops = pre ++ post ∧ c = ((start d).run pre).state.storage.contents
  let G := Regime.undemanding d.roster plain moments
    (fun k name v => ∃ (c : Contents) (service : Nat) (q : Pipeline), moments c ∧
      d.roster[service]? = some (q, k) ∧ q.resolution c name = .ok v)
    (fun service q k c name v is met resolves => ⟨c, service, q, met, is, resolves⟩) (start d)
  have begun : G.contract.Sound (start d) := by
    refine Regime.sound_start ⟨rfl, ⟨[], ops, rfl, rfl⟩, ?_, ?_, fun _ => trivial⟩ rfl
    · cases shared <;> rfl
    · exact Deployment.cachesHold_create _ pipelines shared _
  have sound : G.contract.Sound ((start d).run ops) :=
    Regime.undemanding_run begun fun pre post e => ⟨pre, post, e, rfl⟩
  refine fun k c at_k => (sound.holds.inv.caches k c at_k).mono ?_
  rintro name v ⟨_, service, q, ⟨pre, post, e, rfl⟩, is, resolves⟩
  have inMemory : ((start d).run pre).state.storage.isMemory = true :=
    (honest_sound plain pre).holds.inv.memory
  obtain ⟨b, read, compiles⟩ := Pipeline.exists_of_resolution resolves
  exact ⟨pre, post, service, q, b, e, is, stored?_of_contents inMemory read, compiles⟩

/-- **The next request executes the source** that replaces one of which nothing can be compiled, if the
name is not in the cache. -/
theorem executes_replacement {pipelines : List (Pipeline × Nat)} {shared : Option Nat} {m : MemoryStorage}
    (plain : PlainServices (Deployment.create pipelines shared (.memory m)).roster)
    {before during after : List Operation} {own : Operation} {service k : Nat} {p : Pipeline} {name : Text}
    {b : Bytes} {w : Compiled} {asked : Text} {model : Option Model} :
    let d := Deployment.create pipelines shared (.memory m)
    let s : Session := (start d).run before
    let s' : Session := s.run during
    let t : Session := (s'.operate own).run after
    d.roster[service]? = some (p, k) → p.compiler.compile name b = .ok w →
    name ∉ (s.state.cacheOf service).keys →
    (∀ pre post, during ++ own :: after = pre ++ post →
      OnlyFrom d.roster k name b (s.run pre).state.storage.contents) →
    (∀ pre post, own :: after = pre ++ post →
      (s'.run pre).state.storage.contents (p.templatePath name) = .ok b) →
    own = .submit service (.file asked model) ∨
      own = .start service (.file asked model) ∧ s'.AllForgotten →
    .cancel s'.jobs.length ∉ after →
    (∀ e ∈ (t.state.cacheOf service).entries, e.key = name → Made d.roster k name b e.value) ∧
    (∀ o, t.outcome? s'.jobs.length = some o → Executes d.roster p k name b asked model o) ∧
    (t.Unheld Deployment.host → ∃ o, t.Settles Deployment.host s'.jobs.length o ∧
      Executes d.roster p k name b asked model o) := by
  intro d s s' t served compiles absent only replaced asks spared
  let id := s'.jobs.length
  let G := executing plain served compiles id (Executes d.roster p k name b asked model) s'
  have await : (awaiting plain k name b s).contract.Sound s' := by
    refine Regime.undemanding_run (awaiting_sound (honest_sound plain before) served absent ?_)
      fun pre post e => ?_
    · exact only [] _ rfl
    · exact only pre (post ++ own :: after) (by rw [e, List.append_assoc])
  have reached : G.contract.Sound s' :=
    executing_sound await (fun l ended => ended.run during) (replaced [] _ rfl) (Nat.le_refl _)
  have told : ∀ service' n l, ((service', n), l) ∈ s'.flights →
      G.contract.Tells id l service' n ∨ s'.Ended l ∧ own = .submit service (.file asked model) := by
    intro service' n l flying
    by_cases ended : s'.Ended l
    · obtain submitted | ⟨_, forgotten⟩ := asks
      · exact .inr ⟨ended, submitted⟩
      · exact absurd ended (forgotten _ l flying)
    · exact .inl (executing_tells ended)
  have met : ∀ pre op post, after = pre ++ op :: post →
      G.contents (((s'.operate own).run pre).operate op).state.storage.contents := by
    intro pre op post e
    have later : ((s'.operate own).run pre).operate op = s'.run (own :: pre ++ [op]) := by
      rw [List.cons_append, run_cons, run_append]
      rfl
    have split : own :: after = (own :: pre ++ [op]) ++ post := by simp [e]
    rw [later]
    refine ⟨?_, replaced _ post split⟩
    rw [← run_append]
    exact only (during ++ (own :: pre ++ [op])) post (by rw [split, ← List.append_assoc])
  obtain ⟨sound, st, cancelling, now⟩ := Regime.sound_request reached served
    (asks.imp_right fun starts => starts.1) after
    (fun c met => (executing_ensures asked model met).mono fun _ o executes _ => executes)
    (fun may => absurd rfl may) told fun pre op post e there => by
      refine Regime.allows_of_apart (fun k' other => ⟨executing_free other, other⟩) (.inr there)
        (fun cancels _ => ?_) (fun _ => met pre op post e) fun _ => trivial
      have mem : op ∈ after := by simp [e]
      rw [cancels] at mem
      exact absurd mem spared
  refine ⟨fun e mem named => ?_, fun o outcome => ?_, fun unheld => ?_⟩
  · have is : t.state.roster[service]? = some (p, k) := by
      rw [sound.holds.inv.roster]
      exact served
    exact (sound.holds.inv.caches.cacheOf is e mem).2 rfl named
  · obtain ⟨_, _, post⟩ := sound.post_of_outcome? now outcome
    exact post rfl
  · obtain ⟨o, _, settles, _, post⟩ := sound.settles_unheld unheld Deployment.calm now
    exact ⟨o, settles, post rfl⟩

/-- **There is no negative caching.** Caches hold nothing but what was compiled of what had been stored.
Let a name not be in the cache of a service, while nothing can be compiled of what is stored under it,
until a source replaces it. Then the cache gets nothing else under the name, and the next request executes
the source. The name does not need to be dropped from the cache for that. -/
theorem no_negative_caching (pipelines : List (Pipeline × Nat)) (shared : Option Nat) (m : MemoryStorage)
    (plain : ∀ q ∈ pipelines, Markup.Plain q.1.templateDir) :
    let d := Deployment.create pipelines shared (.memory m)
    (∀ (ops : List Operation) (k : Nat) (cache : Cache Compiled) (e : Cache.Entry Compiled),
      ((start d).run ops).state.caches[k]? = some cache → e ∈ cache.entries →
      ∃ (pre post : List Operation) (service : Nat) (q : Pipeline) (b : Bytes) (source : Text),
        ops = pre ++ post ∧ d.roster[service]? = some (q, k) ∧
        ((start d).run pre).stored? (q.templatePath e.key) = some b ∧
        q.compiler.compile e.key b = .ok e.value ∧ q.compiler.Makes e.key source e.value) ∧
    ∀ (before during after : List Operation) (own : Operation) (service : Nat) (p : Pipeline) (k : Nat)
      (name : Text) (b : Bytes) (w : Compiled) (asked : Text) (model : Option Model),
      let s : Session := (start d).run before
      let s' : Session := s.run during
      let t : Session := (s'.operate own).run after
      d.roster[service]? = some (p, k) → p.compiler.compile name b = .ok w →
      name ∉ (s.state.cacheOf service).keys →
      (∀ pre post, during ++ own :: after = pre ++ post →
        OnlyFrom d.roster k name b (s.run pre).state.storage.contents) →
      (∀ pre post, own :: after = pre ++ post →
        (s'.run pre).state.storage.contents (p.templatePath name) = .ok b) →
      own = .submit service (.file asked model) ∨
        own = .start service (.file asked model) ∧ s'.AllForgotten →
      .cancel s'.jobs.length ∉ after →
      (∀ e ∈ (t.state.cacheOf service).entries, e.key = name → Made d.roster k name b e.value) ∧
      (∀ o, t.outcome? s'.jobs.length = some o → Executes d.roster p k name b asked model o) ∧
      (t.Unheld Deployment.host → ∃ o, t.Settles Deployment.host s'.jobs.length o ∧
        Executes d.roster p k name b asked model o) := by
  intro d
  have plainServices : PlainServices d.roster := by
    intro service q k is
    obtain ⟨size, mem⟩ := Deployment.mem_of_create is
    exact Markup.escape_of_plain (plain _ mem)
  refine ⟨fun ops k cache e at_k mem => ?_, ?_⟩
  · obtain ⟨pre, post, service, q, b, split, is, stored, compiles⟩ :=
      kept_compiled plainServices ops k cache at_k e mem
    obtain ⟨source, _, makes⟩ := Compiler.exists_of_compile compiles
    exact ⟨pre, post, service, q, b, source, split, is, stored, compiles, makes⟩
  · intro before during after own service p k name b w asked model
    exact executes_replacement plainServices

/-- A request fails because its template cannot be read as one. The template is replaced then, and the
next request renders the new one. -/
theorem no_negative_caching_retried :
    let p : Pipeline := { templateDir := "t", compiler := { static := true }, singleFlight := true }
    let bad : Bytes := ("\x7b\x7b" : Text).map UInt8.ofNat
    let good : Bytes := ("hi" : Text).map UInt8.ofNat
    let d := Deployment.create [(p, 1)] none (.memory { files := [("t/x", bad)] })
    let r : Request := .file "x" none
    let s : Session := (start d).run (.submit 0 r :: List.replicate 6 .step ++ [.add "t/x" good])
    let t : Session := (s.operate (.submit 0 r)).run (List.replicate 8 .step)
    Markup.Plain p.templateDir ∧ (s.outcome? 0).map (·.mapError Failure.kind) = some (.error .compile) ∧
      ∃ o, t.Settles Deployment.host s.jobs.length o ∧ Executes d.roster p 0 "x" good "x" none o := by
  intro p bad good d r s t
  let during : List Operation := .submit 0 r :: List.replicate 6 .step ++ [.add "t/x" good]
  let later : List Operation := .submit 0 r :: List.replicate 8 .step
  have plain : Markup.Plain p.templateDir := by unfold Markup.Plain; decide
  have fails : (s.outcome? 0).map (·.mapError Failure.kind) = some (.error .compile) := by
    decide +kernel
  have refused : (p.compiler.compile "x" bad).toOption.isSome = false := by decide +kernel
  have compiles : (p.compiler.compile "x" good).toOption.isSome = true := by decide +kernel
  have unheld : t.Unheld Deployment.host := by
    refine ⟨by decide +kernel, fun id job at_ => ?_⟩
    have unheld : t.jobs.all fun job => job.work.phase ≠ .held := by decide +kernel
    simpa using List.all_eq_true.mp unheld job (List.mem_of_getElem? at_)
  have stored : ∀ n < 18, ((start d).run ((during ++ later).take n)).state.storage.contents "t/x" =
      .ok (if n < 8 then bad else good) := by decide +kernel
  have reads : ∀ pre post, during ++ later = pre ++ post →
      ((start d).run pre).state.storage.contents "t/x" = .ok (if pre.length < 8 then bad else good) := by
    intro pre post split
    have short : pre.length < 18 := by
      have length := congrArg List.length split
      simp [during, later] at length
      omega
    have is := stored pre.length short
    rwa [split, List.take_left] at is
  have only : ∀ pre post, during ++ later = pre ++ post →
      OnlyFrom d.roster 0 "x" good ((start d).run pre).state.storage.contents := by
    intro pre post split service q v is resolves
    obtain ⟨_, mem⟩ := Deployment.mem_of_create is
    obtain rfl : q = p := (Prod.mk.inj (List.mem_singleton.mp mem)).1
    obtain ⟨b, read, made⟩ := Pipeline.exists_of_resolution resolves
    obtain rfl := Except.ok.inj (read.symm.trans (reads pre post split))
    split at made
    · rw [made] at refused
      cases refused
    · exact made
  have replaced : ∀ pre post, later = pre ++ post →
      (s.run pre).state.storage.contents (p.templatePath "x") = .ok good := by
    intro pre post split
    have is := reads (during ++ pre) post (by rw [split, List.append_assoc during pre post])
    rw [run_append, if_neg (by simp [during])] at is
    exact is
  cases made : p.compiler.compile "x" good with
  | error f =>
    rw [made] at compiles
    cases compiles
  | ok w =>
    obtain ⟨_, _, settles⟩ := (no_negative_caching [(p, 1)] none { files := [("t/x", bad)] }
      (by simpa using plain)).2 [] during (List.replicate 8 .step) (.submit 0 r) 0 p 0 "x" good w "x"
      none rfl made List.not_mem_nil only replaced (.inl rfl) (by simp)
    exact ⟨plain, fails, settles unheld⟩

/-- Two requests that execute another source than the one that was stored after one before them had
failed. In the first run an earlier source is in the cache, where a request has put it that ran at the same
time. In the second one a template is in the cache of a dynamic service that has no executable form. -/
theorem replaced_source_not_executed :
    let r : Request := .file "x" none
    let new : Bytes := ("new" : Text).map UInt8.ofNat
    (let p : Pipeline := { templateDir := "t" }
      let m : MemoryStorage := { files := [("t/x", ("old" : Text).map UInt8.ofNat)] }
      let s : Session := (start (.create [(p, 1)] none (.memory m))).run [.submit 0 r, .start 0 r, .step,
        .step, .add "t/x" (("\x7b\x7b" : Text).map UInt8.ofNat), .step, .step]
      (s.outcome? 0).map (·.mapError Failure.kind) = some (.error .compile) ∧
        ((s.operate (.add "t/x" new)).render 0 r).1 = some (.ok (("old" : Text).map UInt8.ofNat))) ∧
    (let p : Pipeline := { templateDir := "t" }
      let block : Text := "\x7b% block a %\x7d\x7b% endblock %\x7d"
      let m : MemoryStorage := { files := [("t/x", (block ++ block).map UInt8.ofNat)] }
      let s : Session := ((start (.create [(p, 1)] none (.memory m))).render 0 r).2
      (s.outcome? 0).map (·.mapError Failure.kind) = some (.error .render) ∧
        (((s.operate (.add "t/x" new)).render 0 r).1).map (·.mapError Failure.kind) =
          some (.error .render)) := by
  decide +kernel

end Session

end Stencil
