import Stencil.Proofs.Encoding
import Stencil.Proofs.Routine.Terms
import Stencil.Proofs.Settings.Validity
import Stencil.Proofs.Template.Models
import Stencil.Session

/-!
# What rendering fails with

Whatever a template does when it is run, its failure is classified. What is left are the failures of
reading, decoding and compiling its source and of encoding its output, and these are of the template
family too, unless the encoding is not for text.

## Main definitions

- `Failure.Expected` — a failure of the template family, or a cancellation
- `Pipeline.Comes` — what rendering comes to under the encoding of a pipeline
- `Pipeline.Answered` — terms on which reads and loads fail as they should
- `Pipeline.encoded` — the last part of rendering

## Main results

- `Pipeline.execute_expected` — all failures of a running template are classified
- `Request.comes` — what requests come to
-/

namespace Stencil

open Template

theorem Kind.isTemplate_of_isStorage {k : Kind} (storage : k.isStorage = true) : k.isTemplate = true := by
  cases k <;> first | rfl | cases storage

namespace Failure

/-- A failure of the template family, or a cancellation. -/
def Expected (f : Failure) : Prop :=
  f.kind.isTemplate = true ∨ f.kind = .cancelled

theorem expected_cancelled : cancelled.Expected := .inr rfl

theorem Expected.of_storage {f : Failure} (storage : f.kind.isStorage = true) : f.Expected :=
  .inl (Kind.isTemplate_of_isStorage storage)

theorem Expected.of_compile {f : Failure} (compile : f.kind = .compile) : f.Expected :=
  .inl (compile ▸ rfl)

theorem Expected.of_render {f : Failure} (render : f.kind = .render) : f.Expected :=
  .inl (render ▸ rfl)

end Failure

/-- Terms on which a routine may do whatever it likes. -/
structure Terms.Lax {V : Type} (t : Terms V) : Prop where
  allowed : ∀ c a, t.allowed c a
  sharable : ∀ name path, t.sharable name path

theorem Routine.ensures_of_lax {V β : Type} {t : Terms V} (lax : t.Lax) (r : Routine V β)
    (c : Contents) : r.Ensures t (fun _ _ => True) c := by
  induction r generalizing c with
  | finish o => trivial
  | lookup name next ih => exact ⟨ih none c, fun v _ => ih (some v) c⟩
  | act a next ih => exact ⟨lax.allowed c a, ih c⟩
  | read path next ih => exact ⟨fun c _ => ih _ c, fun _ c _ => ih _ c⟩
  | share name path next ih =>
    exact ⟨lax.sharable name path, fun c o _ _ => ih o c, fun _ c _ => ih _ c⟩

namespace Pipeline

/-- A failure under the encoding of a pipeline. -/
def Fails (p : Pipeline) (f : Failure) : Prop :=
  f.Expected ∨ (Encoding.isText p.encoding = false ∧ f.kind = .lookup)

/-- **What rendering comes to** under the encoding of a pipeline: bytes or a failure that is expected,
and never bytes but maybe the failure to use the encoding, if that is not for text. -/
def Comes (p : Pipeline) : Except Failure Bytes → Prop
  | .ok _ => Encoding.isText p.encoding = true
  | .error f => p.Fails f

/-- A pipeline with one encoding for sources and outputs, which settings accept. -/
structure Coded (p : Pipeline) : Prop where
  same : p.compiler.encoding = p.encoding
  accepted : Encoding.Accepted p.encoding

theorem coded_ofSettings {s s' : Settings} (valid : s.validate = .ok s') (workingDirectory : Text)
    (pageSource : Option Text) : (ofSettings workingDirectory s pageSource).Coded :=
  ⟨rfl, (Settings.valid_of_validate valid).1.encoding⟩

/-- Terms on which reads fail by the storage, and shared loads fail as rendering does. -/
structure Answered (p : Pipeline) (t : Terms Compiled) : Prop where
  reads : ∀ c path f, t.contents c → c path = .error f → f.kind.isStorage = true
  shared : ∀ name f, t.shared name (.error f) → p.Fails f

section

variable {p : Pipeline} {t : Terms Compiled}

theorem Coded.compile_fails (coded : p.Coded) {name : Text} {b : Bytes} {f : Failure}
    (fails : p.compiler.compile name b = .error f) : p.Fails f := by
  have accepted : Encoding.Accepted p.compiler.encoding := coded.same ▸ coded.accepted
  obtain ⟨v, is⟩ | ⟨g, is, kind⟩ | ⟨other, _, g, is, kind⟩ := Compiler.compile_cases accepted name b
  · cases is.symm.trans fails
  · obtain rfl := Except.error.inj (is.symm.trans fails)
    exact .inl (.of_compile kind)
  · obtain rfl := Except.error.inj (is.symm.trans fails)
    exact .inr ⟨coded.same ▸ other, kind⟩

/-- A load fails as rendering does. -/
theorem load_fails (p : Pipeline) (allowed : ∀ c a, t.allowed c a)
    (reads : ∀ c path f, t.contents c → c path = .error f → f.kind.isStorage = true)
    (name path : Text) (c : Contents) :
    (p.load name path).Ensures t (fun _ o => p.Coded → ∀ f, o = .error f → p.Fails f) c := by
  refine ⟨allowed _ _, allowed _ _, fun c met => ?_, fun _ c _ _ f is => ?_⟩
  · cases source : c path with
    | error f =>
      rintro - g ⟨⟩
      exact .inl (.of_storage (reads c path f met source))
    | ok b =>
      dsimp only [Routine.onEnd]
      cases compiled : p.compiler.compile name b with
      | error f =>
        rintro coded g ⟨⟩
        exact coded.compile_fails compiled
      | ok v => exact ⟨allowed _ _, allowed _ _, allowed _ _, fun _ f is => by cases is⟩
  · cases is
    exact .inl Failure.expected_cancelled

theorem Coded.resolveAt_fails (coded : p.Coded) (lax : t.Lax) (answered : p.Answered t)
    (name path : Text) (c : Contents) :
    (p.resolveAt name path).Ensures t (fun _ o => ∀ f, o = .error f → p.Fails f) c := by
  refine ⟨⟨lax.allowed _ _, ?_⟩, fun v _ => ⟨lax.allowed _ _, fun f is => by cases is⟩⟩
  change Routine.Ensures t _ (if p.singleFlight then _ else _) c
  split
  · refine ⟨lax.sharable name path, fun c o _ shared f is => ?_, fun _ c _ f is => ?_⟩
    · exact answered.shared name f (is ▸ shared)
    · cases is
      exact .inl Failure.expected_cancelled
  · exact (p.load_fails lax.allowed answered.reads name path c).mono fun _ _ fails => fails coded

/-! ### Running templates -/

/-- A machine fails with nothing that is reported about templates. -/
theorem foreign_of_onMachine {α : Type} {x : Exec α} {m : Machine} {f : Failure}
    (fails : onMachine x m = .fail f) : f.kind.isForeign = true := by
  rw [onMachine] at fails
  split at fails
  · cases fails
  · next r _ _ =>
    obtain rfl := Except.error.inj (Routine.finish.inj fails)
    exact r.foreign
  · obtain rfl := Except.error.inj (Routine.finish.inj fails)
    rfl

theorem foreign_of_variablesOf {entries : List (Value × Value)} {helper : Nat} {f : Failure}
    (fails : variablesOf entries helper = .error f) : f.kind.isForeign = true := by
  obtain fails | ⟨_, _, fails⟩ := error_of_bind fails
  · obtain ⟨⟨k, v⟩, _, fails⟩ := error_of_mapM fails
    dsimp only at fails
    split at fails
    · cases fails
    · obtain rfl := Except.error.inj fails
      rfl
  · cases fails

theorem expected_classify (template : Text) (f : Failure) : (classify template f).Expected := by
  rw [classify]
  split
  · next own => exact own
  · exact .of_render rfl

/-- **All failures of a running template are classified**, whatever it does and whatever it nests. -/
theorem execute_expected (p : Pipeline) (lax : t.Lax) (room : Nat) (v : Compiled) (own : Helper)
    (s : Stage) (c : Contents) :
    (p.execute room v own s).Ensures t (fun _ o => ∀ f, o = .error f → f.Expected) c := by
  cases room with
  | zero =>
    refine ⟨lax.allowed _ _, ?_⟩
    rintro f ⟨⟩
    exact expected_classify v.name _
  | succ room =>
    rw [execute, executeWith]
    refine Routine.Ensures.handle (Routine.ensures_of_lax lax _ c) (fun c e _ => ?_) fun _ a _ f is => ?_
    · rintro f ⟨⟩
      exact expected_classify v.name e
    · cases is

/-! ### Rendering -/

/-- The variables of a request, as they are found on the machine of its template. -/
def givenEntries (model : Option Model) : Exec (List (Value × Value)) := do
  let v ← Value.ofModel (givenModel model)
  let base ← entriesOf standardEngine v
  let es ← Exec.onHeap fun h => Entries.insertAll h #[] base
  pure es.toList

/-- A mapping gives variables. -/
theorem gives_givenEntries {model : Option Model} {entries : List (Text × Model)}
    (mapping : givenModel model = .dict entries) (m : Machine) :
    Exec.Gives (givenEntries model) m fun _ _ => True := by
  rw [givenEntries, mapping]
  refine (Value.gives_ofModel_dict entries m).bind fun v m holds => ?_
  refine (gives_entriesOf standardEngine holds).bind fun base m named => ?_
  -- setting fails only for keys that cannot be compared
  have empty : Named (#[] : Entries).toList := fun _ mem => absurd mem List.not_mem_nil
  obtain ⟨es, inserted, _⟩ := Entries.insertAll_of_named m.heap empty named
  exact (Exec.gives_onHeap (P := fun _ _ => True) inserted trivial).bind fun es m _ => .pure trivial

/-- The bytes of an output. -/
def encoded (p : Pipeline) (rule : Replacement) (template output : Text) : Except Failure Bytes :=
  match Encoding.encode p.encoding rule output with
  | .ok (.ok bytes) => .ok bytes
  | .ok (.error (reason, f)) =>
    let text : Text := "Output cannot be encoded as " ++ p.encoding ++ ": " ++ reason
    .error (.because { kind := .render, text := some text, template := some template } f)
  | .error f => .error f

/-- To render a template is to find its variables, to run it and to encode what it says. -/
theorem render_eq (p : Pipeline) (rule : Replacement) (v : Compiled) (model : Option Model) :
    p.render rule v model = (do
      let (entries, m) ← onMachine (givenEntries model) { strict := p.compiler.strictUndefined }
      let (output, _) ← p.execute p.room v ⟨entries, [v.name]⟩ { machine := m }
      Routine.count .render
      Routine.ofExcept (p.encoded rule v.name output)) := by
  rw [render]
  congr 1
  funext x
  obtain ⟨entries, m⟩ := x
  change (p.execute _ v _ _ >>= _) = (p.execute _ v _ _ >>= _)
  congr 1
  funext x
  obtain ⟨output, m⟩ := x
  change (Routine.count _ >>= _) = (Routine.count _ >>= _)
  congr 1
  funext _
  rw [encoded]
  cases Encoding.encode p.encoding rule output with
  | error f => rfl
  | ok answer => cases answer <;> rfl

/-- What cannot be encoded is a render problem, because it cannot be encoded. -/
theorem encoded_of_unencodable {rule : Replacement} (template : Text) {output : Text} {reason : String}
    {f : Failure} (unencodable : Encoding.encode p.encoding rule output = .ok (.error (reason, f))) :
    ∃ g, p.encoded rule template output = .error g ∧ g.kind = .render ∧ g.cause? = some .encoding := by
  rw [encoded, unencodable]
  exact ⟨_, rfl, rfl, congrArg some (Encoding.kind_of_unencodable unencodable)⟩

theorem Coded.encoded_comes (coded : p.Coded) {rule : Replacement}
    (usable : Encoding.defect? false rule = none) (template output : Text) :
    p.Comes (p.encoded rule template output) := by
  obtain ⟨text, b, is⟩ | ⟨reason, f, is⟩ | ⟨other, f, is, kind⟩ :=
    coded.accepted.encode_cases usable output
  · rw [encoded, is]
    exact text
  · obtain ⟨g, fails, kind, _⟩ := encoded_of_unencodable template is
    rw [fails]
    exact .inl (.of_render kind)
  · rw [encoded, is]
    exact .inr ⟨other, kind⟩

theorem Coded.render_comes (coded : p.Coded) (lax : t.Lax) {rule : Replacement}
    (usable : Encoding.defect? false rule = none) (v : Compiled) {model : Option Model}
    {entries : List (Text × Model)} (mapping : givenModel model = .dict entries) (c : Contents) :
    (p.render rule v model).Ensures t (fun _ o => p.Comes o) c := by
  obtain ⟨es, m, is, _⟩ := gives_givenEntries mapping { strict := p.compiler.strictUndefined }
  have given : onMachine (givenEntries model) { strict := p.compiler.strictUndefined } =
      (pure (es, m) : Request _) := by
    rw [onMachine, is]
  rw [render_eq, given]
  change Routine.Ensures t _ (p.execute _ v ⟨es, [v.name]⟩ { machine := m } >>= _) c
  refine Routine.Ensures.bind (p.execute_expected lax _ v _ _ c) ?_ ?_
  · rintro c ⟨output, m⟩ _
    exact ⟨lax.allowed _ _, coded.encoded_comes usable v.name output⟩
  · exact fun c f expected => .inl (expected f rfl)

/-! ### Requests -/

/-- A failure is reported and goes on. -/
theorem reported_ensures {α : Type} {r : Request α} {P : Except Failure α → Prop} (lax : t.Lax)
    (storage other : Failure → Notice) {c : Contents} (ensures : r.Ensures t (fun _ o => P o) c) :
    (reported r storage other).Ensures t (fun _ o => P o) c := by
  refine ensures.handle (fun c f holds => ?_) fun c a holds => holds
  split
  · exact ⟨lax.allowed _ _, lax.allowed _ _, holds⟩
  · split
    · exact ⟨lax.allowed _ _, lax.allowed _ _, holds⟩
    · exact holds

theorem Coded.renderFile_comes (coded : p.Coded) (lax : t.Lax) (answered : p.Answered t) (name : Text)
    {model : Option Model} {entries : List (Text × Model)} (mapping : givenModel model = .dict entries)
    (c : Contents) : (p.renderFile name model).Ensures t (fun _ o => p.Comes o) c := by
  refine reported_ensures lax _ _ ?_
  refine Routine.Ensures.bind (coded.resolveAt_fails lax answered name _ c) (fun c v _ => ?_) ?_
  · exact ⟨lax.allowed _ _, coded.render_comes lax rfl v mapping c⟩
  · exact fun c f fails => fails f rfl

theorem Coded.renderPage_comes (coded : p.Coded) (lax : t.Lax) {model : Option Model}
    {entries : List (Text × Model)} (mapping : givenModel model = .dict entries) (c : Contents) :
    (p.renderPage model).Ensures t (fun _ o => p.Comes o) c := by
  refine reported_ensures lax _ _ ?_
  cases compiled : p.compiler.compileText ErrorPage.name p.pageSource with
  | error f => exact .inl (.of_compile (Compiler.compileText_kind compiled))
  | ok v =>
    have usable : Encoding.defect? false (Replacement.ofName "xmlcharrefreplace") = none := by
      decide
    exact ⟨lax.allowed _ _, lax.allowed _ _, coded.render_comes lax usable v mapping c⟩

end

end Pipeline

/-- A request that comes with a mapping, or with nothing. -/
def Request.Mapped : Request → Prop
  | file _ model | page model => ∃ entries, Pipeline.givenModel model = .dict entries

/-- **What requests come to.** -/
theorem Request.comes {p : Pipeline} {t : Terms Compiled} (coded : p.Coded) (lax : t.Lax)
    (answered : p.Answered t) {r : Request} (mapped : r.Mapped) (c : Contents) :
    (r.routine p).Ensures t (fun _ o => p.Comes o) c := by
  cases r with
  | file name model =>
    obtain ⟨entries, mapping⟩ := mapped
    exact coded.renderFile_comes lax answered name mapping c
  | page model =>
    obtain ⟨entries, mapping⟩ := mapped
    exact coded.renderPage_comes lax mapping c

end Stencil
