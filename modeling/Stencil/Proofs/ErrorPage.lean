import Stencil.Proofs.Encoding.References
import Stencil.Proofs.ErrorPage.Skeleton
import Stencil.Proofs.Pipeline.Shaped

/-!
# The error page always renders

The built-in error page has a skeleton, so it shows every mapping of values that have a text, whatever is
missing from it; and since what the encoding does not have is written as character references, there are
always bytes. All that a request for the page does is to count one render and to say what it is doing.

## Main definitions

- `ErrorPage.Showable` — mappings of values that have a text
- `ErrorPage.text` — the text of the page for a mapping

## Main results

- `Pipeline.renderPage_eq` — all that a request for the page does
- `ErrorPage.showable_model` — what a failure is shown with can be shown
- `Session.render_page` — the page of a service renders at once and touches nothing
-/

namespace Stencil

open Template

namespace ErrorPage

/-! ### What the page shows -/

/-- A mapping of values that have a text. -/
def Showable (entries : List (Text × Model)) : Prop :=
  ∀ e ∈ entries, e.2.Printable

/-- The text of the page for a mapping; a name has the value that it was given last. -/
def text (c : Compiler) (entries : List (Text × Model)) : Text :=
  (skeleton c.spacing.trimBlocks c.spacing.keepTrailingNewline).write c.autoEscape
    (Table.last? entries)

/-- **What a failure is shown with** can be shown, unless it has a line number that is too long. -/
theorem showable_model (f : Failure) (title : Option Text) (trace : Text)
    (short : ∀ i, f.problem.line = some i → (Model.int i).isShort = true) :
    Showable (model f title trace) := by
  have none : Model.Printable .none := ⟨by decide, rfl⟩
  have ofText? (t : Option Text) : (Model.ofText? t).Printable := by
    cases t with
    | none => exact none
    | some t => exact Model.printable_str t
  intro e mem
  simp only [model, List.mem_cons, List.not_mem_nil, or_false] at mem
  obtain rfl | rfl | rfl | rfl | rfl | rfl := mem
  case inr.inr.inr.inr.inl =>
    cases line : f.problem.line with
    | none => exact none
    | some i => exact ⟨show 1 ≤ nestingLimit by decide, short i line⟩
  all_goals first | exact Model.printable_str _ | exact ofText? _

/-- Bytes are the encoding of the text of the page for a mapping, with references for what the encoding
does not have. -/
def Shows (p : Pipeline) (entries : List (Text × Model)) (bytes : Bytes) : Prop :=
  ∃ codec, Encoding.find p.encoding = .codec codec ∧
    codec.encode .refuse (codec.referenced (text p.compiler entries)) = .ok bytes

theorem printable_last {entries : List (Text × Model)} (showable : Showable entries) {name : Text}
    {x : Model} (is : Table.last? entries name = some x) : x.Printable := by
  obtain ⟨before, after, split, _⟩ := List.lookup_eq_some_iff.mp is
  refine showable (name, x) (List.mem_reverse.mp ?_)
  rw [split]
  exact List.mem_append_right _ List.mem_cons_self

end ErrorPage

namespace Pipeline

variable {p : Pipeline}

/-- **All that a request for the bundled page does**: it says what it is doing, runs the page, counts a
render and ends with bytes, the encoding of the text of the page with references for what the encoding
does not have. -/
theorem renderPage_eq (bundled : p.pageSource = ErrorPage.source)
    (accepted : Encoding.Accepted p.encoding) (isText : Encoding.isText p.encoding = true)
    {model : Option Model} {entries : List (Text × Model)}
    (mapping : givenModel model = .dict entries) (showable : ErrorPage.Showable entries) :
    ∃ v bytes, ErrorPage.Shows p entries bytes ∧ p.renderPage model =
        .act (.note (.compiled ErrorPage.name p.compiler.static)) (
        .act (.note (.rendering ErrorPage.name)) (
        .act (.run v) (
        .act (.count .render) (.finish (.ok bytes))))) := by
  obtain ⟨v, compiled, name, static, program, executable, shaped⟩ := ErrorPage.shaped p.compiler
  obtain ⟨es, m, given, named, stands⟩ :=
    stands_givenEntries mapping { strict := p.compiler.strictUndefined }
  have apart : ∀ name ∈ ErrorPage.names,
      (name == helperName) = false ∧ (globals.lookup name).isNone = true := by
    decide +kernel
  obtain ⟨s, run⟩ := p.execute_shaped executable shaped (ErrorPage.skeleton_sound _ _) apart
    (fun _ _ _ is => ErrorPage.printable_last showable is) named stands
  obtain ⟨codec, bytes, found, converted, is⟩ :=
    Encoding.encode_references accepted isText (ErrorPage.text p.compiler entries)
  have whole : p.encoded .characterReference v.name (ErrorPage.text p.compiler entries) =
      .ok bytes := by
    rw [encoded, converted]
  refine ⟨v, bytes, ⟨codec, found, is⟩, ?_⟩
  have entries : onMachine (givenEntries model) { strict := p.compiler.strictUndefined } =
      (pure (es, m) : Request _) := by
    rw [onMachine, given]
  have rule : Replacement.ofName "xmlcharrefreplace" = .characterReference := by decide +kernel
  rw [renderPage, bundled, compiled, rule]
  simp only [render_eq, entries]
  rw [← name, ← static]
  change reported (.act _ (.act _ (p.execute _ _ _ _ >>= _))) _ _ = _
  rw [run]
  change Routine.act _ (.act _ (.act _ (.act _ (Routine.handle (.finish
    (p.encoded .characterReference v.name (ErrorPage.text p.compiler _))) _)))) = _
  rw [whole]
  rfl

end Pipeline

/-- What a page leaves behind in a deployment: one more render and two notices. -/
def Deployment.afterPage (d : Deployment) (service : Nat) (static : Bool) : Deployment :=
  { d with
    services := d.services.modify service fun v =>
      { v with metrics := v.metrics.recordRender (.real 0.0) }
    notices := d.notices ++ [.compiled ErrorPage.name static, .rendering ErrorPage.name] }

/-- The first turn of a request for the page ends it, whatever loads have landed. -/
theorem Deployment.turn_page {p : Pipeline} (bundled : p.pageSource = ErrorPage.source)
    (accepted : Encoding.Accepted p.encoding) (isText : Encoding.isText p.encoding = true)
    {model : Option Model} {entries : List (Text × Model)}
    (mapping : Pipeline.givenModel model = .dict entries) (showable : ErrorPage.Showable entries) :
    ∃ bytes, ErrorPage.Shows p entries bytes ∧ ∀ service landed d,
      host.turn service landed false (.fresh (p.renderPage model)) d =
        some (.ended (.ok bytes), d.afterPage service p.compiler.static) := by
  obtain ⟨v, bytes, shows, is⟩ := Pipeline.renderPage_eq bundled accepted isText mapping showable
  refine ⟨bytes, shows, fun service landed d => ?_⟩
  have notices (a b : Notice) : d.notices ++ [a] ++ [b] = d.notices ++ [a, b] := by simp
  rw [is, Deployment.afterPage, ← notices]
  rfl

/-- A request that ends in its first turn is all that happens when it is rendered now. -/
theorem Scheduler.runNow_of_turn {σ V α : Type} {h : Host σ V} (s : Scheduler σ V α) {service : Nat}
    {r : Routine V α} {outcome : Except Failure α} {x : σ}
    (turn : ∀ landed, h.turn service landed false (.fresh r) s.state = some (.ended outcome, x)) :
    runNow h s service r = (some outcome, { s with
      state := x
      jobs := s.jobs ++ [{ service, work := .request (.ended outcome) }]
      queue := s.queue ++ [.report s.jobs.length] }) := by
  let job : Job V α := { service, work := .request (.fresh r) }
  let ended : Job V α := { service, work := .request (.ended outcome) }
  have last (j : Job V α) : (s.jobs ++ [j])[s.jobs.length]? = some j := List.getElem?_concat_length
  have modified (j : Job V α) (f : Job V α → Job V α) :
      (s.jobs ++ [j]).modify s.jobs.length f = s.jobs ++ [f j] := by
    induction s.jobs with
    | nil => rfl
    | cons first rest ih => simp [ih]
  have ran : takeTurn h { s with jobs := s.jobs ++ [job] } s.jobs.length = { s with
      state := x, jobs := s.jobs ++ [ended], queue := s.queue ++ [.report s.jobs.length] } := by
    rw [takeTurn, job?, last]
    simp only [job, turn]
    rw [settle, setWork, setJob]
    simp only [List.set_append_right _ _ (Nat.le_refl _), Nat.sub_self, List.set_cons_zero, modified]
    rw [ending, job?, last]
    rfl
  have done : hasEnded { s with
      state := x, jobs := s.jobs ++ [ended], queue := s.queue ++ [.report s.jobs.length] }
      s.jobs.length = true := by
    rw [hasEnded, job?, last]
    rfl
  simp only [runNow]
  rw [ran, stepLimit, runUntil, done, Bool.true_or, if_pos rfl, outcome?, job?, last]
  rfl

section

variable (s : Session) {service : Nat} {v : Service} {model : Option Model}
  {entries : List (Text × Model)}

/-- In every state of a session a request for the page ends in the turn in which it begins. -/
theorem Session.render_page_eq (there : s.state.services[service]? = some v)
    (bundled : v.pipeline.pageSource = ErrorPage.source)
    (accepted : Encoding.Accepted v.pipeline.encoding)
    (isText : Encoding.isText v.pipeline.encoding = true)
    (mapping : Pipeline.givenModel model = .dict entries) (showable : ErrorPage.Showable entries) :
    ∃ bytes, ErrorPage.Shows v.pipeline entries bytes ∧
      s.render service (.page model) = (some (.ok bytes), { s with
        state := s.state.afterPage service v.pipeline.compiler.static
        jobs := s.jobs ++ [{ service, work := .request (.ended (.ok bytes)) }]
        queue := s.queue ++ [.report s.jobs.length] }) := by
  obtain ⟨bytes, shows, turn⟩ := Deployment.turn_page bundled accepted isText mapping showable
  refine ⟨bytes, shows, ?_⟩
  have routine : s.routine service (.page model) = v.pipeline.renderPage model := by
    rw [Session.routine, there]
    rfl
  rw [Session.render, routine]
  exact s.runNow_of_turn fun landed => turn service landed s.state

end

end Stencil
