import Stencil.Proofs.Pipeline.Ensures
import Stencil.Session

/-!
# Nested names

A template that is rendered by another one is resolved by its name, as a request for it would be: the same
key is looked up, and on a miss a source is read and compiled under that name. Only the path may differ,
because the path of a safe name has the directory escaped.

## Main definitions

- `Pipeline.nestedPath` — the path that a nested name is read from
- `Pipeline.Faithful` — a value that is resolved as its text would be
- `Host.goOn` — how far a routine runs that goes on after another one

## Main results

- `Pipeline.nestedPath_eq_iff` — which values are read from the path of their text
- `Host.advance_onEnd` — a routine that goes on after another one runs after it
- `Pipeline.nested_resolves_alike`
-/

namespace Stencil

open Template Deployment

namespace Markup

/-- What stands for a special character is longer than it by three at least. -/
theorem length_escapePoint {c : CodePoint} (special : c ∈ ([38, 60, 62, 34, 39] : List CodePoint)) :
    4 ≤ (escapePoint c).length :=
  (by decide : ∀ c ∈ ([38, 60, 62, 34, 39] : List CodePoint), 4 ≤ (escapePoint c).length) c special

/-- Escaping leaves a text as it is, or makes it longer by more than one. -/
theorem plain_or_longer (t : Text) :
    (Plain t ∧ escape t = t) ∨ (¬Plain t ∧ t.length + 1 < (escape t).length) := by
  induction t with
  | nil => exact .inl ⟨fun c mem => (by cases mem), rfl⟩
  | cons c t ih =>
    have whole : (escape (c :: t)).length = (escapePoint c).length + (escape t).length := by
      rw [escape, List.flatMap_cons, List.length_append, ← escape]
    by_cases special : c ∈ ([38, 60, 62, 34, 39] : List CodePoint)
    · refine .inr ⟨fun plain => plain c List.mem_cons_self special, ?_⟩
      have longer := length_escapePoint special
      have rest : t.length ≤ (escape t).length := by
        obtain ⟨_, same⟩ | ⟨_, longer⟩ := ih
        · exact Nat.le_of_eq (congrArg List.length same).symm
        · omega
      rw [whole, List.length_cons]
      omega
    · obtain ⟨plain, -⟩ | ⟨rough, longer⟩ := ih
      · have plain : Plain (c :: t) := List.forall_mem_cons.mpr ⟨special, plain⟩
        exact .inl ⟨plain, escape_of_plain plain⟩
      · refine .inr ⟨fun plain => rough fun d mem => plain d (List.mem_cons_of_mem c mem), ?_⟩
        have own : escape [c] = [c] :=
          escape_of_plain fun d mem => List.mem_singleton.mp mem ▸ special
        rw [escape, List.flatMap_singleton] at own
        rw [whole, own, List.length_cons, List.length_singleton]
        omega

end Markup

namespace Path

theorem length_join {a b : Text} (relative : isAbsolute b = false) :
    a.length + b.length ≤ (join a b).length ∧ (join a b).length ≤ a.length + 1 + b.length := by
  rw [join, if_neg (Bool.eq_false_iff.mp relative)]
  split
  · rw [List.length_append]
    omega
  · rw [List.length_append, List.length_cons]
    omega

end Path

namespace Pipeline

/-- The path that a nested name is read from: a safe name has the directory escaped. -/
def nestedPath (p : Pipeline) : Value → Text
  | .safe t _ => if Path.isAbsolute t then t else Path.join (Markup.escape p.templateDir) t
  | v => p.templatePath (v.asText?.getD [])

/-- A text that is resolved as a request for it would be: a safe one only if it is a path of its own, or if
nothing is escaped in the directory. -/
def Faithful (p : Pipeline) : Value → Prop
  | .safe t _ => Path.isAbsolute t = true ∨ Markup.Plain p.templateDir
  | _ => True

/-- **A nested name is read from the path of its text** exactly if it is faithful. -/
theorem nestedPath_eq_iff (p : Pipeline) {value : Value} {t : Text} (text : value.asText? = some t) :
    p.nestedPath value = p.templatePath t ↔ p.Faithful value := by
  cases value with
  | str t' h =>
    obtain rfl := Option.some.inj text
    exact iff_of_true rfl trivial
  | safe t' h =>
    obtain rfl := Option.some.inj text
    rw [nestedPath, Faithful]
    cases absolute : Path.isAbsolute t' with
    | true =>
      have alone : p.templatePath t' = t' := by rw [templatePath, Path.join, absolute]; rfl
      exact iff_of_true alone.symm (.inl rfl)
    | false =>
      rw [templatePath, if_neg Bool.false_ne_true]
      obtain ⟨plain, same⟩ | ⟨rough, longer⟩ := Markup.plain_or_longer p.templateDir
      · rw [same]
        exact iff_of_true rfl (.inr plain)
      · refine iff_of_false (fun same => ?_) (or_iff_right Bool.false_ne_true |>.not.mpr rough)
        have at_least := (Path.length_join (a := Markup.escape p.templateDir) absolute).1
        have at_most := (Path.length_join (a := p.templateDir) absolute).2
        rw [same] at at_least
        omega
  | _ => cases text

/-! ### What goes on after a name is resolved -/

/-- How a nested call goes on with the outcome of its name. -/
def nestedWith (run : Compiled → Helper → Stage → Request (Text × Stage))
    (call : HelperCall) (s : Stage) (t : Text) : Except Failure Compiled → Request (Value × Stage)
  | .ok v => do
    let helper := s.helpers.getD call.helper default
    let (entries, m) ← onMachine (nestedModel helper.model call) s.machine
    let (output, s) ← run v ⟨entries, helper.chain ++ [t]⟩ { s with machine := m }
    pure (.safe output, s)
  | .error f => .fail (nestedFailure t ((s.helpers.getD call.helper default).chain.getLastD []) f)

/-- How a request for a name goes on with its outcome. -/
def fileWith (p : Pipeline) (t : Text) (model : Option Model) :
    Except Failure Compiled → Request Bytes
  | .ok v => reported (do
      Routine.note (.rendering v.name)
      p.render .refuse v model) (.loadFailed t) (.renderFailed t)
  | .error f => reported (.fail f) (.loadFailed t) (.renderFailed t)

theorem renderFile_eq (p : Pipeline) (t : Text) (model : Option Model) :
    p.renderFile t model = (p.resolve t).onEnd (p.fileWith t model) := by
  rw [renderFile, reported, Routine.handle]
  refine (Routine.onEnd_onEnd _ _ _).trans (congrArg _ (funext fun o => ?_))
  cases o <;> rfl

theorem resolveValue_eq (p : Pipeline) {value : Value} {t : Text} (text : value.asText? = some t)
    (m : Machine) :
    p.resolveValue value m = (p.resolveAt t (p.nestedPath value)).bind fun v => .finish (.ok (v, m)) := by
  cases value with
  | str t' h | safe t' h =>
    obtain rfl := Option.some.inj text
    rfl
  | _ => cases text

theorem nested_eq (p : Pipeline) (run : Compiled → Helper → Stage → Request (Text × Stage))
    {call : HelperCall} {t : Text} (text : call.name.asText? = some t) {s : Stage}
    (shallow : (s.helpers.getD call.helper default).chain.length < p.maxDepth) :
    p.nested run call s = (p.resolveAt t (p.nestedPath call.name)).onEnd (nestedWith run call s t) := by
  rw [nested, if_neg (by omega), prepare, resolveValue_eq p text, text]
  simp only [Bind.bind, Routine.bind, Routine.handle, Routine.onEnd_onEnd]
  refine congrArg _ (funext fun o => ?_)
  cases o with
  | error f => rfl
  | ok v =>
    refine (Routine.onEnd_onEnd _ _ _).trans (congrArg _ (funext fun o => ?_))
    cases o <;> rfl

end Pipeline

namespace Host

variable {σ V α β : Type}

/-- How far a routine runs that goes on with the outcome of another one, once that has stopped. -/
def goOn (h : Host σ V) (service : Nat) (landed : Text → Option (Except Failure V))
    (k : Except Failure α → Routine V β) : Halt V α × σ → Halt V β × σ
  | (.ended o, s) => h.advance service landed (k o) s
  | (.held path next, s) => (.held path fun b => (next b).onEnd k, s)
  | (.paused path next, s) => (.paused path fun b => (next b).onEnd k, s)
  | (.sharing name path next, s) => (.sharing name path fun o => (next o).onEnd k, s)

/-- **A routine that goes on after another one** runs as far as that one does. It stops where that one has to
wait, and goes on if that one ends. -/
theorem advance_onEnd (h : Host σ V) (service : Nat) (landed : Text → Option (Except Failure V))
    (k : Except Failure α → Routine V β) (r : Routine V α) (s : σ) :
    h.advance service landed (r.onEnd k) s =
      h.goOn service landed k (h.advance service landed r s) := by
  induction r generalizing s with
  | finish o => rfl
  | lookup name next ih => exact ih _ _
  | act a next ih => exact ih _
  | read path next ih =>
    rw [Routine.onEnd, advance, advance]
    split <;> rfl
  | share name path next ih =>
    rw [Routine.onEnd, advance, advance]
    cases landed name with
    | none => rfl
    | some outcome => exact ih outcome _

end Host

namespace Pipeline

/-- **A nested name is resolved like that of a request.** A helper call with a text for its name looks the
same key up and has the same source compiled, and goes on with what that comes to. It reads the same path
exactly if the name is faithful. Then, in whatever state of the deployment, both run up to the same read or
the same shared load, and the template is found or not found for both. -/
theorem nested_resolves_alike (p : Pipeline) (run : Compiled → Helper → Stage → Request (Text × Stage))
    {call : HelperCall} {t : Text} (text : call.name.asText? = some t) {s : Stage}
    (shallow : (s.helpers.getD call.helper default).chain.length < p.maxDepth) (model : Option Model) :
    p.nested run call s = (p.resolveAt t (p.nestedPath call.name)).onEnd (nestedWith run call s t) ∧
      p.renderFile t model = (p.resolveAt t (p.templatePath t)).onEnd (p.fileWith t model) ∧
      (p.nestedPath call.name = p.templatePath t ↔ p.Faithful call.name) ∧
      (p.Faithful call.name → ∀ service landed d,
        let found := host.advance service landed (p.resolve t) d
        host.advance service landed (p.nested run call s) d =
            host.goOn service landed (nestedWith run call s t) found ∧
          host.advance service landed (p.renderFile t model) d =
            host.goOn service landed (p.fileWith t model) found) := by
  have nests := p.nested_eq run text shallow
  have same := p.nestedPath_eq_iff text
  refine ⟨nests, p.renderFile_eq t model, same, fun faithful service landed d => ?_⟩
  rw [nests, same.mpr faithful, renderFile_eq]
  exact ⟨host.advance_onEnd service landed _ _ d, host.advance_onEnd service landed _ _ d⟩

/-- A safe name in a directory in which nothing is escaped. -/
theorem nested_resolves_alike_safe :
    let p : Pipeline := { templateDir := "t" }
    let call : HelperCall := { helper := 0, name := .safe "x", model := .none, values := [] }
    let s : Stage := { machine := { strict := true }, helpers := [⟨[], ["page"]⟩] }
    let d : Deployment := .create [(p, 1)] none (.memory {})
    let landed (_ : Text) : Option (Except Failure Compiled) := none
    call.name.asText? = some "x" ∧ p.Faithful call.name ∧
      host.advance 0 landed (p.nested (p.execute 1) call s) d =
        host.goOn 0 landed (nestedWith (p.execute 1) call s "x") (host.advance 0 landed (p.resolve "x") d) := by
  intro p call s d landed
  have plain : p.Faithful call.name := .inr (by unfold Markup.Plain; decide)
  exact ⟨rfl, plain, ((p.nested_resolves_alike (p.execute 1) (t := "x") rfl (s := s) (by decide)
    none).2.2.2 plain 0 landed d).1⟩

/-- The directory of the templates is escaped in the path of a safe name, so that a template is not found
under it that a request finds. -/
theorem escaped_directory_misses :
    let p : Pipeline := { templateDir := "/a&b" }
    let m : MemoryStorage := { files := [
      ("/a&b/x", ("plain" : Text).map UInt8.ofNat),
      ("/a&b/outer", ("\x7b\x7b render(n) \x7d\x7d" : Text).map UInt8.ofNat)] }
    let s : Session := .start (.create [(p, 10)] none (.memory m))
    let nested : Stencil.Request := .file "outer" (some (.dict [("n", .safe "x")]))
    (s.render 0 (.file "x" none)).1 = some (.ok (("plain" : Text).map UInt8.ofNat)) ∧
      ((s.render 0 nested).1.map fun o => o.mapError Failure.kind) = some (.error .render) := by
  decide +kernel

end Pipeline

end Stencil
