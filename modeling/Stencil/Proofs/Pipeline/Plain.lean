import Stencil.Proofs.Encoding
import Stencil.Proofs.Encoding.References
import Stencil.Proofs.Pipeline.Ensures
import Stencil.Proofs.Pipeline.Shaped
import Stencil.Proofs.Template.Plain

/-!
# What becomes of plain sources

A plain source goes through all of the pipeline: it is decoded, compiled in either mode, run and encoded
again, and nothing but its line breaks is different then. So a request for it is settled by the
template alone, wherever that comes from.

## Main definitions

- `Pipeline.Prints` — a template that writes the same bytes for every mapping
- `Pipeline.Provides` — terms on which a name is a certain template

## Main results

- `Pipeline.prints_of_plain` — what a plain source is compiled to, and what that says
- `Pipeline.Prints.renderFile_ensures` — what a request comes to for a name that is such a template
-/

namespace Stencil

open Template

namespace Encoding

/-- Whatever consists of points of a text that can be encoded, and of ASCII characters, can be encoded
too. -/
theorem encode_of_points {name : Text} {t u : Text} {b : Bytes}
    (encodes : encode name .refuse t = .ok (.ok b)) (points : ∀ c ∈ u, c ∈ t ∨ c < 128) :
    ∃ b', encode name .refuse u = .ok (.ok b') := by
  rw [encode] at encodes ⊢
  obtain ⟨_, passes, encodes⟩ := ok_of_bind encodes
  obtain ⟨codec, is, encodes⟩ := ok_of_bind encodes
  have whole : ∃ b, codec.encode .refuse t = .ok b := by
    cases encoded : codec.encode .refuse t with
    | ok b => exact ⟨b, rfl⟩
    | error fault =>
      rw [encoded] at encodes
      cases encodes
  -- nothing is replaced, so the encoding has each of the points
  have has : ∀ c ∈ t, (codec.unit? c).isSome = true := by
    intro c mem
    exact ((codec.encode_succeeds .refuse t).mp whole c mem).resolve_right Bool.false_ne_true
  obtain ⟨b', is'⟩ := (codec.encode_succeeds .refuse u).mpr fun c mem =>
    .inl ((points c mem).elim (has c) (Codec.isSome_unit_of_ascii codec))
  exact ⟨b', by rw [passes, is]; simp [is', bind, Except.bind, pure, Except.pure]⟩

end Encoding

namespace Pipeline

/-- A template that writes these bytes for every mapping, without a step that waits for anything. -/
def Prints (p : Pipeline) (v : Compiled) (bytes : Bytes) : Prop :=
  ∀ model entries, givenModel model = .dict entries →
    p.render .refuse v model = .act (.run v) (.act (.count .render) (.finish (.ok bytes)))

variable {p : Pipeline}

/-- **A plain source** is compiled, unless its template has a name with a NUL, and what it is compiled to
says what the source reads as. -/
theorem prints_of_plain (coded : p.compiler.encoding = p.encoding) {name : Text} (whole : 0 ∉ name)
    {b : Bytes} {t : Text} (plain : Source.Plain t)
    (decodes : Encoding.decode p.encoding .refuse b = .ok (.ok t))
    (encodes : Encoding.encode p.encoding .refuse t = .ok (.ok b)) :
    ∃ v bytes, p.compiler.compile name b = .ok v ∧ p.Prints v bytes ∧
      Encoding.encode p.encoding .refuse (Source.normalize p.compiler.spacing t) = .ok (.ok bytes) := by
  obtain ⟨v, program, compiled, named, executable, shaped⟩ :=
    p.compiler.compileText_of_plain whole plain
  have points : ∀ c ∈ Source.normalize p.compiler.spacing t, c ∈ t ∨ c < 128 := by
    intro c mem
    refine (Source.mem_normalize mem).imp_right ?_
    rintro rfl
    decide
  obtain ⟨bytes, converted⟩ := Encoding.encode_of_points encodes points
  refine ⟨v, bytes, ?_, fun model entries mapping => ?_, converted⟩
  · rw [Compiler.compile, coded, decodes]
    exact compiled
  · obtain ⟨es, m, given, all, stands⟩ :=
      stands_givenEntries mapping { strict := p.compiler.strictUndefined }
    obtain ⟨s, run⟩ := p.execute_shaped executable shaped (Skeleton.sound_ofText _)
      (fun _ mem => absurd mem List.not_mem_nil) (fun _ mem => absurd mem List.not_mem_nil) all stands
    have found : onMachine (givenEntries model) { strict := p.compiler.strictUndefined } =
        (pure (es, m) : Request _) := by
      rw [onMachine, given]
    have written : p.encoded .refuse v.name (Source.normalize p.compiler.spacing t) = .ok bytes := by
      rw [encoded, converted]
    rw [render_eq, found]
    change (p.execute _ _ _ _ >>= _) = _
    rw [run, Skeleton.write_ofText]
    change Routine.act _ (.act _ (.finish (p.encoded .refuse v.name _))) = _
    rw [written]

/-- Terms on which a name is a certain template: whatever is found, told or read for it comes to that. -/
structure Provides (p : Pipeline) (t : Terms Compiled) (name : Text) (v : Compiled) : Prop where
  found : ∀ w, t.found name w → w = v
  shared : ∀ o, t.shared name o → o = .ok v
  stored : ∀ c, t.contents c → p.resolution c name = .ok v
  sharable : t.sharable name (p.templatePath name)
  keep : ∀ c, t.allowed c (.keep name v)
  run : ∀ c, t.allowed c (.run v)
  reports : ∀ c (a : Act Compiled), a.reports → t.allowed c a

variable {t : Terms Compiled} {name : Text} {v : Compiled}

/-- On these terms the name resolves to the template, unless the request is cancelled. -/
theorem Provides.resolve_ensures (provides : p.Provides t name v) {c : Contents} (met : t.contents c) :
    (p.resolve name).Ensures t (fun _ o => o = .ok v ∨ t.cancellable ∧ o = .error .cancelled) c := by
  refine ⟨⟨provides.reports _ _ trivial, ?_⟩, fun w found => ?_⟩
  · change Routine.Ensures t _ (if p.singleFlight then _ else _) c
    split
    · exact ⟨provides.sharable, fun c o _ told => .inl (provides.shared o told),
        fun may c _ => .inr ⟨may, rfl⟩⟩
    · have keep : ∀ c w, t.contents c → p.resolution c name = .ok w → t.allowed c (.keep name w) := by
        intro c w met is
        obtain rfl := Except.ok.inj ((provides.stored c met).symm.trans is)
        exact provides.keep c
      refine ((p.load_ensures provides.reports keep c).met met).mono ?_
      rintro c o ⟨met, rfl | cancelled⟩
      · exact .inl (provides.stored c met)
      · exact .inr cancelled
  · exact ⟨provides.reports _ _ trivial, .inl (by rw [provides.found w found])⟩

/-- **A request for a name** that is a template which says the same to all comes to these bytes, unless it
is cancelled. -/
theorem Prints.renderFile_ensures {bytes : Bytes} (prints : p.Prints v bytes) (provides : p.Provides t name v)
    {model : Option Model} {entries : List (Text × Model)} (mapping : givenModel model = .dict entries)
    {c : Contents} (met : t.contents c) :
    (p.renderFile name model).Ensures t
      (fun _ o => o = .ok bytes ∨ t.cancellable ∧ o = .error .cancelled) c := by
  refine (show Routine.Ensures t (fun _ o => o = .ok bytes ∨ t.cancellable ∧ o = .error .cancelled) _ c
    from ?_).handle (fun c f ends => ?_) fun c a ends => ends
  · refine (provides.resolve_ensures met).bind (fun c w ends => ?_) fun c f ends => ?_
    · obtain is | ⟨-, is⟩ := ends
      · obtain rfl := Except.ok.inj is
        refine ⟨provides.reports _ _ trivial, ?_⟩
        change Routine.Ensures t _ (p.render .refuse w model) c
        rw [prints model entries mapping]
        exact ⟨provides.run _, provides.reports _ _ trivial, .inl rfl⟩
      · cases is
    · obtain is | ⟨may, is⟩ := ends
      · cases is
      · obtain rfl := Except.error.inj is
        exact .inr ⟨may, rfl⟩
  · obtain is | ⟨may, is⟩ := ends
    · cases is
    · obtain rfl := Except.error.inj is
      exact .inr ⟨may, rfl⟩

end Pipeline

end Stencil
