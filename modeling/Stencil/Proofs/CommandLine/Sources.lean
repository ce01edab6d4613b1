import Stencil.Proofs.CommandLine.Delivery
import Stencil.Proofs.CommandLine.LineEnds
import Stencil.Proofs.Encoding.Utf8

/-!
# Where a model comes from

A model is given as an argument, or in a file as UTF-8. A call does the same with either, except that an
empty argument counts as no model at all.

## Main definitions

- `Invocation.supplied` — a call with a model from a source of its own
- `modelLimits` — how large a model may be
- `Parity` — how calls end that differ in the source of their model

## Main results

- `parseModel_unified` — a text with unified line ends is the same model, or is refused for the same reason
- `model_sources_agree` — a model from a file is treated like an argument
-/

namespace Stencil

namespace CommandLine

open Shell

/-- How large a model may be. -/
def modelLimits (depth : Nat) : Json.Limits :=
  { digits := 4300, nesting := depth }

/-- A call whose model comes from an argument or from a file. -/
def Invocation.supplied (inv : Invocation) (model modelFile : Option Text) (flags : List Flag) :
    Invocation :=
  { inv with given := { inv.given with model, modelFile, flags } }

/-! ### Models -/

/-- What a text is as a model, with the line ends of either source. -/
inductive Verdict (depth : Nat) (t : Text) : Except Failure (Except Text (List (Text × Model))) →
    Except Failure (Except Text (List (Text × Model))) → Prop where
  | object (is : Json.ObjectDocument (modelLimits depth) t) (model : List (Text × Model)) :
      Verdict depth t (.ok (.ok model)) (.ok (.ok model))
  | refused (no : ¬Json.ObjectDocument (modelLimits depth) t) (e e' : Text) :
      Verdict depth t (.ok (.error e)) (.ok (.error e'))
  | tooDeep (no : ¬Json.ObjectDocument (modelLimits depth) t) (deep : depth < Json.openings t)
      {f : Failure} (kind : f.kind = .recursion) : Verdict depth t (.error f) (.error f)

/-- **A text with unified line ends** is the same model, or is refused for the same reason. -/
theorem parseModel_unified (depth : Nat) (t : Text) :
    Verdict depth t (parseModel depth t) (parseModel depth (unifyLineEnds t)) := by
  have object := Json.read_obj_iff (modelLimits depth) (t := t)
  have alike := read_unified (modelLimits depth) t
  have deep {container : String} (fails : Json.read (some (modelLimits depth)) t = .error (.tooDeep container)) :
      depth < Json.openings t := Json.lt_openings_of_read fails
  unfold modelLimits at object alike deep
  unfold parseModel
  generalize Json.read (some { digits := 4300, nesting := depth }) t = x at object alike deep
  generalize Json.read (some { digits := 4300, nesting := depth }) (unifyLineEnds t) = y at alike
  cases alike with
  | ok j =>
    cases j with
    | obj members => exact .object (object.mp ⟨members, rfl⟩) _
    | _ =>
      refine .refused (fun is => ?_) _ _
      obtain ⟨_, e⟩ := object.mpr is
      cases e
  | @error fault fault' same =>
    have no : ¬Json.ObjectDocument (modelLimits depth) t := by
      intro is
      obtain ⟨_, e⟩ := object.mpr is
      cases e
    cases fault with
    | tooDeep container =>
      cases fault' with
      | tooDeep container' =>
        obtain rfl := Option.some.inj same
        exact .tooDeep no (deep rfl) rfl
      | _ => cases same
    | malformed =>
      cases fault' with
      | tooDeep => cases same
      | _ => exact .refused no _ _
    | tooLong =>
      cases fault' with
      | tooDeep => cases same
      | _ => exact .refused no _ _

/-! ### Calls -/

section
variable (around : Surroundings) {inv : Invocation} {command : Command} {w : World}

/-- A model that is refused ends a call. -/
theorem execute_of_refused {e : Text}
    (refused : inv.given.readModel around.modelDepth w.tree = .ok (.error e)) :
    ∃ w', (execute around inv command).run w = (.ok .usage, w') ∧ Kept w w' := by
  obtain ⟨w', ran, kept⟩ := kept_of_problems (problems inv.given (.error e)) w
  refine ⟨w', ?_, kept⟩
  rw [execute, run_bind, run_loadModel, refused]
  exact ran

/-- A failure to read a model is not looked for. -/
theorem execute_of_failure {f : Failure}
    (fails : inv.given.readModel around.modelDepth w.tree = .error f) :
    (execute around inv command).run w = (.error f, w) := by
  rw [execute, run_bind, run_loadModel, fails]

/-- What a call does with a model does not depend on where it comes from. -/
theorem execute_of_model {text text' path path' : Option Text} {flags flags' : List Flag}
    {model : List (Text × Model)}
    (read : (inv.supplied text path flags).given.readModel around.modelDepth w.tree = .ok (.ok model))
    (read' : (inv.supplied text' path' flags').given.readModel around.modelDepth w.tree = .ok (.ok model)) :
    (execute around (inv.supplied text path flags) command).run w =
      (execute around (inv.supplied text' path' flags') command).run w := by
  rw [execute, execute, run_bind, run_bind, run_loadModel, run_loadModel, read, read']
  rfl

end

/-- The model of an argument that is not empty is what its text stands for. -/
theorem readModel_text (inv : Invocation) {t : Text} (filled : t ≠ []) (flags : List Flag) (depth : Nat)
    (tree : FileTree) :
    (inv.supplied (some t) none flags).given.readModel depth tree = parseModel depth t := by
  obtain ⟨c, rest, rfl⟩ := List.exists_cons_of_ne_nil filled
  rfl

/-- The model of a file is what its text stands for, with unified line ends. -/
theorem readModel_file (inv : Invocation) {t path file : Text} {bytes : Bytes} {tree : FileTree}
    (points : ∀ c ∈ t, c ≤ 0x10FFFF) (encoded : Codec.utf8.encode .refuse t = .ok bytes)
    (given : path ≠ []) (named : LocalStorage.file none path = .ok file)
    (content : tree.read file = .ok bytes) (flags : List Flag) (depth : Nat) :
    (inv.supplied none (some path) flags).given.readModel depth tree =
      parseModel depth (unifyLineEnds t) := by
  obtain ⟨c, rest, rfl⟩ := List.exists_cons_of_ne_nil given
  have nonempty : (inv.supplied none (some (c :: rest)) flags).given.modelFile.filter (!·.isEmpty) =
      some (c :: rest) := rfl
  simp only [Given.readModel, loadModel, nonempty, named, run_bind, Shell.read, Shell.run, content]
  change parseModelFile depth bytes = _
  rw [parseModelFile, Encoding.decode_utf8 points encoded]

/-- The only file of a tree is read under its path. -/
theorem read_only (content : Bytes) :
    ({ entries := [([("m" : Text)], .file content)] } : FileTree).read "/m" = .ok content := by
  have parts : Path.parts ("/m" : Text) = [("m" : Text)] := by decide +kernel
  have named : FileTree.IsEntryName "m" := ⟨by decide, by decide, by decide, by decide⟩
  rw [FileTree.read_eq_bind, FileTree.locate, if_neg (by decide), if_pos (by decide), parts,
    FileTree.walk_entry _ _ _ _ named]
  rfl

/-- How calls end of which one is given a text as its model, and one a file with it. -/
structure Parity (around : Surroundings) (command : Command) (t : Text) (w : World)
    (inline filed : Invocation) : Prop where
  /-- An object is the same model for both, and both do the same with it. -/
  accepted : t ≠ [] → Json.ObjectDocument (modelLimits around.modelDepth) t → ∃ model,
    inline.given.readModel around.modelDepth w.tree = .ok (.ok model) ∧
    filed.given.readModel around.modelDepth w.tree = .ok (.ok model) ∧
    (execute around inline command).run w = (execute around filed command).run w
  /-- What is no object is refused by both, without output. Only if it is too deep, both fail instead. -/
  refused : t ≠ [] → ¬Json.ObjectDocument (modelLimits around.modelDepth) t →
    (∀ inv ∈ [inline, filed], ∃ w', (execute around inv command).run w = (.ok .usage, w') ∧ Kept w w') ∨
    (around.modelDepth < Json.openings t ∧ ∃ f, f.kind = .recursion ∧
      ∀ inv ∈ [inline, filed], (execute around inv command).run w = (.error f, w))
  /-- An empty argument is no model, but an empty file is one that is refused. -/
  empty : t = [] → inline.given.readModel around.modelDepth w.tree = .ok (.ok []) ∧
    ∃ w', (execute around filed command).run w = (.ok .usage, w') ∧ Kept w w'

/-- **A model from a file is treated like an argument**, unless it is empty. -/
theorem model_sources_agree (around : Surroundings) (inv : Invocation) (command : Command)
    (flags flags' : List Flag) {t path file : Text} {bytes : Bytes} {w : World}
    (points : ∀ c ∈ t, c ≤ 0x10FFFF) (encoded : Codec.utf8.encode .refuse t = .ok bytes)
    (given : path ≠ []) (named : LocalStorage.file none path = .ok file)
    (content : w.tree.read file = .ok bytes) :
    Parity around command t w (inv.supplied (some t) none flags)
      (inv.supplied none (some path) flags') := by
  have filed := readModel_file inv points encoded given named content flags' around.modelDepth
  have verdict := parseModel_unified around.modelDepth t
  constructor
  · intro filled is
    have inline := readModel_text inv filled flags around.modelDepth w.tree
    generalize parseModel around.modelDepth t = x at inline verdict
    generalize parseModel around.modelDepth (unifyLineEnds t) = y at filed verdict
    cases verdict with
    | object _ model => exact ⟨model, inline, filed, execute_of_model around inline filed⟩
    | refused no => exact absurd is no
    | tooDeep no => exact absurd is no
  · intro filled no
    have inline := readModel_text inv filled flags around.modelDepth w.tree
    generalize parseModel around.modelDepth t = x at inline verdict
    generalize parseModel around.modelDepth (unifyLineEnds t) = y at filed verdict
    cases verdict with
    | object is => exact absurd is no
    | refused =>
      refine .inl (List.forall_mem_cons.mpr ⟨execute_of_refused around inline, ?_⟩)
      exact List.forall_mem_singleton.mpr (execute_of_refused around filed)
    | tooDeep _ deep kind =>
      refine .inr ⟨deep, _, kind, List.forall_mem_cons.mpr ⟨execute_of_failure around inline, ?_⟩⟩
      exact List.forall_mem_singleton.mpr (execute_of_failure around filed)
  · rintro rfl
    have refused : parseModel around.modelDepth (unifyLineEnds []) =
        .ok (.error (Json.Fault.message [] (.malformed "Expecting value" []))) := rfl
    exact ⟨rfl, execute_of_refused around (filed.trans refused)⟩

/-- An empty object is the same model from a file. -/
theorem model_sources_agree_object :
    let around : Surroundings := { environment := [], workingDirectory := "/" }
    let inv : Invocation := { debug := false, command := some .error, given := {} }
    let t : Text := "\x7b\x7d"
    let w : World := { tree := { entries := [([("m" : Text)], .file [123, 125])] } }
    (∀ c ∈ t, c ≤ 0x10FFFF) ∧ Codec.utf8.encode .refuse t = .ok [123, 125] ∧ ("/m" : Text) ≠ [] ∧
      LocalStorage.file none "/m" = .ok "/m" ∧ w.tree.read "/m" = .ok [123, 125] ∧
      Parity around .error t w (inv.supplied (some t) none [.model])
        (inv.supplied none (some "/m") [.modelFile]) := by
  intro around inv t w
  have points : ∀ c ∈ t, c ≤ 0x10FFFF := by decide
  have given : ("/m" : Text) ≠ [] := List.cons_ne_nil _ _
  have content : w.tree.read "/m" = .ok [123, 125] := read_only _
  exact ⟨points, rfl, given, rfl, content,
    model_sources_agree around inv .error [.model] [.modelFile] points rfl given rfl content⟩

/-- An empty text is a model as an argument, but not in a file. -/
theorem empty_model_unlike :
    let inv : Invocation := { debug := false, command := some .error, given := {} }
    let tree : FileTree := { entries := [([("m" : Text)], .file [])] }
    (inv.supplied (some []) none [.model]).given.readModel 990 tree = .ok (.ok []) ∧
      ∀ model, (inv.supplied none (some "/m") [.modelFile]).given.readModel 990 tree ≠ .ok (.ok model) := by
  intro inv tree
  have content : tree.read "/m" = .ok [] := read_only []
  refine ⟨rfl, fun model is => ?_⟩
  have given : ("/m" : Text) ≠ [] := List.cons_ne_nil _ _
  have read := readModel_file (t := []) inv (by simp) rfl given rfl
    content [.modelFile] 990
  cases read.symm.trans is

end CommandLine

end Stencil
