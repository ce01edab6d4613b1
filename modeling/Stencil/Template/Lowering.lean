import Stencil.Template.Lowering.Expression

/-!
# Executable templates from syntax trees

Statements are turned into executable code: names become slots, constants are computed, and what cannot
run is reported. What the listing of the code would be refused for is reported last.

## Main definitions

- `Lower.stmt` — the code of a statement
- `Lower.program` — a whole template, with its blocks
- `Program.ofStatements` — the executable form of a template, or its fault
-/

namespace Stencil

namespace Template

/-! ### Filters and tests -/

/-- The filters and tests that an expression mentions. -/
structure Mentioned where
  filters : List Text := []
  tests : List Text := []

namespace Mentioned

def append (a b : Mentioned) : Mentioned :=
  ⟨a.filters ++ b.filters, a.tests ++ b.tests⟩

instance : Append Mentioned := ⟨append⟩

end Mentioned

mutual

def Expr.mentioned : Expr → Mentioned
  | .literal _ | .data _ | .name .. => {}
  | .tuple items | .list items | .concat items => mentionedAll items
  | .dict entries => mentionedPairs entries
  | .conditional test yes no _ => test.mentioned ++ yes.mentioned ++ mentionedPart no
  | .both l r | .either l r | .binary _ l r => l.mentioned ++ r.mentioned
  | .unary _ e | .attr e _ => e.mentioned
  | .compare first rest => first.mentioned ++ mentionedOperands rest
  | .item e index => e.mentioned ++ index.mentioned
  | .slice start stop step => mentionedPart start ++ mentionedPart stop ++ mentionedPart step
  | .call f args _ => f.mentioned ++ args.mentioned
  | .filter subject name args _ => mentionedPart subject ++ args.mentioned ++ { filters := [name] }
  | .test subject name args _ => subject.mentioned ++ args.mentioned ++ { tests := [name] }

def Arguments.mentioned : Arguments → Mentioned
  | .mk positional keywords spread keywordSpread =>
    mentionedAll positional ++ mentionedKeywords keywords ++ mentionedPart spread ++
      mentionedPart keywordSpread

def mentionedAll : List Expr → Mentioned
  | [] => {}
  | e :: rest => e.mentioned ++ mentionedAll rest

def mentionedPairs : List (Expr × Expr) → Mentioned
  | [] => {}
  | (k, e) :: rest => k.mentioned ++ e.mentioned ++ mentionedPairs rest

def mentionedOperands : List (CompareOp × Expr) → Mentioned
  | [] => {}
  | (_, e) :: rest => e.mentioned ++ mentionedOperands rest

def mentionedKeywords : List (Text × Expr) → Mentioned
  | [] => {}
  | (_, e) :: rest => e.mentioned ++ mentionedKeywords rest

def mentionedPart : Option Expr → Mentioned
  | none => {}
  | some e => e.mentioned

end

def mentionedDefaults (ps : List Parameter) : Mentioned :=
  ps.foldl (fun m p => m ++ mentionedPart p.default) {}

mutual

/-- The filters and tests that a statement mentions, those inside blocks apart. -/
def Stmt.mentioned : Stmt → Mentioned
  | .output parts => mentionedAll parts
  | .assign _ e => e.mentioned
  | .assignBlock _ filter body => mentionedPart filter ++ mentionedBody body
  | .forLoop _ source test _ body orElse =>
    source.mentioned ++ mentionedBody body ++ mentionedBody orElse ++ mentionedPart test
  | .branch test body elifs orElse =>
    test.mentioned ++ mentionedBody body ++ mentionedArms elifs ++ mentionedBody orElse
  | .withVars bindings body =>
    bindings.foldl (fun m (_, e) => m ++ e.mentioned) {} ++ mentionedBody body
  | .autoescape value body => value.mentioned ++ mentionedBody body
  | .block .. => {}
  | .extends e _ | .includeTemplate e _ _ | .importAs e _ _ | .importFrom e _ _ => e.mentioned
  | .define _ ps body _ => mentionedDefaults ps ++ mentionedBody body
  | .callSection ps call body _ => call.mentioned ++ mentionedDefaults ps ++ mentionedBody body
  | .filterSection filter body => mentionedBody body ++ filter.mentioned

def mentionedBody : List Stmt → Mentioned
  | [] => {}
  | s :: rest => s.mentioned ++ mentionedBody rest

def mentionedArms : List (Expr × List Stmt) → Mentioned
  | [] => {}
  | (test, body) :: rest => test.mentioned ++ mentionedBody body ++ mentionedArms rest

end

namespace Lower

/-! ### Lines -/

/-- Write lines. -/
def line (n : Nat := 1) : Lower Unit :=
  listing (·.lines n)

/-- Write lines that are indented further. -/
def indented {α : Type} (x : Lower α) : Lower α := do
  listing Listing.indent
  let a ← x
  listing Listing.outdent
  pure a

/-- The inside of a loop or of an attempt, which starts on the current line. -/
def enclosed {α : Type} (x : Lower α) : Lower α := do
  listing Listing.enclose
  let a ← indented x
  listing Listing.leave
  pure a

/-- The inside of a function, which starts on the current line. -/
def inFunction {α : Type} (x : Lower α) : Lower α := do
  let around := (← get).listing.enclosing
  listing fun l => { l with enclosing := 0 }
  let a ← indented x
  listing fun l => { l with enclosing := around }
  pure a

/-- A name for something that has none. -/
def newName : Lower Unit :=
  listing Listing.makeName

/-- The lines that give the slots of a frame their first values, those that hold nothing together. -/
def entering (loads : Loads) : Lower Unit := do
  line (loads.filter fun (_, load) => load matches .resolve _ | .alias _).length
  if loads.any fun (_, load) => load == .undefined then line

/-- The line that makes the slots of a frame hold nothing again. -/
def leaving (loads : Loads) : Lower Unit :=
  if loads.isEmpty then pure () else line

/-- The loads of a frame, as the running template needs them. -/
def loadsOf (names : Names) : Loads :=
  names.frame.loads.map fun (slot, load) => (slot.unified, match load with
    | .alias other => .alias other.unified
    | load => load)

/-! ### Filters and tests of a function -/

/-- Give names their numbers. A name keeps the number that it has. -/
def numbered (known : List (Text × Nat)) (names : List Text) :
    Lower (List (Text × Nat)) := do
  let names := (names.eraseDups).mergeSort fun a b => Text.compare a b != .gt
  names.foldlM (fun known name => do
    line 6
    if (known.lookup name).isSome then pure known
    else
      newName
      pure ((name, (← get).listing.names) :: known)) known

/-- The beginning of a function: it looks up the filters and tests of its body. -/
def lookUp (body : List Stmt) : Lower Unit := do
  let m := mentionedBody body
  let filters ← numbered (← get).filters m.filters
  modify fun s => { s with filters }
  let tests ← numbered (← get).tests m.tests
  modify fun s => { s with tests }

/-! ### Targets -/

/-- Go on with a line, or within brackets. -/
def put (p : Position) : Lower Unit :=
  listing (if p.brackets = 0 then Listing.write else Listing.goOn)

mutual

/-- The place of a target. A member of a namespace stands on a line of its own. -/
def place (p : Position) : Target → Lower Place
  | .name n _ => do
    put p
    pure (.slot (← slotOf p n).unified)
  | .tuple items => do
    put p
    pure (.tuple (← places (← bracketed p 1) items))
  | .member space attr _ => do
    listing (·.breakLine)
    put p
    pure (.member (← slotOf p space).unified attr)

def places (p : Position) : List Target → Lower (List Place)
  | [] => pure []
  | t :: rest => do
    let x ← place p t
    pure (x :: (← places p rest))

end

def isPublic (name : Text) : Bool :=
  name.head? != some 95

/-- The slots of a target that become variables of the context, under the names that they have there.
-/
def exported (p : Position) (t : Target) : Lower (List (Text × Slot)) := do
  let names := (t.names.map (·.1)).eraseDups
  if !names.isEmpty && (p.toplevel || p.inLoop || p.inBlock) then
    line
    if !p.inLoop && !p.inBlock && names.any isPublic then line
  if p.toplevel then names.mapM fun n => do pure (n, (← slotOf p n).unified) else pure []

/-! ### Output -/

/-- The parts of an output: constants next to each other are one text. -/
def items (w : Switches) : List Expr → List (Text ⊕ Expr)
  | [] => []
  | e :: rest => match e.output? w, items w rest with
    | some t, .inl u :: others => .inl (t ++ u) :: others
    | some t, others => .inl t :: others
    | none, others => .inr e :: others

/-- The code of a part of an output. -/
def item (p : Position) : Text ⊕ Expr → Lower Code
  | .inl t => do
    listing (·.breakLine)
    put p
    pure (.text t)
  | .inr e => do
    listing (·.breakLine)
    put p
    match e with
    | .data t => do
      discard escaping
      pure (.text t)
    | e => do
      let how ← escaping
      pure (.output how (← expr (← bracketed p 1) e))

/-- The code of an output. -/
def output (p : Position) (parts : List Expr) : Lower (List Code) := do
  let several := items (← get).switches parts
  if p.collected then
    let brackets := if several.length = 1 then 1 else 2
    line
    let codes ← several.mapM (item { p with brackets })
    listing (·.breakLine)
    listing (·.goOn)
    pure codes
  else several.mapM (item p)

/-- Write a value that is output as it is. -/
def writing (p : Position) : Lower Position := do
  line
  if p.collected then bracketed p 1 else pure p

/-! ### Procedures -/

/-- The names of a procedure's frame: its parameters, what its body mentions, and the special
parameters that the body uses. -/
def procedureNames (n : Names) (ps : List Parameter) (body : List Stmt) : Names :=
  let n := ps.foldl (fun n q => n.declare q.name) n
  let n := ps.foldl (fun n q => n.readAll (optionNames q.default)) n
  resolveAll n body

/-- The special parameters that a procedure takes. -/
def specialParameters : List Text := ["caller", "kwargs", "varargs"]

/-- The parameters of a procedure with their defaults. Those without a value so far are unset. -/
def formals (p : Position) : List Parameter → Lower (List Formal)
  | [] => pure []
  | q :: rest => do
    let slot ← slotOf p q.name
    line
    let default ← indented do
      line
      optional p q.default
    let p := { p with unset := p.unset.filter (· != slot) }
    pure ({ name := q.name, slot := slot.unified, default } :: (← formals p rest))

/-- The first slot that occurs again. -/
def repeated? : List Slot → Option Slot
  | [] => none
  | s :: rest => match repeated? rest with
    | some t => if rest.contains s then some s else some t
    | none => if rest.contains s then some s else none

/-- The names of the listing's variables. -/
def listed (s : Slot) : Text :=
  "l_" ++ Text.ofNat s.level ++ "_" ++ s.name

/-- A procedure: its head, the level and the first values of its frame, and its body. -/
structure Procedure where
  signature : Signature
  level : Nat
  loads : Loads
  body : List Code

/-- A procedure whose body is turned into code by `run`. -/
def procedure (p : Position) (name : Option Text) (ps : List Parameter) (body : List Stmt)
    (tagLine : Nat) (run : Position → Lower (List Code)) : Lower Procedure := do
  let used := undeclared specialParameters body
  let named (n : Text) : Bool := ps.any (·.name == n)
  let inner := procedureNames p.names.inner ps body
  if used.contains "caller" ∧ (ps.any fun q => q.name == ("caller" : Text) && q.default.isNone) then
    failAt tagLine .callerDefault
  else
    let wanted := specialParameters.filter fun n => used.contains n && !named n
    let inner := wanted.foldl declareSpecial inner
    let slot? (n : Text) : Option Slot :=
      if wanted.contains n then (inner.find? n).map Slot.unified else none
    let parameters ← (ps.map (·.name) ++ wanted).mapM (slotOf { p with names := inner })
    line
    match repeated? (parameters.map Slot.unified).reverse with
    | some s => listing (·.note (.parameter (listed s)))
    | none => pure ()
    let p := p.capturing inner
    let loads := loadsOf inner
    inFunction do
      newName
      line
      entering loads
      let formals ← formals { p with unset := parameters } ps
      let body ← run p
      line
      pure {
        signature := {
          name, formals, caller := slot? "caller", takesCaller := used.contains "caller",
          keywords := slot? "kwargs", rest := slot? "varargs" }
        level := inner.frame.level
        loads
        body }
where
  declareSpecial (n : Names) (name : Text) : Names := n.declare name

/-! ### Sections -/

/-- How including looks for a template: by a name, or among several. -/
def selects : Expr → Bool
  | .literal (.str _) => false
  | _ => true

/-- Leave a section whose switches are its own. -/
def withSwitches {α : Type} (x : Lower α) : Lower α := do
  let before := (← get).switches
  let a ← x
  modify fun s => { s with switches := before }
  pure a

/-- Set the switch for escaping to the value of an expression. -/
def setEscaping (e : Expr) : Lower Unit := do
  let w := (← get).switches
  match ← ofExcept (w.outcome (e.foresee w).run) with
  | (some v, m) =>
    let autoescape := match v.truth m.heap with
      | .ok b => .bool b
      | .error _ => v
    modify fun s => { s with switches := { w with autoescape } }
  | (none, _) => modify fun s => { s with switches := { w with volatile := true } }

/-- The lines that run what another template or a block yields. -/
def relay (x : Lower Unit) : Lower Unit := do
  line
  enclosed do
    line
    enclosed x
  line

/-- A piece that another template or a block yields is written. -/
def relayed (p : Position) : Lower Unit :=
  discard (writing p)

/-- The lines that include a template once it is known. -/
def including (p : Position) (withContext : Bool) : Lower Unit := do
  if withContext then
    line
    relay (relayed p)
  else
    line
    enclosed (relayed p)

/-- An argument in the call that gets another template. -/
def template (p : Position) (e : Expr) : Lower Term := do
  expr (← bracketed p 1) e

/-- Begin a body with a line of its own. -/
def starting {α : Type} (x : Lower α) : Lower α := do
  line
  x

mutual

/-- The code of statements, up to one that ends them. -/
def stmts (p : Position) : List Stmt → Lower (List Code)
  | [] => pure []
  | s :: rest => do
    let (code, stops) ← stmt p s
    if stops then pure code else pure (code ++ (← stmts p rest))

/-- The code of a statement, and whether nothing after it runs. -/
def stmt (p : Position) : Stmt → Lower (List Code × Bool)
  | .output parts => do
    if p.unlessExtended then
      if (← get).alwaysExtended then pure ([], false)
      else
        line
        pure (← indented (output p parts), false)
    else pure (← output p parts, false)
  | .assign t e => do
    let spaces ← t.spaces.eraseDups.mapM fun n => do
      line
      indented line
      slotOf p n
    listing (·.breakLine)
    let target ← place p t
    let value ← expr p e
    pure ([.assign (spaces.map Slot.unified) target value (← exported p t)], false)
  | .assignBlock t filter several => do
    let names := resolveAll p.names.inner several
    let inner := p.capturing names
    let loads := loadsOf names
    entering loads
    newName
    line
    let code ← starting (stmts inner several)
    listing (·.breakLine)
    let target ← place p t
    let value ← match filter with
      | some e => expr { inner with brackets := 1 } e
      | none => pure (.captured .off)
    let exports ← exported p t
    leaving loads
    pure ([.assignBlock loads code target value exports], false)
  | .forLoop t source test recursive several orElse => do
    let inside := allOf several ++ allOf orElse
    let special := recursive || !(undeclared ["loop"] several).isEmpty ||
      inside.any fun | .block _ seesScope _ _ _ => seesScope | _ => false
    let opened := p.names.inner
    let opened := if special then opened.declare "loop" else opened
    let loop := { p.inner (resolveAll (opened.target true t) several) with
      inLoop := true, collected := p.collected || recursive }
    let otherwise := { p.inner (resolveAll p.names.inner orElse) with collected := loop.collected }
    let loads := loadsOf loop.names
    let filter ← match test with
      | some e => do
        let names := (p.names.inner.target true t).readAll e.names
        newName
        line
        inFunction do
          entering (loadsOf names)
          line
          enclosed do
            line
            let condition ← expr (p.inner names) e
            indented line
            pure (some (loadsOf names, condition))
      | none => pure none
    let assigned := t.names ++ inside.flatMap Stmt.assigned
    let source' (p : Position) : Lower Term := do expr p source
    let rounds : Lower (Place × Option Term × List Code × Option (Loads × List Code)) := do
      if special then line
      match assigned.find? fun (n, _) => n == ("loop" : Text) with
      | some (_, line) => failAt line .loopAssignment
      | none =>
        if !orElse.isEmpty then
          newName
          line
        line
        let target ← place loop t
        let first ← if recursive then pure none else do
          let p ← bracketed p (1 + if test.isSome then 1 else 0)
          pure (some (← source' p))
        let code ← enclosed do
          entering loads
          line
          let code ← starting (stmts loop several)
          if !orElse.isEmpty then line
          pure code
        if !(recursive && orElse.isEmpty) then leaving loads
        let orElse ← if orElse.isEmpty then pure none else do
          line
          indented do
            let loads := loadsOf otherwise.names
            entering loads
            let code ← starting (stmts otherwise orElse)
            leaving loads
            pure (some (loads, code))
        pure (target, first, code, orElse)
    let (target, first, code, orElse) ← if recursive then do
        line
        inFunction do
          newName
          line
          let found ← rounds
          line (if (← get).switches.volatile then 4 else 1)
          pure found
      else rounds
    let source ← match first with
      | some e => pure e
      | none => do source' (← bracketed (← writing p) 2)
    pure ([.forLoop loop.names.frame.level target source filter
      (if special then (loop.names.find? "loop").map Slot.unified else none) recursive loads code
      orElse (← escaping)], false)
  | .branch test several elifs orElse => do
    let soft := p.softened
    line
    let test ← expr soft test
    let code ← indented (starting (stmts soft several))
    let others ← arms soft elifs
    let orElse ← if orElse.isEmpty then pure [] else do
      line
      indented (starting (stmts soft orElse))
    pure ([.branch ((test, code) :: others) orElse], false)
  | .withVars bindings several => do
    let names := bindings.foldl (fun n (t, _) => n.target true t) p.names.inner
    let inner := p.inner (resolveAll names several)
    let loads := loadsOf inner.names
    entering loads
    let bound ← bindings.mapM fun (t, e) => do
      listing (·.breakLine)
      let x ← place inner t
      pure (x, ← expr p e)
    let code ← starting (stmts inner several)
    leaving loads
    pure ([.withVars loads bound code], false)
  | .autoescape value several => do
    let inner := p.inner (resolveAll (p.names.inner.readAll value.names) several)
    let loads := loadsOf inner.names
    entering loads
    line
    newName
    line 2
    withSwitches do
      let e ← expr inner value
      setEscaping value
      let code ← stmts inner several
      line
      leaving loads
      pure ([.autoescape loads e code], false)
  | .block name seesScope required _ _ => do
    let s ← get
    if p.toplevel && s.alwaysExtended then pure ([], false)
    else
      let visible := if seesScope then some p.names.visible else none
      let run : Lower Unit := do
        if required then
          line
          indented line
        line
        relay (relayed p)
      if p.toplevel && 0 < s.extended then
        line
        indented run
      else run
      pure ([.block name required (visible.map fun vars =>
        vars.map fun (n, slot) => (n, slot.unified))], false)
  | .extends e tagLine => do
    if !p.toplevel then failAt tagLine .nestedExtends
    else
      let s ← get
      if 0 < s.extended && s.alwaysExtended then pure ([.extendedTwice], true)
      else
        if 0 < s.extended then
          line
          indented line
        line
        let e ← template p e
        line
        enclosed line
        modify fun s =>
          { s with extended := s.extended + 1, alwaysExtended := s.alwaysExtended || p.rootlevel }
        pure ([.needsTemplate e false false], false)
  | .includeTemplate e ignoreMissing withContext => do
    if ignoreMissing then
      line
      let t ← enclosed do
        line
        template p e
      line
      let afterwards := (← get).listing
      indented line
      line
      indented (including p withContext)
      -- what follows a refusal is looked at last
      let refusal := { afterwards with enclosing := afterwards.enclosing + 1, defects := [] }
      let found := (refusal.enclose).defects
      listing fun l => { l with defects := found ++ l.defects }
      pure ([.needsTemplate t (selects e) ignoreMissing], false)
    else
      line
      let t ← template p e
      including p withContext
      pure ([.needsTemplate t (selects e) ignoreMissing], false)
  | .importAs e target _ => do
    line
    let t ← template p e
    if p.toplevel && isPublic target then line
    pure ([.needsTemplate t false false], false)
  | .importFrom e names _ => do
    line
    let t ← template p e
    line (3 * names.length)
    if p.toplevel && !names.isEmpty then
      line
      if names.any fun (_, name) => isPublic name then line
    pure ([.needsTemplate t false false], false)
  | .define name ps several tagLine => do
    let f ← procedure p (some name) ps several tagLine fun p => starting (stmts p several)
    if p.toplevel && isPublic name then line
    line
    let slot ← slotOf p name
    pure ([.define f.signature f.level f.loads f.body slot.unified
      (if p.toplevel then some name else none)], false)
  | .callSection ps call several tagLine => do
    let f ← procedure p none ps several tagLine fun p => starting (stmts p several)
    line
    let q ← writing p
    match ← ofExcept (call.folded (← get).switches) with
    | .call g args _ => do
      let (g, args) ← sectionCall q g args
      pure ([.callSection f.signature f.level f.loads f.body g args], false)
    | _ => pure ([], false)
  | .filterSection filter several => do
    let inner := p.inner ((resolveAll p.names.inner several).readAll filter.names)
    let loads := loadsOf inner.names
    entering loads
    newName
    line
    let code ← starting (stmts { inner with collected := true } several)
    let q ← writing p
    let value ← expr { inner with brackets := q.brackets } filter
    leaving loads
    pure ([.filterSection loads code value], false)

def arms (p : Position) : List (Expr × List Stmt) → Lower (List (Term × List Code))
  | [] => pure []
  | (test, several) :: rest => do
    line
    let test ← expr p test
    let code ← indented (starting (stmts p several))
    pure ((test, code) :: (← arms p rest))

end

/-- The code of a body. -/
def body (p : Position) (several : List Stmt) : Lower (List Code) :=
  starting (stmts p several)

/-! ### Templates -/

/-- The names of a function that starts with no frame around it, given the special names it uses. -/
def rootNames (special : List Text) (body : List Stmt) : Names :=
  let used := undeclared special body
  let n := (special.filter used.contains).foldl Names.declare Names.root
  resolveAll n body

/-- Blocks with their bodies; each may be defined only once. -/
def collectBlocks : List Text → List Stmt → Lower (List (Text × List Stmt))
  | _, [] => pure []
  | seen, .block name _ _ body line :: rest => do
    if seen.contains name then failAt line (.duplicateBlock name)
    else do pure ((name, body) :: (← collectBlocks (name :: seen) rest))
  | seen, _ :: rest => collectBlocks seen rest

/-- The slot of a special name, if the frame declared it. -/
def specialSlot (n : Names) (name : Text) : Option Slot :=
  match n.frame.loads.find? fun (s, l) => s.name == name && l == .parameter with
  | some (s, _) => some s
  | none => none

/-- How many lines every function starts with. -/
def commonLines : Nat := 5

def blockOf (template : Text) (name : Text) (several : List Stmt) : Lower Block := do
  let names := rootNames ["self", "super"] several
  let p : Position := {
    template, function := "block_" ++ Normal.form name, names, inBlock := true }
  let selfSlot := specialSlot names "self"
  let superSlot := specialSlot names "super"
  listing (·.breakLine 1)
  line
  let code ← inFunction do
    line commonLines
    line (selfSlot.toList ++ superSlot.toList).length
    line
    entering (loadsOf names)
    lookUp several
    body p several
  pure { name, selfSlot, superSlot, loads := loadsOf names, body := code }

/-- Blocks whose names are the same variable are all the last one of them. -/
def unifyBlocks (blocks : List Block) : List Block :=
  blocks.map fun b =>
    match blocks.reverse.find? fun c => Normal.form c.name == Normal.form b.name with
    | some c => { c with name := b.name }
    | none => b

/-- What is wrong with the listing of a template. -/
def checkListing (template : Text) : Lower Unit := do
  match (← get).listing.defect? with
  | some (d, line) => failAt 0 (.listing d template line)
  | none =>
    if template.contains 0 then failAt 0 (.failed (.ofText .badValue "embedded null character")) else pure ()

/-- A whole template. -/
def program (template : Text) (several : List Stmt) : Lower Program := do
  let switches := (← get).switches
  let all := allOf several
  let blocks ← collectBlocks [] all
  let names := rootNames ["self"] several
  let extending := all.any fun | .extends .. => true | _ => false
  let selfSlot := specialSlot names "self"
  line 2
  listing (·.breakLine 1)
  line
  let code ← inFunction do
    line commonLines
    line selfSlot.toList.length
    if extending then line
    entering (loadsOf names)
    lookUp several
    body {
      template, function := "root", names, toplevel := true, rootlevel := true,
      unlessExtended := extending } several
  if extending then line (if (← get).alwaysExtended then 5 else 6)
  let blocks ← blocks.mapM fun (name, body) => blockOf template name body
  checkListing template
  pure {
    name := template
    selfSlot
    loads := loadsOf names
    body := code
    blocks := unifyBlocks blocks
    autoescape := switches.autoescape matches .bool true
    strict := switches.strict }

end Lower

/-- The executable form of a template. -/
def Program.ofStatements (switches : Switches) (template : Text) (body : List Stmt) :
    Except Fault Program :=
  (·.1) <$> (Lower.program template body).run { switches }

end Template

end Stencil
