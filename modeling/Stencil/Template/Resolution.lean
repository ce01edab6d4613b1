import Stencil.Template.Code

/-!
# Name resolution

Which slot every name of a template refers to. A frame knows the names that are used or assigned in it,
and says what their slots hold when it is entered; all other names belong to the frames around it.

## Main definitions

- `Frame` and `Names` — what one frame knows, and the frames that are open
- `Names.read`, `Names.assign`, `Names.declare` — the ways in which a name is mentioned
- `Stmt.resolveIn` — the names that a statement mentions in the frame it stands in
- `undeclared` — which special names a body uses without assigning them
-/

namespace Stencil

namespace Template

/-! ### Traversals -/

mutual

/-- The names that an expression reads. -/
def Expr.names : Expr → List Text
  | .literal _ | .data _ => []
  | .name n _ => [n]
  | .tuple items | .list items | .concat items => exprNames items
  | .dict entries => pairNames entries
  | .conditional test yes no _ => test.names ++ yes.names ++ optionNames no
  | .both l r | .either l r | .binary _ l r => l.names ++ r.names
  | .unary _ e | .attr e _ => e.names
  | .compare first rest => first.names ++ operandNames rest
  | .item e index => e.names ++ index.names
  | .slice start stop step => optionNames start ++ optionNames stop ++ optionNames step
  | .call f args _ => f.names ++ args.names
  | .filter subject _ args _ => optionNames subject ++ args.names
  | .test subject _ args _ => subject.names ++ args.names

def Arguments.names : Arguments → List Text
  | .mk positional keywords spread keywordSpread =>
    exprNames positional ++ keywordNames keywords ++ optionNames spread ++ optionNames keywordSpread

def exprNames : List Expr → List Text
  | [] => []
  | e :: rest => e.names ++ exprNames rest

def pairNames : List (Expr × Expr) → List Text
  | [] => []
  | (k, e) :: rest => k.names ++ e.names ++ pairNames rest

def operandNames : List (CompareOp × Expr) → List Text
  | [] => []
  | (_, e) :: rest => e.names ++ operandNames rest

def keywordNames : List (Text × Expr) → List Text
  | [] => []
  | (_, e) :: rest => e.names ++ keywordNames rest

def optionNames : Option Expr → List Text
  | none => []
  | some e => e.names

end

mutual

/-- The names that a target binds, with their lines. -/
def Target.names : Target → List (Text × Nat)
  | .name n line => [(n, line)]
  | .tuple items => targetNames items
  | .member .. => []

def targetNames : List Target → List (Text × Nat)
  | [] => []
  | t :: rest => t.names ++ targetNames rest

end

mutual

/-- The namespaces whose attributes a target binds. -/
def Target.spaces : Target → List Text
  | .name .. => []
  | .tuple items => targetSpaces items
  | .member space _ _ => [space]

def targetSpaces : List Target → List Text
  | [] => []
  | t :: rest => t.spaces ++ targetSpaces rest

end

mutual

/-- A statement with all statements inside it, in the order in which they start. -/
def Stmt.all : Stmt → List Stmt
  | s@(.assignBlock _ _ body) => s :: allOf body
  | s@(.forLoop _ _ _ _ body orElse) => s :: (allOf body ++ allOf orElse)
  | s@(.branch _ body elifs orElse) => s :: (allOf body ++ allOfArms elifs ++ allOf orElse)
  | s@(.withVars _ body) => s :: allOf body
  | s@(.autoescape _ body) => s :: allOf body
  | s@(.block _ _ _ body _) => s :: allOf body
  | s@(.define _ _ body _) => s :: allOf body
  | s@(.callSection _ _ body _) => s :: allOf body
  | s@(.filterSection _ body) => s :: allOf body
  | s => [s]

def allOf : List Stmt → List Stmt
  | [] => []
  | s :: rest => s.all ++ allOf rest

def allOfArms : List (Expr × List Stmt) → List Stmt
  | [] => []
  | (_, body) :: rest => allOf body ++ allOfArms rest

end

/-- The names that a statement itself assigns, with their lines. -/
def Stmt.assigned : Stmt → List (Text × Nat)
  | .assign t _ | .assignBlock t _ _ | .forLoop t .. => t.names
  | _ => []

/-- How a name is mentioned. -/
inductive Mention where
  | reads (name : Text)
  | binds (name : Text)

def readsOf (e : Expr) : List Mention :=
  e.names.map .reads

def bindsOf (t : Target) : List Mention :=
  t.names.map fun (n, _) => .binds n

def parameterMentions (ps : List Parameter) : List Mention :=
  ps.map (fun p => .binds p.name) ++ ps.flatMap fun p => (optionNames p.default).map .reads

mutual

/-- The names that a statement mentions, those inside blocks apart. -/
def Stmt.mentions : Stmt → List Mention
  | .output parts => (exprNames parts).map .reads
  | .assign t e => bindsOf t ++ readsOf e
  | .assignBlock t filter body =>
    bindsOf t ++ (optionNames filter).map .reads ++ mentionsOf body
  | .forLoop t source test _ body orElse =>
    bindsOf t ++ readsOf source ++ mentionsOf body ++ mentionsOf orElse ++
      (optionNames test).map .reads
  | .branch test body elifs orElse =>
    readsOf test ++ mentionsOf body ++ armMentions elifs ++ mentionsOf orElse
  | .withVars bindings body =>
    bindings.flatMap (fun (t, _) => bindsOf t) ++ bindings.flatMap (fun (_, e) => readsOf e) ++
      mentionsOf body
  | .autoescape value body => readsOf value ++ mentionsOf body
  | .block .. => []
  | .extends e _ | .includeTemplate e _ _ | .importAs e _ _ | .importFrom e _ _ => readsOf e
  | .define _ ps body _ => parameterMentions ps ++ mentionsOf body
  | .callSection ps call body _ => readsOf call ++ parameterMentions ps ++ mentionsOf body
  | .filterSection filter body => mentionsOf body ++ readsOf filter

def mentionsOf : List Stmt → List Mention
  | [] => []
  | s :: rest => s.mentions ++ mentionsOf rest

def armMentions : List (Expr × List Stmt) → List Mention
  | [] => []
  | (test, body) :: rest => readsOf test ++ mentionsOf body ++ armMentions rest

end

/-- Which of the special names a body reads before it binds them. -/
def undeclared (special : List Text) (body : List Stmt) : List Text :=
  go special [] (mentionsOf body)
where
  go (watched found : List Text) : List Mention → List Text
  | [] => found
  | .reads n :: rest =>
    if watched.contains n then go watched (n :: found) rest else go watched found rest
  | .binds n :: rest => go (watched.filter (· != n)) found rest

/-! ### Frames -/

/-- What a frame knows about names. -/
structure Frame where
  level : Nat
  refs : List (Text × Slot) := []
  loads : Loads := []
  stores : List Text := []
  deriving Inhabited

/-- The frame that a name stands in, and the frames around it, innermost first. -/
structure Names where
  frame : Frame
  outer : List Frame
  deriving Inhabited

namespace Names

/-- The outermost frame of a function of its own. -/
def root : Names :=
  { frame := { level := 0 }, outer := [] }

def inner (n : Names) : Names :=
  { frame := { level := n.frame.level + 1 }, outer := n.frame :: n.outer }

def findIn (name : Text) (frames : List Frame) : Option Slot :=
  frames.findSome? fun f => f.refs.lookup name

/-- The slot of a name, if some open frame knows it. -/
def find? (n : Names) (name : Text) : Option Slot :=
  findIn name (n.frame :: n.outer)

/-- What a slot holds when its frame is entered, as the frames around tell. -/
def load? (n : Names) (slot : Slot) : Option Load :=
  (n.frame :: n.outer).findSome? fun f => f.loads.lookup slot

def setLoad (loads : Loads) (slot : Slot) (load : Load) : Loads :=
  if loads.any fun (s, _) => s == slot then
    loads.map fun (s, l) => if s == slot then (s, load) else (s, l)
  else loads ++ [(slot, load)]

/-- Give a name a slot of the frame. -/
def define (n : Names) (name : Text) (load : Load) : Names :=
  let slot : Slot := ⟨n.frame.level, name⟩
  { n with frame := { n.frame with
      refs := (name, slot) :: n.frame.refs.filter (·.1 != name)
      loads := setLoad n.frame.loads slot load } }

def markStored (n : Names) (name : Text) : Names :=
  if n.frame.stores.contains name then n
  else { n with frame := { n.frame with stores := name :: n.frame.stores } }

/-- A name that is read: one that no frame knows comes from the context. -/
def read (n : Names) (name : Text) : Names :=
  match n.find? name with
  | some _ => n
  | none => n.define name (.resolve name)

/-- A name that is assigned: it starts with the value of the frames around, if they know it. -/
def assign (n : Names) (name : Text) : Names :=
  let n := n.markStored name
  match n.frame.refs.lookup name with
  | some _ => n
  | none => match findIn name n.outer with
    | some slot => n.define name (.alias slot)
    | none => n.define name .undefined

/-- A name that whoever enters the frame gives a value. -/
def declare (n : Names) (name : Text) : Names :=
  (n.markStored name).define name .parameter

def readAll (n : Names) (names : List Text) : Names :=
  names.foldl read n

/-- The names of a target: they are assigned, or given by whoever enters the frame. -/
def target (n : Names) (asParameter : Bool) (t : Target) : Names :=
  let n := t.names.foldl (fun n (name, _) => if asParameter then n.declare name else n.assign name) n
  n.readAll t.spaces

/-- Join the branches of a condition. A name that only branches assign starts with what the frames
around or the context have for it. -/
def joinBranches (n : Names) (branches : List Names) : Names :=
  let new := (branches.flatMap (·.frame.stores)).filter fun name => !n.frame.stores.contains name
  let merged := branches.foldl (fun (n : Names) b =>
    let n := b.frame.loads.foldl (fun (n : Names) (slot, load) =>
      { n with frame := { n.frame with loads := setLoad n.frame.loads slot load } }) n
    let n := b.frame.refs.reverse.foldl (fun (n : Names) (name, slot) =>
      { n with frame := { n.frame with
          refs := (name, slot) :: n.frame.refs.filter (·.1 != name) } }) n
    b.frame.stores.foldl markStored n) n
  new.foldl (fun n name =>
    match n.find? name with
    | none => n
    | some slot =>
      let load : Load := match findIn name n.outer with
        | some other => .alias other
        | none => .resolve name
      { n with frame := { n.frame with loads := setLoad n.frame.loads slot load } }) merged

/-- The assigned names of all open frames with their slots; inner frames hide outer ones. -/
def visible (n : Names) : List (Text × Slot) :=
  go [] (n.frame :: n.outer)
where
  go (seen : List Text) : List Frame → List (Text × Slot)
  | [] => []
  | f :: rest =>
    let new := (f.stores.filter fun name => !seen.contains name).mergeSort fun a b =>
      Text.compare a b != .gt
    new.filterMap (fun name => (n.find? name).map fun slot => (name, slot)) ++ go (new ++ seen) rest

end Names

mutual

/-- Resolve what a statement mentions in the frame that it stands in. What it encloses has a frame of
its own. -/
def Stmt.resolveIn (n : Names) : Stmt → Names
  | .output parts => n.readAll (exprNames parts)
  | .assign t e => (n.readAll e.names).target false t
  | .assignBlock t _ _ => n.target false t
  | .forLoop _ source _ _ _ _ => n.readAll source.names
  | .branch test body elifs orElse =>
    let n := n.readAll test.names
    n.joinBranches [resolveAll n body, resolveArms n elifs, resolveAll n orElse]
  | .withVars bindings _ => bindings.foldl (fun n (_, e) => n.readAll e.names) n
  | .autoescape .. | .block .. => n
  | .extends e _ | .includeTemplate e _ _ => n.readAll e.names
  | .importAs e name _ => (n.readAll e.names).assign name
  | .importFrom e names _ => names.foldl (fun n (_, name) => n.assign name) (n.readAll e.names)
  | .define name _ _ _ => n.assign name
  | .callSection _ call _ _ => n.readAll call.names
  | .filterSection filter _ => n.readAll filter.names

def resolveAll (n : Names) : List Stmt → Names
  | [] => n
  | s :: rest => resolveAll (s.resolveIn n) rest

def resolveArms (n : Names) : List (Expr × List Stmt) → Names
  | [] => n
  | (test, body) :: rest =>
    let n := n.readAll test.names
    resolveArms (n.joinBranches [resolveAll n body, n, n]) rest

end

end Template

end Stencil
