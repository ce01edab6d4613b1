import Stencil.Template.Constant
import Stencil.Template.Listing

/-!
# Executable expressions

Expressions are turned into terms: names become slots, constant parts become literals, and what cannot
run is reported. Meanwhile the listing is written, as far as it has to be counted.

## Main definitions

- `Lower` — computations that may find a fault
- `Position` — where an expression or a statement stands
- `Lower.expr` — the term of an expression
-/

namespace Stencil

namespace Template

/-- What is known about the template when a statement is reached. -/
structure LowerState where
  switches : Switches
  /-- How many templates are extended so far, and whether one of them always is. -/
  extended : Nat := 0
  alwaysExtended : Bool := false
  listing : Listing := {}
  /-- The filters and the tests that were mentioned so far, with the numbers they got in the listing. -/
  filters : List (Text × Nat) := []
  tests : List (Text × Nat) := []

abbrev Lower := StateT LowerState (Except Fault)

/-- Where a statement stands. -/
structure Position where
  template : Text
  /-- The function that it is a part of. -/
  function : Text
  names : Names
  /-- Not inside a block, a loop or the like; assignments reach the context. -/
  toplevel : Bool := false
  /-- Not even inside a condition. -/
  rootlevel : Bool := false
  /-- Inside a condition, where unknown filters and tests are reported when they are used. -/
  soft : Bool := false
  /-- Directly in the body of a loop or of a block. -/
  inLoop : Bool := false
  inBlock : Bool := false
  /-- Output only happens if no other template is extended. -/
  unlessExtended : Bool := false
  /-- Output is collected. -/
  collected : Bool := false
  /-- How many brackets are open. -/
  brackets : Nat := 0
  /-- Parameters without a value so far. -/
  unset : List Slot := []

namespace Position

/-- A frame inside. -/
def inner (p : Position) (names : Names) : Position :=
  { p with
    names, toplevel := false, rootlevel := false, soft := false, inLoop := false, inBlock := false }

/-- A frame inside whose output is collected in any case. -/
def capturing (p : Position) (names : Names) : Position :=
  { p.inner names with unlessExtended := false, collected := true }

def softened (p : Position) : Position :=
  { p with rootlevel := false, soft := true }

/-- The keywords by which calls tell their surroundings. -/
def surroundings (p : Position) : List Text :=
  let loop : List Text := if p.inLoop then ["_loop_vars"] else []
  let block : List Text := if p.inBlock then ["_block_vars"] else []
  loop ++ block

end Position

namespace Lower

def failAt {α : Type} (line : Nat) (cause : Cause) : Lower α :=
  throw { line, cause }

/-- Go on with the listing. -/
def listing (f : Listing → Listing) : Lower Unit :=
  modify fun s => { s with listing := f s.listing }

/-- A position inside so many more brackets. -/
def bracketed (p : Position) (n : Nat) : Lower Position := do
  let brackets := p.brackets + n
  listing (·.reach brackets)
  pure { p with brackets }

/-- The slot of a name. -/
def slotOf (p : Position) (name : Text) : Lower Slot :=
  match p.names.find? name with
  | some slot => pure slot
  | none => failAt 0 (.unknownReference name)

/-- A computation that may fail like a running template. -/
def ofExcept {α : Type} : Except Raised α → Lower α
  | .ok a => pure a
  | .error f => failAt 0 (.failed f)

/-- How text is escaped here. -/
def escaping : Lower Escaping := do
  let w := (← get).switches
  if w.volatile then pure .switch
  else
    let (on, _) ← ofExcept (w.outcome Filter.escaping)
    pure (if on then .on else .off)

/-- A literal. -/
def constant (p : Position) (l : Literal) : Lower Term := do
  discard (bracketed p l.depth)
  match l.unwritable? with
  | none => pure (.const l.written)
  | some (.inl name) => pure (.unwritable name)
  | some (.inr cause) => failAt 0 cause

/-- A variable. -/
def nameTerm (p : Position) (name : Text) : Lower Term := do
  let slot ← slotOf p name
  let given := p.names.load? slot == some .parameter && !p.unset.contains slot
  if !given then discard (bracketed p 2)
  pure (.var slot.unified name given)

/-- A power. A sign in front of a constant base applies to the power. -/
def power (base exponent : Term) : Term :=
  let negated (l : Literal) : Term := .unary .neg (.binary .pow (.const l) exponent)
  match base with
  | .const (.int i) => if i < 0 then negated (.int (-i)) else .binary .pow base exponent
  | .const (.float x) =>
    if Binary64.isNegative x then negated (.float (-x)) else .binary .pow base exponent
  | .const (.complex x y) =>
    if x == 0.0 && Binary64.isNegative x && Binary64.isNegative y then negated (.complex 0.0 (-y))
    else .binary .pow base exponent
  | base => .binary .pow base exponent

/-- The message of a condition without an alternative. -/
def noAlternative (p : Position) (line : Nat) : Text :=
  ("the inline if-expression on line " : Text) ++ Text.ofNat line ++ " in '" ++ p.template ++
    "' evaluated to false and no else section was defined."

/-- The words that the listing has another use for. -/
def reservedWords : List String := [
  "False", "None", "True", "and", "as", "assert", "async", "await", "break", "class", "continue",
  "def", "del", "elif", "else", "except", "finally", "for", "from", "global", "if", "import", "in",
  "is", "lambda", "nonlocal", "not", "or", "pass", "raise", "return", "try", "while", "with",
  "yield"]

/-- Whether keywords are gathered in a dictionary, because one of them is a reserved word. -/
def gathers (keywords : List (Text × Expr)) : Bool :=
  keywords.any fun (n, _) => reservedWords.contains n.toName

/-- What is wrong with the keywords of a call. -/
def keywordDefect? : List Text → Option Defect
  | [] => none
  | n :: rest =>
    if n == ("__debug__" : Text) then some (.reservedKeyword n)
    else if rest.contains n then some (.keyword n)
    else keywordDefect? rest

/-- Look at the keywords of a call, `further` ones included. -/
def checkKeywords (args : Arguments) (further : List Text) : Lower Unit :=
  if gathers args.keywords then pure ()
  else match keywordDefect? (args.keywords.map (fun (n, _) => Normal.form n) ++ further) with
    | some d => listing (·.note d)
    | none => pure ()

/-- The message of a filter or test that is not there. -/
def notFound (what : Text) (name : Text) : Text :=
  "No " ++ what ++ " named " ++ name.quoted ++ " found."

/-- A filter or a test that is not there. -/
def unknown (p : Position) (what name : Text) (numbers : List (Text × Nat)) (subject : Term)
    (args : Args) : Term :=
  let number := (numbers.lookup name).getD 0
  .unknown (p.function ++ ".<locals>.t_" ++ Text.ofNat number ++ "()") (notFound what name) subject
    args

mutual

/-- The term of an expression whose constant parts are literals. -/
def folded (p : Position) (e : Expr) : Lower Term := do
  match e with
  | .literal l => constant p l
  | .data t => pure (.const (.str t))
  | .name n _ => nameTerm p n
  | .tuple items => do
    let p ← bracketed p 1
    pure (.tuple (← exprs p items))
  | .list items => do
    let p ← bracketed p 1
    pure (.list (← exprs p items))
  | .dict entries => do
    let p ← bracketed p 1
    pure (.dict (← pairs p entries))
  | .conditional test yes no line => do
    let p ← bracketed { p with rootlevel := false, soft := true } 1
    let yes ← folded p yes
    let test ← folded p test
    if no.isNone then discard (bracketed p 1)
    pure (.conditional test yes (← option p no) (noAlternative p line))
  | .both l r => do
    let p ← bracketed p 1
    let l ← folded p l
    pure (.both l (← folded p r))
  | .either l r => do
    let p ← bracketed p 1
    let l ← folded p l
    pure (.either l (← folded p r))
  | .unary op e => do
    let p ← bracketed p 1
    pure (.unary op (← folded p e))
  | .binary op l r => do
    let p ← bracketed p 1
    let l ← folded p l
    let r ← folded p r
    pure (if op = .pow then power l r else .binary op l r)
  | .concat parts => do
    let on := (← escaping) == .on
    let p ← bracketed p 2
    pure (.concat on (← exprs p parts))
  | .compare first rest => do
    let p ← bracketed p 1
    let first ← folded p first
    pure (.compare first (← operands p rest))
  | .attr e name => do
    let p ← bracketed p 3
    pure (.attr (← folded p e) name)
  | .item e (.slice start stop step) => do
    let e ← folded p e
    let p ← bracketed p 1
    let start ← option p start
    let stop ← option p stop
    pure (.slice e start stop (← option p step))
  | .item e index => do
    let p ← bracketed p 3
    let e ← folded p e
    pure (.item e (← folded p index))
  | .slice start stop step => do
    listing (·.note .slice)
    discard (option p start)
    discard (option p stop)
    discard (option p step)
    pure default
  | .call f args _ => do
    let q ← bracketed p 3
    checkKeywords args p.surroundings
    let f ← folded q f
    pure (.call f (← arguments q p.surroundings args))
  | .filter subject name args line => do
    let known := Filter.names.contains name.toName
    if !p.soft && !known then failAt line (.unknownFilter name)
    else
      let p ← bracketed p 3
      checkKeywords args []
      let subject ← match subject with
        | some e => folded p e
        | none => do
          let e ← escaping
          discard (bracketed p (match e with | .on => 2 | .off => 1 | .switch => 3))
          pure (.captured e)
      let args ← arguments p [] args
      let s ← get
      pure (if known then .filter subject name args
        else unknown p "filter" name s.filters subject args)
  | .test subject name args line => do
    let known := Test.names.contains name.toName
    if !p.soft && !known then failAt line (.unknownTest name)
    else
      let p ← bracketed p 3
      checkKeywords args []
      let subject ← folded p subject
      let args ← arguments p [] args
      let s ← get
      pure (if known then .test subject name args
        else unknown p "test" name s.tests subject args)

/-- Arguments, with further ones that tell the surroundings. -/
def arguments (p : Position) (further : List Text) : Arguments → Lower Args
  | .mk positional keywords spread keywordSpread => do
    let gathered := gathers keywords
    let opened : Nat := if !gathered then 0 else if keywordSpread.isSome then 2 else 1
    let positional ← exprs p positional
    let plain ← if gathered then pure [] else namedExprs p gathered keywords
    let spread ← option p spread
    let named ← if !gathered then pure plain
      else do namedExprs (← bracketed p opened) gathered keywords
    let keywordSpread ← option (← bracketed p (opened - 1)) keywordSpread
    let named := named ++ further.map fun n => (n, .const .none)
    pure (.mk positional named gathered spread keywordSpread)

def exprs (p : Position) : List Expr → Lower (List Term)
  | [] => pure []
  | e :: rest => do
    let t ← folded p e
    pure (t :: (← exprs p rest))

def pairs (p : Position) : List (Expr × Expr) → Lower (List (Term × Term))
  | [] => pure []
  | (k, e) :: rest => do
    let k ← folded p k
    let t ← folded p e
    pure ((k, t) :: (← pairs p rest))

def operands (p : Position) : List (CompareOp × Expr) → Lower (List (CompareOp × Term))
  | [] => pure []
  | (op, e) :: rest => do
    let t ← folded p e
    pure ((op, t) :: (← operands p rest))

def namedExprs (p : Position) (gathered : Bool) : List (Text × Expr) → Lower (List (Text × Term))
  | [] => pure []
  | (n, e) :: rest => do
    let t ← folded p e
    pure ((if gathered then n else Normal.form n, t) :: (← namedExprs p gathered rest))

def option (p : Position) : Option Expr → Lower (Option Term)
  | none => pure none
  | some e => do pure (some (← folded p e))

end

/-- An expression. -/
def expr (p : Position) (e : Expr) : Lower Term := do
  folded p (← ofExcept (e.folded (← get).switches))

/-- The call of a section, which is given to what is called. -/
def sectionCall (p : Position) (f : Expr) (args : Arguments) : Lower (Term × Args) := do
  let q ← bracketed p 3
  checkKeywords args ("caller" :: p.surroundings)
  let f ← folded q f
  pure (f, ← arguments q p.surroundings args)

/-- An expression that may be left out. -/
def optional (p : Position) : Option Expr → Lower (Option Term)
  | none => pure none
  | some e => do pure (some (← expr p e))

end Lower

end Template

end Stencil
