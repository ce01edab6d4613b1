import Stencil.Template.Lexer
import Stencil.Template.Syntax

/-!
# Syntax trees from tokens

The grammar of the template language. A fault of the token sequence is raised when the parser moves on
to it, so the first fault in reading order is the one that is reported.

## Main definitions

- `Parse` — computations over the tokens ahead
- `Parse.expression`, `Parse.target` — expressions and assignment targets
- `Parse.template` — the statements of a whole template
- `Template.parse` — the statements of a source

## Design notes

The functions of the grammar recurse on a natural number that bounds their nesting. It is taken from
the number of tokens ahead, of which every nesting of the grammar consumes at least one.
-/

namespace Stencil

namespace Template

/-- The tokens ahead, and the open parts of the template. -/
structure Ahead where
  tokens : List Token
  fault : Option Fault
  /-- The names of the open tags, innermost first. -/
  openTags : List Text := []
  /-- The tags that end each open part, innermost first. -/
  endTags : List (List String) := []

/-- Computations that consume tokens. -/
abbrev Parse := StateT Ahead (Except Fault)

/-- An expression with the line that messages give for it. -/
abbrev Located := Expr × Nat

namespace Parse

def current : Parse Token := do
  match (← get).tokens with
  | t :: _ => pure t
  | [] => pure { line := 1, lexeme := .stop }

def lexeme : Parse Lexeme := do
  pure (← current).lexeme

def line : Parse Nat := do
  pure (← current).line

def ahead : Parse Nat := do
  pure (← get).tokens.length

def failAt {α : Type} (line : Nat) (cause : Cause) : Parse α :=
  throw { line, cause }

def fail {α : Type} (cause : Cause) : Parse α := do
  failAt (← line) cause

/-- Move to the next token and return the one moved from. The last token stays. -/
def advance : Parse Token := do
  let s ← get
  match s.tokens, s.fault with
  | t :: u :: rest, _ => set { s with tokens := u :: rest }; pure t
  | [_], some fault => throw fault
  | [t], none => pure t
  | [], _ => pure { line := 1, lexeme := .stop }

/-- The token after the current one. -/
def next : Parse Token := do
  let s ← get
  match s.tokens, s.fault with
  | _ :: u :: _, _ => pure u
  | [_], some fault => throw fault
  | t :: _, none => pure t
  | [], _ => pure { line := 1, lexeme := .stop }

def expected {α : Type} (what : Text) : Parse α := do
  let l ← lexeme
  fail (.expected what (if l.isStop then none else some l.describe))

def expectSymbol (s : Symbol) : Parse Token := do
  if (← lexeme).isSymbol s then advance else expected s.text

def expectName (n : String) : Parse Token := do
  if (← lexeme).isName n then advance else expected n

def expectTagEnd : Parse Unit := do
  if (← lexeme).isTagEnd then discard advance else expected Lexeme.tagEnd.describe

/-- Any name, with its line. -/
def anyName : Parse (Text × Nat) := do
  let t ← current
  match t.lexeme with
  | .name n => discard advance; pure (n, t.line)
  | _ => expected "name"

def skipName (n : String) : Parse Bool := do
  if (← lexeme).isName n then discard advance; pure true else pure false

def skipSymbol (s : Symbol) : Parse Bool := do
  if (← lexeme).isSymbol s then discard advance; pure true else pure false

def isAnyName (l : Lexeme) (names : List String) : Bool :=
  names.any l.isName

/-- Operands joined by operators of one level, grouped to the left. `start` is the line the next
node is given, `fuel` bounds the number of operators. -/
def chain (operand : Parse Located) (operator? : Lexeme → Option (Expr → Expr → Expr)) :
    Nat → Nat → Located → Parse Located
  | 0, _, left => pure left
  | fuel + 1, start, left => do
    match operator? (← lexeme) with
    | none => pure left
    | some node =>
      discard advance
      let (right, _) ← operand
      chain operand operator? fuel (← line) (node left.1 right, start)

/-- A level of operators over its operands. -/
def leftLevel (operand : Parse Located) (operator? : Lexeme → Option (Expr → Expr → Expr)) :
    Parse Located := do
  let start ← line
  let first ← operand
  chain operand operator? (← ahead) start first

/-- Items with commas between them, up to a closing symbol, which is consumed. A comma may stand before
the closing symbol. -/
def items {α : Type} (close : Symbol) (item : Parse α) : Nat → List α → Parse (List α)
  | 0, acc => pure acc.reverse
  | fuel + 1, acc => do
    if ← skipSymbol close then pure acc.reverse
    else
      if !acc.isEmpty then discard (expectSymbol .comma)
      if ← skipSymbol close then pure acc.reverse
      else items close item fuel ((← item) :: acc)

/-- Whether a tuple without parentheses ends before a token. -/
def endsTuple (extra : List String) (l : Lexeme) : Bool :=
  match l with
  | .printEnd | .tagEnd | .symbol .rparen => true
  | _ => isAnyName l extra

/-- The items of a tuple, whether a comma makes it one, and its line. -/
def tupleItems {α : Type} (extra : List String) (item : Parse α) :
    Nat → List α → Bool → Nat → Parse (List α × Bool × Nat)
  | 0, acc, isTuple, start => pure (acc.reverse, isTuple, start)
  | fuel + 1, acc, isTuple, start => do
    if !acc.isEmpty then discard (expectSymbol .comma)
    if endsTuple extra (← lexeme) then pure (acc.reverse, isTuple, start)
    else
      let acc := (← item) :: acc
      if (← lexeme).isSymbol .comma then tupleItems extra item fuel acc true (← line)
      else pure (acc.reverse, isTuple, start)

def compareOp? : Lexeme → Option CompareOp
  | .symbol .eq => some .eq
  | .symbol .ne => some .ne
  | .symbol .gt => some .gt
  | .symbol .gteq => some .ge
  | .symbol .lt => some .lt
  | .symbol .lteq => some .le
  | _ => none

/-- The comparison operator ahead, consumed. -/
def comparison? : Parse (Option CompareOp) := do
  let l ← lexeme
  match compareOp? l with
  | some op => discard advance; pure (some op)
  | none =>
    if ← skipName "in" then pure (some .isIn)
    else if l.isName "not" then
      if (← next).lexeme.isName "in" then
        discard advance; discard advance; pure (some .notIn)
      else pure none
    else pure none

/-- Comparisons behind the first operand. -/
def comparisons (operand : Parse Located) :
    Nat → List (CompareOp × Expr) → Nat → Parse (List (CompareOp × Expr) × Nat)
  | 0, acc, start => pure (acc.reverse, start)
  | fuel + 1, acc, start => do
    match ← comparison? with
    | none => pure (acc.reverse, start)
    | some op =>
      let (e, _) ← operand
      comparisons operand fuel ((op, e) :: acc) (← line)

/-- The name of a filter or a test, parts joined by points. -/
def dottedName : Nat → Text → Parse Text
  | 0, n => pure n
  | fuel + 1, n => do
    if ← skipSymbol .dot then
      let (part, _) ← anyName
      dottedName fuel (n ++ "." ++ part)
    else pure n

/-- Arguments collected so far. -/
structure Collected where
  positional : List Expr := []
  keywords : List (Text × Expr) := []
  spread : Option Expr := none
  keywordSpread : Option Expr := none

def Collected.toArguments (c : Collected) : Arguments :=
  .mk c.positional.reverse c.keywords.reverse c.spread c.keywordSpread

/-- One argument of a call that starts on line `start`. -/
def argument (expression : Parse Located) (start : Nat) (c : Collected) : Parse Collected := do
  let ensure (ok : Bool) : Parse Unit := if ok then pure () else failAt start .callForm
  let l ← lexeme
  if l.isSymbol .mul then
    ensure (c.spread.isNone && c.keywordSpread.isNone)
    discard advance
    pure { c with spread := some (← expression).1 }
  else if l.isSymbol .pow then
    ensure c.keywordSpread.isNone
    discard advance
    pure { c with keywordSpread := some (← expression).1 }
  else
    let keyword? : Option Text ← match l with
      | .name n => if (← next).lexeme.isSymbol .assign then pure (some n) else pure none
      | _ => pure none
    match keyword? with
    | some n =>
      ensure c.keywordSpread.isNone
      discard advance; discard advance
      pure { c with keywords := (n, (← expression).1) :: c.keywords }
    | none =>
      ensure (c.spread.isNone && c.keywordSpread.isNone && c.keywords.isEmpty)
      pure { c with positional := (← expression).1 :: c.positional }

def argumentsLoop (expression : Parse Located) (start : Nat) :
    Nat → Bool → Collected → Parse Collected
  | 0, _, c => pure c
  | fuel + 1, needsComma, c => do
    if ← skipSymbol .rparen then pure c
    else
      if needsComma then discard (expectSymbol .comma)
      if needsComma && (← lexeme).isSymbol .rparen then discard advance; pure c
      else argumentsLoop expression start fuel true (← argument expression start c)

/-- Arguments in parentheses. -/
def arguments (expression : Parse Located) : Parse Arguments := do
  let start := (← expectSymbol .lparen).line
  pure (← argumentsLoop expression start ((← ahead) + 1) false {}).toArguments

/-- A filter by its name, and what is behind it. -/
def filterNamed (expression : Parse Located) (behind : Option Located → Parse (Option Located))
    (subject : Option Located) : Parse (Option Located) := do
  let (n, start) ← anyName
  let name ← dottedName (← ahead) n
  let args ← if (← lexeme).isSymbol .lparen then arguments expression else pure .none
  behind (some (.filter (subject.map (·.1)) name args start, start))

/-- Filters behind pipes. -/
def filters (expression : Parse Located) : Nat → Option Located → Parse (Option Located)
  | 0, subject => pure subject
  | fuel + 1, subject => do
    if ← skipSymbol .pipe then filterNamed expression (filters expression fuel) subject
    else pure subject

/-- One index of a subscript: an expression or a slice. -/
def subscribed (expression : Parse Located) : Parse Expr := do
  let part : Parse (Option Expr) := do
    let l ← lexeme
    if l.isSymbol .rbracket || l.isSymbol .comma then pure none
    else pure (some (← expression).1)
  let rest (start : Option Expr) : Parse Expr := do
    let stop ← if (← lexeme).isSymbol .colon then pure none else part
    let step ← if ← skipSymbol .colon then part else pure none
    pure (.slice start stop step)
  if ← skipSymbol .colon then rest none
  else
    let (e, _) ← expression
    if ← skipSymbol .colon then rest (some e) else pure e

/-- Indices up to a closing bracket, which is consumed. -/
def indices (expression : Parse Located) : Nat → List Expr → Parse (List Expr)
  | 0, acc => pure acc.reverse
  | fuel + 1, acc => do
    if ← skipSymbol .rbracket then pure acc.reverse
    else
      if !acc.isEmpty then discard (expectSymbol .comma)
      indices expression fuel ((← subscribed expression) :: acc)

/-- An attribute, an item or a call behind an expression. -/
def postfixOnce? (expression : Parse Located) (e : Expr) : Parse (Option Located) := do
  let t ← current
  if t.lexeme.isSymbol .dot then
    discard advance
    let a ← advance
    match a.lexeme with
    | .name n => pure (some (.attr e n, t.line))
    | .integer i => pure (some (.item e (.literal (.int i)), t.line))
    | _ => failAt a.line .nameOrNumberExpected
  else if t.lexeme.isSymbol .lbracket then
    discard advance
    match ← indices expression ((← ahead) + 1) [] with
    | [index] => pure (some (.item e index, t.line))
    | several => pure (some (.item e (.tuple several), t.line))
  else if t.lexeme.isSymbol .lparen then
    pure (some (.call e (← arguments expression) t.line, t.line))
  else pure none

def postfixes (expression : Parse Located) : Nat → Located → Parse Located
  | 0, e => pure e
  | fuel + 1, e => do
    match ← postfixOnce? expression e.1 with
    | some e => postfixes expression fuel e
    | none => pure e

/-- Adjacent string literals form one. -/
def strings : Nat → Text → Parse Text
  | 0, acc => pure acc
  | fuel + 1, acc => do
    match ← lexeme with
    | .string t => discard advance; strings fuel (acc ++ t)
    | _ => pure acc

/-- The constant that a name stands for. -/
def constant? (n : Text) : Option Literal :=
  match n.toName with
  | "true" | "True" => some (.bool true)
  | "false" | "False" => some (.bool false)
  | "none" | "None" => some .none
  | _ => none

def pair (expression : Parse Located) : Parse (Expr × Expr) := do
  let (k, _) ← expression
  discard (expectSymbol .colon)
  pure (k, (← expression).1)

/-- A tuple, or one expression if no comma makes it a tuple. -/
def tupleOf (extra : List String) (inParentheses : Bool) (item : Parse Located) : Parse Located := do
  let start ← line
  let (parts, isTuple, start) ← tupleItems extra item ((← ahead) + 1) [] false start
  match isTuple, parts with
  | false, [e] => pure e
  | false, _ =>
    if inParentheses then pure (.tuple [], start)
    else fail (.expressionExpected (← lexeme).describe)
  | true, parts => pure (.tuple (parts.map (·.1)), start)

/-- The expressions that need no operator. -/
def primaryOf (expression : Parse Located) : Parse Located := do
  let t ← current
  let bound := (← ahead) + 1
  match t.lexeme with
  | .name n =>
    discard advance
    match constant? n with
    | some l => pure (.literal l, t.line)
    | none => pure (.name n t.line, t.line)
  | .string _ => pure (.literal (.str (← strings bound [])), t.line)
  | .integer i => discard advance; pure (.literal (.int i), t.line)
  | .float x => discard advance; pure (.literal (.float x), t.line)
  | .symbol .lparen =>
    discard advance
    let e ← tupleOf [] true expression
    discard (expectSymbol .rparen)
    pure e
  | .symbol .lbracket =>
    discard advance
    pure (.list ((← items .rbracket expression bound []).map (·.1)), t.line)
  | .symbol .lbrace =>
    discard advance
    pure (.dict (← items .rbrace (pair expression) bound []), t.line)
  | l => failAt t.line (.unexpected l.describe)

/-- Whether a token starts the single argument that a test may take without parentheses. -/
def startsTestArgument (l : Lexeme) : Bool :=
  match l with
  | .name _ => !isAnyName l ["else", "or", "and"]
  | .string _ | .integer _ | .float _ | .symbol .lbracket | .symbol .lbrace => true
  | _ => false

/-- A test behind `is`. -/
def testOf (expression : Parse Located) (subject : Expr) : Parse Located := do
  let start := (← advance).line
  let negated ← skipName "not"
  let (n, _) ← anyName
  let name ← dottedName (← ahead) n
  let l ← lexeme
  let args ←
    if l.isSymbol .lparen then arguments expression
    else if startsTestArgument l then do
      if l.isName "is" then fail .chainedTests
      let e ← primaryOf expression
      let (e, _) ← postfixes expression (← ahead) e
      pure (.mk [e] [] none none)
    else pure .none
  let node : Expr := .test subject name args start
  pure (if negated then .unary .not node else node, start)

/-- Filters, tests and calls behind an operand. -/
def filtersAndTests (expression : Parse Located) : Nat → Located → Parse Located
  | 0, e => pure e
  | fuel + 1, e => do
    let l ← lexeme
    if l.isSymbol .pipe then
      match ← filters expression (← ahead) (some e) with
      | some e => filtersAndTests expression fuel e
      | none => pure e
    else if l.isName "is" then
      filtersAndTests expression fuel (← testOf expression e.1)
    else if l.isSymbol .lparen then
      let start ← line
      filtersAndTests expression fuel (.call e.1 (← arguments expression) start, start)
    else pure e

def orOp? (l : Lexeme) : Option (Expr → Expr → Expr) :=
  if l.isName "or" then some .either else none

def andOp? (l : Lexeme) : Option (Expr → Expr → Expr) :=
  if l.isName "and" then some .both else none

def sumOp? : Lexeme → Option (Expr → Expr → Expr)
  | .symbol .add => some (.binary .add)
  | .symbol .sub => some (.binary .sub)
  | _ => none

def productOp? : Lexeme → Option (Expr → Expr → Expr)
  | .symbol .mul => some (.binary .mul)
  | .symbol .div => some (.binary .div)
  | .symbol .floordiv => some (.binary .floordiv)
  | .symbol .mod => some (.binary .mod)
  | _ => none

def powerOp? : Lexeme → Option (Expr → Expr → Expr)
  | .symbol .pow => some (.binary .pow)
  | _ => none

/-- The operands between tildes. -/
def concatenated (operand : Parse Located) : Nat → List Expr → Parse (List Expr)
  | 0, acc => pure acc.reverse
  | fuel + 1, acc => do
    if ← skipSymbol .tilde then concatenated operand fuel ((← operand).1 :: acc)
    else pure acc.reverse

mutual

/-- An expression. -/
def expressionAt : Nat → Parse Located
  | 0 => fail .callForm
  | fuel + 1 => do
    let start ← line
    let e ← disjunctionAt fuel
    conditionalsAt fuel start e

/-- Conditions behind an expression. -/
def conditionalsAt : Nat → Nat → Located → Parse Located
  | 0, _, e => pure e
  | fuel + 1, start, e => do
    if ← skipName "if" then
      let (test, _) ← disjunctionAt fuel
      let no ← if ← skipName "else" then do pure (some (← expressionAt fuel).1) else pure none
      let node : Expr := .conditional test e.1 no start
      conditionalsAt fuel (← line) (node, start)
    else pure e

/-- An expression without a condition. -/
def disjunctionAt : Nat → Parse Located
  | 0 => fail .callForm
  | fuel + 1 => leftLevel (leftLevel (negationAt fuel) andOp?) orOp?

def negationAt : Nat → Parse Located
  | 0 => fail .callForm
  | fuel + 1 => do
    let start ← line
    if ← skipName "not" then
      let (e, _) ← negationAt fuel
      pure (.unary .not e, start)
    else
      let sum := leftLevel (concatAt fuel) sumOp?
      let first ← sum
      let (rest, last) ← comparisons sum (← ahead) [] start
      pure (if rest.isEmpty then first else (.compare first.1 rest, last))

def concatAt : Nat → Parse Located
  | 0 => fail .callForm
  | fuel + 1 => do
    let start ← line
    let product := leftLevel (leftLevel (unaryAt true fuel) powerOp?) productOp?
    let first ← product
    match ← concatenated product (← ahead) [first.1] with
    | [_] => pure first
    | parts => pure (.concat parts, start)

/-- A sign, or an operand with what stands behind it; filters bind to a signed operand as a whole. -/
def unaryAt (withFilters : Bool) : Nat → Parse Located
  | 0 => fail .callForm
  | fuel + 1 => do
    let start ← line
    let inner : Parse Located := expressionAt fuel
    let e ←
      if ← skipSymbol .sub then do
        let (e, _) ← unaryAt false fuel
        pure (.unary .neg e, start)
      else if ← skipSymbol .add then do
        let (e, _) ← unaryAt false fuel
        pure (.unary .pos e, start)
      else primaryOf inner
    let e ← postfixes inner ((← ahead) + 1) e
    if withFilters then filtersAndTests inner ((← ahead) + 1) e else pure e

end

/-- A bound on the nesting of expressions in the tokens ahead. -/
def nesting : Parse Nat := do
  pure (8 * (← ahead) + 8)

def expression : Parse Located := do
  expressionAt (← nesting)

def disjunction : Parse Located := do
  disjunctionAt (← nesting)

def tuple : Parse Located :=
  tupleOf [] false expression

/-- A tuple whose items have no conditions. -/
def plainTuple (extra : List String) : Parse Located :=
  tupleOf extra false disjunction

/-! ### Targets -/

/-- Names that cannot be assigned. -/
def isReserved (n : Text) : Bool :=
  (constant? n).isSome

mutual

/-- The target that an expression can be read as. -/
def targetOf? : Expr → Option Target
  | .name n line => if isReserved n then none else some (.name n line)
  | .tuple items => (targetsOf? items).map .tuple
  | _ => none

def targetsOf? : List Expr → Option (List Target)
  | [] => some []
  | e :: rest => do
    let t ← targetOf? e
    pure (t :: (← targetsOf? rest))

end

/-- A target without commas, or what stands in its place. -/
def simpleTarget (withNamespace : Bool) : Parse (Except String Target × Nat) := do
  let t ← current
  let member? : Option Text ← match t.lexeme with
    | .name n =>
      if withNamespace && !isReserved n && (← next).lexeme.isSymbol .dot then pure (some n)
      else pure none
    | _ => pure none
  match member? with
  | some space =>
    discard advance; discard advance
    let (attr, _) ← anyName
    pure (.ok (.member space attr t.line), t.line)
  | none =>
    let (e, line) ← primaryOf expression
    match targetOf? e with
    | some target => pure (.ok target, line)
    | none => pure (.error e.form, line)

def allTargets : List (Except String Target × Nat) → Option (List Target)
  | [] => some []
  | (.ok t, _) :: rest => (allTargets rest).map (t :: ·)
  | (.error _, _) :: _ => none

/-- An assignment target. -/
def target (withNamespace : Bool) (extra : List String) : Parse Target := do
  let start ← line
  let (parts, isTuple, start) ←
    tupleItems extra (simpleTarget withNamespace) ((← ahead) + 1) [] false start
  match isTuple, parts with
  | false, [(.ok t, _)] => pure t
  | false, [(.error form, line)] => failAt line (.notAssignable form)
  | false, _ => fail (.expressionExpected (← lexeme).describe)
  | true, parts => match allTargets parts with
    | some targets => pure (.tuple targets)
    | none => failAt start (.notAssignable "tuple")

/-- A single name as a target. -/
def nameTarget : Parse (Text × Nat) := do
  let (n, line) ← anyName
  if isReserved n then failAt line (.notAssignable "name") else pure (n, line)

/-! ### Statements -/

/-- The fault of a tag that nothing starts or ends here. -/
def strayTag (name : Option Text) (endTags : List (List String)) : Parse Cause := do
  let sought := (endTags.head?.getD []).map Text.ofString
  let nesting := match name with
    | some n => endTags.any fun tags => tags.any fun t => Text.ofString t == n
    | none => false
  pure (.strayTag name sought nesting (← get).openTags.head?)

def withoutEnd : Lexeme → Bool
  | .stop => true
  | _ => false

/-- Parameters in parentheses, those with defaults last. -/
def parameters : Nat → List Parameter → Parse (List Parameter)
  | 0, acc => pure acc.reverse
  | fuel + 1, acc => do
    if ← skipSymbol .rparen then pure acc.reverse
    else
      if !acc.isEmpty then discard (expectSymbol .comma)
      let (name, _) ← nameTarget
      if ← skipSymbol .assign then
        parameters fuel ({ name, default := some (← expression).1 } :: acc)
      else if acc.any (·.default.isSome) then fail .defaultExpected
      else parameters fuel ({ name, default := none } :: acc)

def signature : Parse (List Parameter) := do
  discard (expectSymbol .lparen)
  parameters ((← ahead) + 1) []

/-- Whether the imported template sees the context: `with context` or `without context`. Behind a list
of names the first word may also be quoted. -/
def contextMark? (mayBeQuoted : Bool) : Parse (Option Bool) := do
  let word : Option Text := match ← lexeme with
    | .name n => some n
    | .string t => if mayBeQuoted then some t else none
    | _ => none
  let mark : Option Bool := match word with
    | some n =>
      if n == ("with" : Text) then some true else if n == ("without" : Text) then some false else none
    | none => none
  match mark with
  | some mark =>
    if (← next).lexeme.isName "context" then
      discard advance; discard advance
      pure (some mark)
    else pure none
  | none => pure none

/-- The names of a `from` tag, and its context mark. -/
def importedNames : Nat → List (Text × Text) → Parse (List (Text × Text) × Option Bool)
  | 0, acc => pure (acc.reverse, none)
  | fuel + 1, acc => do
    if !acc.isEmpty then discard (expectSymbol .comma)
    match ← lexeme with
    | .name _ =>
      match ← contextMark? false with
      | some mark => pure (acc.reverse, some mark)
      | none =>
        let (name, line) ← nameTarget
        if name.head? = some 95 then failAt line .hiddenImport
        let (localName, _) ← if ← skipName "as" then nameTarget else pure (name, line)
        let acc := (name, localName) :: acc
        match ← contextMark? true with
        | some mark => pure (acc.reverse, some mark)
        | none =>
          if (← lexeme).isSymbol .comma then importedNames fuel acc
          else pure (acc.reverse, none)
    | _ => expected "name"

/-- The bindings of a `with` tag. -/
def bindings : Nat → List (Target × Expr) → Parse (List (Target × Expr))
  | 0, acc => pure acc.reverse
  | fuel + 1, acc => do
    if (← lexeme).isTagEnd then pure acc.reverse
    else
      if !acc.isEmpty then discard (expectSymbol .comma)
      let t ← target false []
      discard (expectSymbol .assign)
      bindings fuel ((t, (← expression).1) :: acc)

/-- The expressions of a `print` tag. -/
def printed : Nat → List Expr → Parse (List Expr)
  | 0, acc => pure acc.reverse
  | fuel + 1, acc => do
    if (← lexeme).isTagEnd then pure acc.reverse
    else
      if !acc.isEmpty then discard (expectSymbol .comma)
      printed fuel ((← expression).1 :: acc)

def isBlankOutput : Stmt → Bool
  | .output parts => parts.all fun
    | .data t => !t.isEmpty && t.all isSpace
    | _ => false
  | _ => false

/-- The statement of the text and expressions read so far, in reverse. -/
def flushed (pending : List Expr) (body : List Stmt) : List Stmt :=
  if pending.isEmpty then body else .output pending.reverse :: body

mutual

/-- Statements up to one of the end tags, or up to the end of the template if none are given. The end
tag's name stays ahead. -/
def statements (endTags : Option (List String)) :
    Nat → List Expr → List Stmt → Parse (List Stmt)
  | 0, pending, body => pure (flushed pending body).reverse
  | fuel + 1, pending, body => do
    match ← lexeme with
    | .stop => pure (flushed pending body).reverse
    | .data t =>
      discard advance
      statements endTags fuel (.data t :: pending) body
    | .printBegin =>
      discard advance
      let (e, _) ← tuple
      match ← lexeme with
      | .printEnd => discard advance
      | _ => expected Lexeme.printEnd.describe
      statements endTags fuel (e :: pending) body
    | _ =>
      let body := flushed pending body
      discard advance
      let l ← lexeme
      if isAnyName l (endTags.getD []) then pure body.reverse
      else
        let s ← statement fuel
        expectTagEnd
        statements endTags fuel [] (s :: body)

/-- The body of a tag up to one of the end tags, whose name stays ahead. -/
def body (endTags : List String) : Nat → Parse (List Stmt)
  | 0 => fail .tagNameExpected
  | fuel + 1 => do
    discard (skipSymbol .colon)
    expectTagEnd
    modify fun s => { s with endTags := endTags :: s.endTags }
    let result ← statements (some endTags) fuel [] []
    modify fun s => { s with endTags := s.endTags.tail }
    if (← lexeme).isStop then
      fail (← strayTag none (endTags :: (← get).endTags))
    pure result

/-- The body of a tag up to its only end tag, whose name is consumed. -/
def closedBody (endTag : String) : Nat → Parse (List Stmt)
  | 0 => fail .tagNameExpected
  | fuel + 1 => do
    let result ← body [endTag] fuel
    discard advance
    pure result

/-- The parts of an `if` tag from the first condition on. -/
def branches : Nat → Parse (List (Expr × List Stmt) × List Stmt)
  | 0 => fail .tagNameExpected
  | fuel + 1 => do
    let (test, _) ← plainTuple []
    let part ← body ["elif", "else", "endif"] fuel
    let mark := (← advance).lexeme
    if mark.isName "elif" then
      let (rest, orElse) ← branches fuel
      pure ((test, part) :: rest, orElse)
    else if mark.isName "else" then
      pure ([(test, part)], ← closedBody "endif" fuel)
    else pure ([(test, part)], [])

/-- A statement, from the name of its tag on. -/
def statement : Nat → Parse Stmt
  | 0 => fail .tagNameExpected
  | fuel + 1 => do
    let t ← current
    match t.lexeme with
    | .name tag =>
      modify fun s => { s with openTags := tag :: s.openTags }
      let result ← statementOf tag t.line fuel
      modify fun s => { s with openTags := s.openTags.tail }
      pure result
    | _ => failAt t.line .tagNameExpected

/-- The statement of a tag. -/
def statementOf (tag : Text) (line : Nat) : Nat → Parse Stmt
  | 0 => fail .tagNameExpected
  | fuel + 1 => do
    let rest : Parse Unit := discard advance
    match tag.toName with
    | "set" =>
      rest
      let t ← target true []
      if ← skipSymbol .assign then
        let (e, _) ← tuple
        pure (.assign t e)
      else
        let f ← filters expression (← ahead) none
        pure (.assignBlock t (f.map (·.1)) (← closedBody "endset" fuel))
    | "for" =>
      rest
      let t ← target false ["in"]
      discard (expectName "in")
      let (source, _) ← plainTuple ["recursive"]
      let test ← if ← skipName "if" then do pure (some (← expression).1) else pure none
      let recursive ← skipName "recursive"
      let part ← body ["endfor", "else"] fuel
      let mark := (← advance).lexeme
      let orElse ← if mark.isName "endfor" then pure [] else closedBody "endfor" fuel
      pure (.forLoop t source test recursive part orElse)
    | "if" =>
      rest
      match ← branches fuel with
      | ((test, part) :: elifs, orElse) => pure (.branch test part elifs orElse)
      | ([], _) => fail .tagNameExpected
    | "with" =>
      rest
      let bound ← bindings ((← ahead) + 1) []
      pure (.withVars bound (← closedBody "endwith" fuel))
    | "autoescape" =>
      rest
      let (e, _) ← expression
      pure (.autoescape e (← closedBody "endautoescape" fuel))
    | "block" =>
      rest
      let (name, _) ← anyName
      let seesScope ← skipName "scoped"
      let required ← skipName "required"
      if (← lexeme).isSymbol .sub then fail .hyphenatedBlock
      let part ← closedBody "endblock" fuel
      if required && !part.all isBlankOutput then fail .requiredBlockContent
      discard (skipName name.toName)
      pure (.block name seesScope required part line)
    | "extends" =>
      rest
      pure (.extends (← expression).1 line)
    | "include" =>
      rest
      let (e, _) ← expression
      let ignoreMissing ←
        if (← lexeme).isName "ignore" then
          if (← next).lexeme.isName "missing" then do
            discard advance; discard advance; pure true
          else pure false
        else pure false
      pure (.includeTemplate e ignoreMissing ((← contextMark? false).getD true))
    | "import" =>
      rest
      let (e, _) ← expression
      discard (expectName "as")
      let (name, _) ← nameTarget
      pure (.importAs e name ((← contextMark? false).getD false))
    | "from" =>
      rest
      let (e, _) ← expression
      discard (expectName "import")
      let (names, mark) ← importedNames ((← ahead) + 1) []
      pure (.importFrom e names (mark.getD false))
    | "macro" =>
      rest
      let (name, _) ← nameTarget
      let ps ← signature
      pure (.define name ps (← closedBody "endmacro" fuel) line)
    | "call" =>
      rest
      let ps ← if (← lexeme).isSymbol .lparen then signature else pure []
      let (e, _) ← expression
      match e with
      | .call .. => pure (.callSection ps e (← closedBody "endcall" fuel) line)
      | _ => failAt line .callExpected
    | "filter" =>
      rest
      match ← filterNamed expression (filters expression (← ahead)) none with
      | some (f, _) => pure (.filterSection f (← closedBody "endfilter" fuel))
      | none => fail .tagNameExpected
    | "print" =>
      rest
      pure (.output (← printed ((← ahead) + 1) []))
    | _ =>
      modify fun s => { s with openTags := s.openTags.tail }
      failAt line (← strayTag (some tag) (← get).endTags)

end

/-- The statements of a whole template. -/
def template : Parse (List Stmt) := do
  statements none (4 * (← ahead) + 8) [] []

end Parse

/-- The statements of a source. -/
def parse (spacing : Spacing) (source : Text) : Except Fault (List Stmt) :=
  let read := Tokens.ofSource spacing source
  let last := (read.tokens.getLast?.map (·.line)).getD 1
  match read.tokens, read.fault with
  | [], some fault => .error fault
  | tokens, some fault => (Parse.template.run { tokens, fault := some fault }).map (·.1)
  | tokens, none =>
    (Parse.template.run
      { tokens := tokens ++ [{ line := last, lexeme := .stop }], fault := none }).map (·.1)

end Template

end Stencil
