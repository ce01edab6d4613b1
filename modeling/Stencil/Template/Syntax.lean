import Stencil.Text.Quoted

/-!
# Template syntax trees

Expressions and statements as the grammar gives them.

## Main definitions

- `Literal` — constants, containers of constants included
- `Expr` and `Arguments` — expressions
- `Target` — what an assignment binds
- `Stmt` — statements
-/

namespace Stencil

namespace Template

/-- A constant value. -/
inductive Literal where
  | none
  | bool (b : Bool)
  | int (i : Int)
  | float (x : Float)
  | complex (re im : Float)
  | str (t : Text)
  | safe (t : Text)
  | list (items : List Literal)
  | tuple (items : List Literal)
  | dict (entries : List (Literal × Literal))
  deriving Inhabited

namespace Literal

mutual

/-- Whether a literal cannot change once it is made. -/
def isFixed : Literal → Bool
  | .list _ | .dict _ | .safe _ => false
  | .tuple items => allFixed items
  | _ => true

def allFixed : List Literal → Bool
  | [] => true
  | l :: rest => l.isFixed && allFixed rest

end

mutual

/-- Whether two literals are the same constant: of one kind, and with the same content. -/
def same : Literal → Literal → Bool
  | .none, .none => true
  | .bool a, .bool b => a == b
  | .int a, .int b => a == b
  | .float x, .float y => x.toBits == y.toBits
  | .complex x y, .complex u v => x.toBits == u.toBits && y.toBits == v.toBits
  | .str s, .str t => s == t
  | .tuple s, .tuple t => allSame s t
  | _, _ => false

def allSame : List Literal → List Literal → Bool
  | [], [] => true
  | a :: s, b :: t => a.same b && allSame s t
  | _, _ => false

end

end Literal

inductive BinaryOp where
  | add | sub | mul | div | floordiv | mod | pow
  deriving DecidableEq, Repr

inductive UnaryOp where
  | neg | pos | not
  deriving DecidableEq, Repr

inductive CompareOp where
  | eq | ne | gt | ge | lt | le | isIn | notIn
  deriving DecidableEq, Repr

mutual

inductive Expr where
  | literal (l : Literal)
  /-- Text between tags. -/
  | data (t : Text)
  | name (n : Text) (line : Nat)
  | tuple (items : List Expr)
  | list (items : List Expr)
  | dict (entries : List (Expr × Expr))
  /-- `yes if test else no`. -/
  | conditional (test yes : Expr) (no : Option Expr) (line : Nat)
  | both (l r : Expr)
  | either (l r : Expr)
  | unary (op : UnaryOp) (e : Expr)
  | binary (op : BinaryOp) (l r : Expr)
  | concat (parts : List Expr)
  | compare (first : Expr) (rest : List (CompareOp × Expr))
  | attr (e : Expr) (name : Text)
  | item (e index : Expr)
  | slice (start stop step : Option Expr)
  | call (f : Expr) (args : Arguments) (line : Nat)
  /-- The innermost filter of a filter section has no subject. -/
  | filter (subject : Option Expr) (name : Text) (args : Arguments) (line : Nat)
  | test (subject : Expr) (name : Text) (args : Arguments) (line : Nat)

inductive Arguments where
  | mk (positional : List Expr) (keywords : List (Text × Expr)) (spread keywordSpread : Option Expr)

end

instance : Inhabited Expr := ⟨.literal .none⟩

namespace Arguments

def none : Arguments := .mk [] [] .none .none

def positional : Arguments → List Expr
  | .mk p _ _ _ => p

def keywords : Arguments → List (Text × Expr)
  | .mk _ k _ _ => k

def spread : Arguments → Option Expr
  | .mk _ _ s _ => s

def keywordSpread : Arguments → Option Expr
  | .mk _ _ _ s => s

instance : Inhabited Arguments := ⟨none⟩

end Arguments

/-- What an assignment binds. -/
inductive Target where
  | name (n : Text) (line : Nat)
  | tuple (items : List Target)
  /-- An attribute of a namespace. -/
  | member (space attr : Text) (line : Nat)
  deriving Inhabited

/-- A parameter of a macro or of a call section, with its default. -/
structure Parameter where
  name : Text
  default : Option Expr
  deriving Inhabited

inductive Stmt where
  | output (parts : List Expr)
  | assign (target : Target) (value : Expr)
  | assignBlock (target : Target) (filter : Option Expr) (body : List Stmt)
  | forLoop (target : Target) (source : Expr) (test : Option Expr) (recursive : Bool)
      (body orElse : List Stmt)
  | branch (test : Expr) (body : List Stmt) (elifs : List (Expr × List Stmt)) (orElse : List Stmt)
  | withVars (bindings : List (Target × Expr)) (body : List Stmt)
  | autoescape (value : Expr) (body : List Stmt)
  | block (name : Text) (seesScope required : Bool) (body : List Stmt) (line : Nat)
  | extends (template : Expr) (line : Nat)
  | includeTemplate (template : Expr) (ignoreMissing withContext : Bool)
  | importAs (template : Expr) (target : Text) (withContext : Bool)
  | importFrom (template : Expr) (names : List (Text × Text)) (withContext : Bool)
  | define (name : Text) (parameters : List Parameter) (body : List Stmt) (line : Nat)
  | callSection (parameters : List Parameter) (call : Expr) (body : List Stmt) (line : Nat)
  | filterSection (filter : Expr) (body : List Stmt)
  deriving Inhabited

namespace Expr

/-- How messages name the form of an expression. -/
def form : Expr → String
  | literal _ => "const"
  | data _ => "templatedata"
  | name .. => "name"
  | tuple _ => "tuple"
  | list _ => "list"
  | dict _ => "dict"
  | conditional .. => "condexpr"
  | both .. => "and"
  | either .. => "or"
  | unary .neg _ => "neg"
  | unary .pos _ => "pos"
  | unary .not _ => "not"
  | binary .add .. => "add"
  | binary .sub .. => "sub"
  | binary .mul .. => "mul"
  | binary .div .. => "div"
  | binary .floordiv .. => "floordiv"
  | binary .mod .. => "mod"
  | binary .pow .. => "pow"
  | concat _ => "concat"
  | compare .. => "compare"
  | attr .. => "getattr"
  | item .. => "getitem"
  | slice .. => "slice"
  | call .. => "call"
  | filter .. => "filter"
  | test .. => "test"

end Expr

end Template

end Stencil
