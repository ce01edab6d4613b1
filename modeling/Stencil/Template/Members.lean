import Stencil.Template.Class

/-!
# Members of classes

The methods that the values of each class have, and how each of them takes its arguments.

## Main definitions

- `Convention` — the ways in which functions take arguments
- `Class.ownMembers` — the methods that a class brings along
- `Class.convention?` — how a method of a class takes its arguments

## Design notes

The conventions differ in what they accept and in how their refusals are worded, so each method names
the one it belongs to.
-/

namespace Stencil

namespace Template

/-- A parameter of a written function: its name, and whether it may be left out. -/
structure ParameterName where
  name : String
  optional : Bool := false
  deriving DecidableEq, Repr, Inhabited

/-- How a function takes its arguments. -/
inductive Convention where
  /-- No arguments. -/
  | nothing
  /-- Exactly one. -/
  | one
  /-- By position only, from `least` to `most`. -/
  | positions (least most : Nat)
  /-- The same, refused in other words. -/
  | counted (least most : Nat)
  /-- Any number, by position only. -/
  | several
  /-- By position or by name. The first `leading` have no name, `required` must be given, and at most
  `positional` go by position. -/
  | named (names : List String) (leading required positional : Nat)
  /-- The operands of an operator. A terse one does not tell its count apart from its name. -/
  | operands (least most : Nat) (terse : Bool)
  /-- Any arguments. -/
  | free
  /-- A written function. The first `leading` parameters behind the receiver have no name. -/
  | written (formals : List ParameterName) (leading : Nat)
  deriving DecidableEq, Repr, Inhabited

/-- Methods that share a convention. -/
abbrev MemberTable := List (Convention × List String)

namespace MemberTable

def names (t : MemberTable) : List String :=
  List.flatMap (·.2) t

def find? (t : MemberTable) (name : String) : Option Convention :=
  (List.find? (fun (_, names) => names.contains name) t).map (·.1)

end MemberTable

/-- The methods of all values. -/
def commonMembers : MemberTable := [
  (.operands 1 1 false, ["__delattr__", "__eq__", "__ge__", "__getattribute__", "__gt__", "__le__",
    "__lt__", "__ne__"]),
  (.operands 2 2 true, ["__setattr__"]),
  (.operands 0 0 false, ["__hash__", "__repr__", "__str__"]),
  (.nothing, ["__dir__", "__getstate__", "__reduce__", "__sizeof__", "__init_subclass__"]),
  (.one, ["__format__", "__reduce_ex__", "__subclasshook__"]),
  (.free, ["__init__", "__new__"])]

/-- The methods of all values that a class with an order or an equality of its own also brings along. -/
def comparing : MemberTable := [
  (.operands 1 1 false, ["__eq__", "__ge__", "__getattribute__", "__gt__", "__le__", "__lt__",
    "__ne__"]),
  (.operands 0 0 false, ["__repr__"])]

/-- The same for values that can be keys. -/
def hashing : MemberTable := [(.operands 0 0 false, ["__hash__"])]

/-- The method that lays a value out in a field. -/
def formatting : MemberTable := [(.one, ["__format__"])]

/-- The methods that texts and byte strings share. -/
def stringMembers : MemberTable := comparing ++ hashing ++ [
  (.operands 0 0 false, ["__str__"]),
  (.operands 1 1 false, ["__add__", "__contains__", "__getitem__", "__mod__", "__rmod__"]),
  (.operands 0 0 false, ["__iter__", "__len__"]),
  (.operands 1 1 true, ["__mul__", "__rmul__"]),
  (.one, ["join", "partition", "removeprefix", "removesuffix", "rpartition", "zfill"]),
  (.nothing, ["__getnewargs__", "capitalize", "isalnum", "isalpha", "isascii", "isdigit", "islower",
    "isspace", "istitle", "isupper", "lower", "swapcase", "title", "upper"]),
  (.positions 1 2, ["center", "ljust", "rjust"]),
  (.positions 0 1, ["lstrip", "rstrip", "strip"]),
  (.positions 2 3, ["replace"]),
  (.counted 1 3, ["count", "endswith", "find", "index", "rfind", "rindex", "startswith"]),
  (.named ["tabsize"] 0 0 1, ["expandtabs"]),
  (.named ["sep", "maxsplit"] 0 0 2, ["split", "rsplit"]),
  (.named ["keepends"] 0 0 1, ["splitlines"])]

/-- The operators of sets and of what can stand for one. -/
def setOperators : MemberTable := [
  (.operands 1 1 false, ["__and__", "__or__", "__rand__", "__ror__", "__rsub__", "__rxor__", "__sub__",
    "__xor__"])]

/-- The methods that the keys and the items of a dictionary share. -/
def viewMembers : MemberTable := comparing ++ setOperators ++ [
  (.operands 1 1 false, ["__contains__"]),
  (.operands 0 0 false, ["__iter__", "__len__"]),
  (.nothing, ["__reversed__"]),
  (.one, ["isdisjoint"])]

/-- The operators of numbers that have an order. -/
def realOperators : MemberTable := comparing ++ hashing ++ formatting ++ [
  (.operands 0 0 false, ["__abs__", "__bool__", "__float__", "__int__", "__neg__", "__pos__"]),
  (.operands 1 1 false, ["__add__", "__divmod__", "__floordiv__", "__mod__", "__mul__", "__radd__",
    "__rdivmod__", "__rfloordiv__", "__rmod__", "__rmul__", "__rsub__", "__rtruediv__", "__sub__",
    "__truediv__"]),
  (.operands 1 2 true, ["__pow__", "__rpow__"]),
  (.nothing, ["__ceil__", "__floor__", "__getnewargs__", "__trunc__", "as_integer_ratio",
    "conjugate"]),
  (.positions 0 1, ["__round__"])]

/-- The methods of safe texts that are not those of texts. -/
def safeMembers : MemberTable := [
  (.written [] 0, ["__html__", "__repr__", "unescape", "striptags", "capitalize", "title", "lower",
    "upper", "swapcase", "casefold"]),
  (.written [⟨"value", false⟩] 1, ["__add__", "__radd__", "__mul__", "__rmul__", "__mod__"]),
  (.written [⟨"iterable", false⟩] 1, ["join"]),
  (.written [⟨"sep", true⟩, ⟨"maxsplit", true⟩] 0, ["split", "rsplit"]),
  (.written [⟨"keepends", true⟩] 0, ["splitlines"]),
  (.written [⟨"s", false⟩] 1, ["escape"]),
  (.written [⟨"key", false⟩] 1, ["__getitem__"]),
  (.written [⟨"old", false⟩, ⟨"new", false⟩, ⟨"count", true⟩] 3, ["replace"]),
  (.written [⟨"width", false⟩, ⟨"fillchar", true⟩] 2, ["ljust", "rjust", "center"]),
  (.written [⟨"chars", true⟩] 1, ["lstrip", "rstrip", "strip"]),
  (.written [⟨"table", false⟩] 1, ["translate"]),
  (.written [⟨"tabsize", true⟩] 0, ["expandtabs"]),
  (.written [⟨"width", false⟩] 1, ["zfill"]),
  (.written [⟨"prefix", false⟩] 1, ["removeprefix"]),
  (.written [⟨"suffix", false⟩] 0, ["removesuffix"]),
  (.written [⟨"sep", false⟩] 1, ["partition", "rpartition"]),
  (.free, ["format"]),
  (.written [⟨"mapping", false⟩] 1, ["format_map"]),
  (.written [⟨"format_spec", false⟩] 1, ["__html_format__"])]

/-- The methods that a value which is not there answers, and those that it refuses. -/
def undefinedMembers : MemberTable := [
  (.written [] 0, ["__str__", "__len__", "__bool__", "__iter__", "__repr__", "__hash__",
    "__aiter__"]),
  (.written [⟨"other", false⟩] 0, ["__eq__", "__ne__"]),
  (.free, ["__neg__", "__pos__", "__int__", "__float__", "__complex__", "__call__", "__add__",
    "__radd__", "__sub__", "__rsub__", "__mul__", "__rmul__", "__div__", "__rdiv__", "__truediv__",
    "__rtruediv__", "__floordiv__", "__rfloordiv__", "__mod__", "__rmod__", "__pow__", "__rpow__",
    "__getitem__", "__lt__", "__le__", "__gt__", "__ge__"])]

/-- The methods that a strict value refuses beside those. -/
def strictMembers : MemberTable := [
  (.free, ["__iter__", "__str__", "__len__", "__eq__", "__ne__", "__bool__", "__hash__",
    "__contains__"])]

namespace Class

/-- The methods that a class has beside those of the class it extends. -/
def ownMembers : Class → MemberTable
  | object => commonMembers
  | nothing | notImplemented => [(.operands 0 0 false, ["__bool__", "__repr__"])]
  | bool => [
    (.operands 1 1 false, ["__and__", "__or__", "__rand__", "__ror__", "__rxor__", "__xor__"]),
    (.operands 0 0 false, ["__repr__"])]
  | int => realOperators ++ [
    (.operands 0 0 false, ["__index__", "__invert__"]),
    (.operands 1 1 false, ["__and__", "__lshift__", "__or__", "__rand__", "__rlshift__", "__ror__",
      "__rrshift__", "__rshift__", "__rxor__", "__xor__"]),
    (.nothing, ["bit_count", "bit_length"]),
    (.named ["bytes", "byteorder", "signed"] 0 1 2, ["from_bytes"]),
    (.named ["length", "byteorder", "signed"] 0 0 2, ["to_bytes"])]
  | float => realOperators ++ [
    (.nothing, ["hex", "is_integer"]),
    (.one, ["fromhex", "__getformat__"])]
  | complex => comparing ++ hashing ++ formatting ++ [
    (.operands 0 0 false, ["__abs__", "__bool__", "__neg__", "__pos__"]),
    (.operands 1 1 false, ["__add__", "__mul__", "__radd__", "__rmul__", "__rsub__", "__rtruediv__",
      "__sub__", "__truediv__"]),
    (.operands 1 2 true, ["__pow__", "__rpow__"]),
    (.nothing, ["__complex__", "__getnewargs__", "conjugate"])]
  | str => stringMembers ++ formatting ++ [
    (.one, ["format_map", "translate"]),
    (.nothing, ["casefold", "isdecimal", "isidentifier", "isnumeric", "isprintable"]),
    (.named ["encoding", "errors"] 0 0 2, ["encode"]),
    (.positions 1 3, ["maketrans"]),
    (.free, ["format"])]
  | safe => safeMembers
  | bytes => stringMembers ++ [
    (.nothing, ["__bytes__"]),
    (.one, ["fromhex"]),
    (.named ["encoding", "errors"] 0 0 2, ["decode"]),
    (.named ["sep", "bytes_per_sep"] 0 0 2, ["hex"]),
    (.positions 2 2, ["maketrans"]),
    (.named ["delete"] 1 1 2, ["translate"])]
  | range => comparing ++ hashing ++ [
    (.operands 0 0 false, ["__bool__", "__iter__", "__len__"]),
    (.operands 1 1 false, ["__contains__", "__getitem__"]),
    (.nothing, ["__reversed__"]),
    (.one, ["count", "index"])]
  | list => comparing ++ [
    (.operands 1 1 false, ["__add__", "__contains__", "__delitem__", "__iadd__"]),
    (.operands 1 1 true, ["__imul__", "__mul__", "__rmul__"]),
    (.operands 2 2 true, ["__setitem__"]),
    (.operands 0 0 false, ["__iter__", "__len__"]),
    (.one, ["__class_getitem__", "__getitem__", "append", "count", "extend", "remove"]),
    (.nothing, ["__reversed__", "clear", "copy", "reverse"]),
    (.positions 1 3, ["index"]),
    (.positions 2 2, ["insert"]),
    (.positions 0 1, ["pop"]),
    (.named ["key", "reverse"] 0 0 0, ["sort"])]
  | tuple => comparing ++ hashing ++ [
    (.operands 1 1 false, ["__add__", "__contains__", "__getitem__"]),
    (.operands 1 1 true, ["__mul__", "__rmul__"]),
    (.operands 0 0 false, ["__iter__", "__len__"]),
    (.one, ["__class_getitem__", "count"]),
    (.nothing, ["__getnewargs__"]),
    (.positions 1 3, ["index"])]
  | dict => comparing ++ [
    (.one, ["__class_getitem__", "__contains__", "__getitem__"]),
    (.operands 1 1 false, ["__delitem__", "__ior__", "__or__", "__ror__"]),
    (.operands 2 2 true, ["__setitem__"]),
    (.operands 0 0 false, ["__iter__", "__len__"]),
    (.nothing, ["__reversed__", "clear", "copy", "items", "keys", "popitem", "values"]),
    (.positions 1 2, ["fromkeys", "get", "pop", "setdefault"]),
    (.free, ["update"])]
  | set => comparing ++ setOperators ++ [
    (.operands 1 1 false, ["__iand__", "__ior__", "__isub__", "__ixor__"]),
    (.operands 0 0 false, ["__iter__", "__len__"]),
    (.one, ["__class_getitem__", "__contains__", "add", "discard", "isdisjoint", "issubset",
      "issuperset", "remove", "symmetric_difference", "symmetric_difference_update"]),
    (.nothing, ["clear", "copy", "pop"]),
    (.several, ["difference", "difference_update", "intersection", "intersection_update", "union",
      "update"])]
  | view .values => [
    (.operands 1 1 false, ["__getattribute__"]),
    (.operands 0 0 false, ["__iter__", "__len__", "__repr__"]),
    (.nothing, ["__reversed__"])]
  | view _ => viewMembers
  | cycler => [(.written [] 0, ["next", "reset", "__next__"])]
  | joiner => [(.written [] 0, ["__call__"])]
  | loopBase => [
    (.free, ["cycle", "changed"]),
    (.written [] 0, ["__len__", "__iter__", "__next__", "__repr__"]),
    (.written [⟨"iterable", false⟩] 0, ["__call__"])]
  | loop => [(.written [] 0, ["__aiter__", "__anext__"])]
  | undefined => undefinedMembers
  | strictUndefined => strictMembers
  | blocks => [(.written [⟨"name", false⟩] 0, ["__getitem__"]), (.written [] 0, ["__repr__"])]
  | block => [(.written [] 0, ["__call__"])]
  | procedure => [(.free, ["__call__"]), (.written [] 0, ["__repr__"])]
  | iterator _ => [(.operands 0 0 false, ["__iter__", "__next__"])]
  | method | builtin | wrapper => comparing ++ hashing ++ [(.free, ["__call__"])]
  | function | type | generic | descriptor _ => [(.free, ["__call__"])]
  | _ => []

/-- The parts of the values of a class that are not methods. -/
def fields : Class → List String
  | int => ["real", "imag", "numerator", "denominator"]
  | float | complex => ["real", "imag"]
  | range => ["start", "stop", "step"]
  | view _ => ["mapping"]
  | _ => []

/-- Whether the values of a class cannot be keys, which the class says by a part that is none. -/
def isUnhashable : Class → Bool
  | list | dict | set | view .keys | view .items => true
  | _ => false

/-- Whether a class can be given the classes of its items. -/
def takesItems : Class → Bool
  | dict | list | tuple | set | type => true
  | _ => false

/-- Whether the methods of a class are written functions. -/
def isWritten (c : Class) : Bool :=
  c.home ≠ "builtins"

/-- The nearest class that brings a method along, with the convention of the method. -/
def member? (c : Class) (name : String) : Option (Class × Convention) :=
  c.lineage.findSome? fun d => (d.ownMembers.find? name).map fun v => (d, v)

def convention? (c : Class) (name : String) : Option Convention :=
  (c.member? name).map (·.2)

/-- The class after which messages name a method of a value: a built-in function bears the name of the
value's own class, others that of the class which brings them along, and so does the one built-in
function that knows nothing of the value. -/
def naming (c : Class) (name : String) : Class :=
  match c.member? name with
  | some (owner, convention) =>
    if owner.isWritten || name = "maketrans" then owner
    else match convention with
      | .operands .. => owner
      | _ => c
  | none => c

/-- How a class holds the part of a name. -/
def descriptorOf (c : Class) (name : String) : Descriptor :=
  if c.fields.contains name then
    match c with
    | complex | range => .member
    | _ => .property
  else match c.convention? name with
    | some (.operands ..) => .operator
    | _ => .method

end Class

end Template

end Stencil
