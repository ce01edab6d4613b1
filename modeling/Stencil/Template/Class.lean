import Stencil.Text.Basic

/-!
# Classes of values

Every value has a class, which messages name and which is itself a value.

## Main definitions

- `View` — the parts of a dictionary that can be looked at
- `Descriptor` — the kinds of parts that a class gives its values
- `Class` — the classes, with `Class.home` and `Class.name`
- `Class.parent?` and `Class.lineage` — the class that a class extends, and all classes above it
-/

namespace Stencil

namespace Template

/-- The parts of a dictionary that can be looked at without copying them. -/
inductive View where
  | keys | values | items
  deriving DecidableEq, Repr, Inhabited

/-- The ways in which a class holds a part of its values, as seen without a value. -/
inductive Descriptor where
  | method
  /-- A method that stands for an operator. -/
  | operator
  | member
  | property
  deriving DecidableEq, Repr, Inhabited

namespace Descriptor

/-- How messages introduce a part, and the class of such parts. -/
def titles : Descriptor → Text × Text
  | method => ("method", "method_descriptor")
  | operator => ("slot wrapper", "wrapper_descriptor")
  | member => ("member", "member_descriptor")
  | property => ("attribute", "getset_descriptor")

end Descriptor

namespace View

def name : View → Text
  | keys => "keys"
  | values => "values"
  | items => "items"

end View

/-- The classes of values. -/
inductive Class where
  | object
  | nothing
  | bool
  | int
  | float
  | complex
  | str
  | safe
  | bytes
  | range
  | list
  | tuple
  /-- A key and the items that share it. -/
  | group
  | dict
  | set
  | view (part : View)
  | type
  /-- A class with the classes of its items. -/
  | generic
  /-- A part of a class. -/
  | descriptor (d : Descriptor)
  | function
  /-- A method that is not built in. -/
  | method
  | builtin
  /-- A method that stands for an operator. -/
  | wrapper
  | notImplemented
  | missing
  | undefined
  | strictUndefined
  /-- An undefined value that also refuses to be waited for. -/
  | refusing
  | namespace
  | cycler
  | joiner
  | loopBase
  | loop
  | procedure
  | context
  | blocks
  | block
  /-- An argument of a safe format text. -/
  | escapeHelper
  | iterator (name : Text)
  deriving DecidableEq, Repr, Inhabited

namespace Class

/-- The module and the name of a class. -/
def title : Class → Text × Text
  | object => ("builtins", "object")
  | nothing => ("builtins", "NoneType")
  | bool => ("builtins", "bool")
  | int => ("builtins", "int")
  | float => ("builtins", "float")
  | complex => ("builtins", "complex")
  | str => ("builtins", "str")
  | safe => ("markupsafe", "Markup")
  | bytes => ("builtins", "bytes")
  | range => ("builtins", "range")
  | list => ("builtins", "list")
  | tuple => ("builtins", "tuple")
  | group => ("jinja2.filters", "_GroupTuple")
  | dict => ("builtins", "dict")
  | set => ("builtins", "set")
  | view part => ("builtins", "dict_" ++ part.name)
  | type => ("builtins", "type")
  | generic => ("builtins", "types.GenericAlias")
  | descriptor d => ("builtins", d.titles.2)
  | function => ("builtins", "function")
  | method => ("builtins", "method")
  | builtin => ("builtins", "builtin_function_or_method")
  | wrapper => ("builtins", "method-wrapper")
  | notImplemented => ("builtins", "NotImplementedType")
  | missing => ("jinja2.utils", "MissingType")
  | undefined => ("jinja2.runtime", "Undefined")
  | strictUndefined => ("jinja2.runtime", "StrictUndefined")
  | refusing => ("templar.templating.compiler", "AsyncStrictUndefined")
  | «namespace» => ("jinja2.utils", "Namespace")
  | cycler => ("jinja2.utils", "Cycler")
  | joiner => ("jinja2.utils", "Joiner")
  | loopBase => ("jinja2.runtime", "LoopContext")
  | loop => ("jinja2.runtime", "AsyncLoopContext")
  | procedure => ("jinja2.runtime", "Macro")
  | context => ("jinja2.runtime", "Context")
  | blocks => ("jinja2.runtime", "TemplateReference")
  | block => ("jinja2.runtime", "BlockReference")
  | escapeHelper => ("markupsafe", "_MarkupEscapeHelper")
  | iterator name => ("builtins", name)

/-- The module a class belongs to. -/
def home (c : Class) : Text :=
  c.title.1

def name (c : Class) : Text :=
  c.title.2

/-- The name with the module in front, unless the class is built in. -/
def fullName (c : Class) : Text :=
  if c.home = "builtins" then c.name else c.home ++ "." ++ c.name

/-- The class that a class extends. -/
def parent? : Class → Option Class
  | object => none
  | bool => some int
  | safe => some str
  | group => some tuple
  | strictUndefined => some undefined
  | refusing => some strictUndefined
  | loop => some loopBase
  | _ => some object

/-- A class with all classes above it. -/
def lineage : Class → List Class
  | object => [object]
  | bool => [bool, int, object]
  | safe => [safe, str, object]
  | group => [group, tuple, object]
  | strictUndefined => [strictUndefined, undefined, object]
  | refusing => [refusing, strictUndefined, undefined, object]
  | loop => [loop, loopBase, object]
  | c => [c, object]

/-- Whether the values of a class also belong to another one. -/
def isA (c other : Class) : Bool :=
  c.lineage.contains other

end Class

end Template

end Stencil
