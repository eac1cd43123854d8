import SaslBind.Text.Quoted

/-!
# Types of what goes into places

What goes into a place has a type, and a type can go into a place too: by its name, its module, its
description and the types that it is made from.

* `Kind.name`, `Kind.title` : the name of a type, and the one that faults say;
* `Kind.ancestors` : the types that it is made from, the nearest first;
* `Kind.description`, `Kind.signature` : what is said about it;
* `Kind.room`, `Kind.offsets` : what its things take.
-/

namespace SaslBind

namespace Log

namespace Template

/-- A type. -/
inductive Kind where
  /-- The time of a log file. -/
  | fileTime
  /-- A moment that has layouts by letters. -/
  | logTime
  | moment
  | date
  | zone
  | anyZone
  | span
  | whole
  | text
  | nothing
  | tuple
  | table
  /-- The table of what a type holds. -/
  | typeTable
  /-- A method that belongs to what writes the log. -/
  | function
  /-- Such a method, with the thing that it is done with. -/
  | boundFunction
  /-- A method, with the thing or the type that it is done with. -/
  | operation
  | operator
  /-- An operator, with the thing before it. -/
  | boundOperator
  /-- A method that is done with things, and one that is done with a type. -/
  | instanceMethod
  | typeMethod
  /-- Two sorts of parts that the things of a type have. -/
  | field
  | member
  /-- What a method is made from. -/
  | code
  | type
  | object
deriving DecidableEq, Repr

namespace Kind

def name : Kind → String
  | .fileTime => "FileDateFormatter"
  | .logTime | .moment => "datetime"
  | .date => "date"
  | .zone => "timezone"
  | .anyZone => "tzinfo"
  | .span => "timedelta"
  | .whole => "int"
  | .text => "str"
  | .nothing => "NoneType"
  | .tuple => "tuple"
  | .table => "dict"
  | .typeTable => "mappingproxy"
  | .function => "function"
  | .boundFunction => "method"
  | .operation => "builtin_function_or_method"
  | .operator => "wrapper_descriptor"
  | .boundOperator => "method-wrapper"
  | .instanceMethod => "method_descriptor"
  | .typeMethod => "classmethod_descriptor"
  | .field => "getset_descriptor"
  | .member => "member_descriptor"
  | .code => "code"
  | .type => "type"
  | .object => "object"

/-- The module of a type; those that are always there have none. -/
def home? : Kind → Option String
  | .fileTime => some "loguru._file_sink"
  | .logTime => some "loguru._datetime"
  | .moment | .date | .zone | .anyZone | .span => some "datetime"
  | _ => none

/-- Whether a type belongs to what writes the log. -/
def isOfLog (k : Kind) : Bool := k = .fileTime || k = .logTime

/-- The name of the module of a type. -/
def homeName (k : Kind) : String := k.home?.getD "builtins"

def fullName (k : Kind) : String :=
  match k.home? with
  | some home => home ++ "." ++ k.name
  | none => k.name

def title (k : Kind) : String := if k.isOfLog then k.name else k.fullName

/-- A type as it is written. -/
def shown (k : Kind) : Text := "<class '".toText ++ k.fullName.toText ++ "'>".toText

/-- The types that a type is made from, the nearest first. -/
def ancestors : Kind → List Kind
  | .object => []
  | .logTime => [.moment, .date, .object]
  | .moment => [.date, .object]
  | .zone => [.anyZone, .object]
  | _ => [.object]

/-- What is said about a type. -/
def description : Kind → Option String
  | .moment =>
    some ("datetime(year, month, day[, hour[, minute[, second[, microsecond[,tzinfo]]]]])\n\n" ++
      "The year, month and day arguments are required. tzinfo may be None, or an\n" ++
      "instance of a tzinfo subclass. The remaining arguments may be ints.\n")
  | .date => some "date(year, month, day) --> date object"
  | .zone => some "Fixed offset from UTC implementation of tzinfo."
  | .anyZone => some "Abstract base class for time zone info objects."
  | .span =>
    some ("Difference between two datetime values.\n\n" ++
      "timedelta(days=0, seconds=0, microseconds=0, milliseconds=0, minutes=0, hours=0, weeks=0)\n\n" ++
      "All arguments are optional and default to 0.\n" ++
      "Arguments may be integers or floats, and may be positive or negative.")
  | .whole =>
    some ("int([x]) -> integer\nint(x, base=10) -> integer\n\n" ++
      "Convert a number or string to an integer, or return 0 if no arguments\n" ++
      "are given.  If x is a number, return x.__int__().  For floating point\n" ++
      "numbers, this truncates towards zero.\n\n" ++
      "If x is not a number or if base is given, then x must be a string,\n" ++
      "bytes, or bytearray instance representing an integer literal in the\n" ++
      "given base.  The literal can be preceded by '+' or '-' and be surrounded\n" ++
      "by whitespace.  The base defaults to 10.  Valid bases are 0 and 2-36.\n" ++
      "Base 0 means to interpret the base from the string as an integer literal.\n" ++
      ">>> int('0b100', base=0)\n4")
  | .text =>
    some ("str(object='') -> str\nstr(bytes_or_buffer[, encoding[, errors]]) -> str\n\n" ++
      "Create a new string object from the given object. If encoding or\n" ++
      "errors is specified, then the object must expose a data buffer\n" ++
      "that will be decoded using the given encoding and error handler.\n" ++
      "Otherwise, returns the result of object.__str__() (if defined)\n" ++
      "or repr(object).\n" ++
      "encoding defaults to sys.getdefaultencoding().\n" ++
      "errors defaults to 'strict'.")
  | .tuple =>
    some ("Built-in immutable sequence.\n\n" ++
      "If no argument is given, the constructor returns an empty tuple.\n" ++
      "If iterable is specified the tuple is initialized from iterable's items.\n\n" ++
      "If the argument is a tuple, the return value is the same object.")
  | .table =>
    some ("dict() -> new empty dictionary\n" ++
      "dict(mapping) -> new dictionary initialized from a mapping object's\n" ++
      "    (key, value) pairs\n" ++
      "dict(iterable) -> new dictionary initialized as if via:\n" ++
      "    d = \x7b\x7d\n" ++
      "    for k, v in iterable:\n" ++
      "        d[k] = v\n" ++
      "dict(**kwargs) -> new dictionary initialized with the name=value pairs\n" ++
      "    in the keyword argument list.  For example:  dict(one=1, two=2)")
  | .function =>
    some ("Create a function object.\n\n  code\n    a code object\n  globals\n    the globals dictionary\n" ++
      "  name\n    a string that overrides the name from the code object\n" ++
      "  argdefs\n    a tuple that specifies the default argument values\n" ++
      "  closure\n    a tuple that supplies the bindings for free variables")
  | .boundFunction => some "Create a bound instance method object."
  | .code => some "Create a code object.  Not for the faint of heart."
  | .type => some "type(object) -> the object's type\ntype(name, bases, dict, **kwds) -> a new type"
  | .object =>
    some ("The base class of the class hierarchy.\n\n" ++
      "When called, it accepts no arguments and returns a new featureless\n" ++
      "instance that has no instance attributes and cannot be given any.\n")
  | _ => none

/-- The parameters of a type, if they are said. -/
def signature : Kind → Option String
  | .tuple => some "(iterable=(), /)"
  | .function => some "(code, globals, name=None, argdefs=None, closure=None)"
  | .boundFunction => some "(function, instance, /)"
  | .code =>
    some ("(argcount, posonlyargcount, kwonlyargcount, nlocals, stacksize,\n" ++
      "     flags, codestring, constants, names, varnames, filename, name,\n" ++
      "     qualname, firstlineno, linetable, exceptiontable, freevars=(),\n" ++
      "     cellvars=(), /)")
  | .object => some "()"
  | _ => none

/-- The room that a thing of a type takes, and that each of its items takes. -/
def room : Kind → Int × Int
  | .fileTime | .typeTable => (24, 0)
  | .logTime | .operation | .operator | .instanceMethod | .typeMethod => (56, 0)
  | .moment | .table | .boundFunction | .field | .member => (48, 0)
  | .date | .zone | .boundOperator => (32, 0)
  | .span => (40, 0)
  | .whole => (24, 4)
  | .text => (80, 0)
  | .tuple => (24, 8)
  | .function => (136, 0)
  | .code => (184, 2)
  | .type => (904, 40)
  | .anyZone | .nothing | .object => (16, 0)

/-- Where in a thing of a type its references are, and its table; 0 if there are none. -/
def offsets : Kind → Int × Int
  | .fileTime => (16, -48)
  | .logTime => (48, -80)
  | .function => (96, 88)
  | .boundFunction => (32, 0)
  | .operation => (40, 0)
  | .code => (144, 0)
  | .type => (368, 264)
  | _ => (0, 0)

end Kind

end Template

end Log

end SaslBind
