import SaslBind.Log.Template.Kind

/-!
# What types hold

A type holds operators and methods, by their names.

* `Operator` : written between or before things; all types that have one say the same about it;
* `Method` : something that can be done, in one of several ways;
* `typeMethods` : what can be done with types and with what they hold.
-/

namespace SaslBind

namespace Log

namespace Template

/-- An operator: its name, its parameters, and what is said about it. -/
structure Operator where
  name : String
  signature : String
  description : String
deriving DecidableEq, Repr

/-- How a method is held. -/
inductive Way where
  /-- It is done with a thing. -/
  | onThing
  /-- It is done with a type. -/
  | onType
  /-- It is done with nothing but its arguments. -/
  | alone
  /-- It is done with a thing, and belongs to what writes the log. -/
  | written
deriving DecidableEq, Repr

/-- A method: its name, its way, its parameters if they are said, and what is said about it. -/
structure Method where
  name : String
  way : Way
  signature : Option String
  description : Option String
deriving DecidableEq, Repr

/-- The methods that types, and what they hold, have of their own. -/
def typeMethods : Kind → List Method
  | .code =>
    [⟨"__sizeof__", .onThing, none, none⟩,
      ⟨"co_lines", .onThing, none, none⟩,
      ⟨"co_positions", .onThing, none, none⟩,
      ⟨"replace", .onThing, some "($self, /, **changes)",
        some "Return a copy of the code object with new values for the specified fields."⟩,
      ⟨"_varname_from_oparg", .onThing, some "($self, /, oparg)",
        some ("(internal-only) Return the local variable name for the given oparg.\n\nWARNING: this " ++
              "method is for internal use only and may change or go away.")⟩]
  | .type =>
    [⟨"mro", .onThing, some "($self, /)", some "Return a type's method resolution order."⟩,
      ⟨"__subclasses__", .onThing, some "($self, /)", some "Return a list of immediate subclasses."⟩,
      ⟨"__prepare__", .onType, none,
        some "__prepare__() -> dict\nused to create the namespace for the class statement"⟩,
      ⟨"__instancecheck__", .onThing, some "($self, instance, /)", some "Check if an object is an instance."⟩,
      ⟨"__subclasscheck__", .onThing, some "($self, subclass, /)", some "Check if a class is a subclass."⟩,
      ⟨"__dir__", .onThing, some "($self, /)", some "Specialized __dir__ implementation for types."⟩,
      ⟨"__sizeof__", .onThing, some "($self, /)", some "Return memory consumption of the type object."⟩]
  | .object =>
    [⟨"__reduce_ex__", .onThing, some "($self, protocol, /)", some "Helper for pickle."⟩,
      ⟨"__reduce__", .onThing, some "($self, /)", some "Helper for pickle."⟩,
      ⟨"__getstate__", .onThing, some "($self, /)", some "Helper for pickle."⟩,
      ⟨"__subclasshook__", .onType, none,
        some ("Abstract classes can override this to customize issubclass().\n\nThis is invoked early on " ++
              "by abc.ABCMeta.__subclasscheck__().\nIt should return True, False or NotImplemented.  If " ++
              "it returns\nNotImplemented, the normal algorithm is used.  Otherwise, it\noverrides the " ++
              "normal algorithm (and the outcome is cached).\n")⟩,
      ⟨"__init_subclass__", .onType, none,
        some ("This method is called when a class is subclassed.\n\nThe default implementation does " ++
              "nothing. It may be\noverridden to extend subclasses.\n")⟩,
      ⟨"__format__", .onThing, some "($self, format_spec, /)", some "Default object formatter."⟩,
      ⟨"__sizeof__", .onThing, some "($self, /)", some "Size of object in memory, in bytes."⟩,
      ⟨"__dir__", .onThing, some "($self, /)", some "Default dir() implementation."⟩]
  | .boundFunction => [⟨"__reduce__", .onThing, some "($self, /)", none⟩]
  | .operation | .operator | .boundOperator | .instanceMethod | .member => [⟨"__reduce__", .onThing, none, none⟩]
  | _ => []

end Template

end Log

end SaslBind
