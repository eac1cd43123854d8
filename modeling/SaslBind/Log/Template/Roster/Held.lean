import SaslBind.Log.Template.Roster.Operators
import SaslBind.Log.Template.Roster.Texts
import SaslBind.Log.Template.Roster.Times
import SaslBind.Log.Template.Roster.Types
import SaslBind.Log.Template.Roster.Values

/-!
# Parts that types hold

Besides operators and methods a type holds fields and members, which its things have, and a way to make things.

* `Kind.holding?` : how a type itself holds something under a name;
* `signatureOf`, `descriptionOf` : what is said about what is held.
-/

namespace SaslBind

namespace Log

namespace Template

/-- How something is held. -/
inductive Holding where
  | operator
  | method (way : Way)
  /-- What makes things of the type. -/
  | maker
  | field
  | member
deriving DecidableEq, Repr

/-- The name of what makes things. -/
def makerName : String := "__new__"

namespace Kind

/-- The methods that a type has of its own. -/
def methods (k : Kind) : List Method := timeMethods k ++ textMethods k ++ valueMethods k ++ typeMethods k

/-- The fields that the things of a type have. -/
def fields : Kind → List String
  | .fileTime | .logTime => ["__dict__", "__weakref__"]
  | .moment => ["hour", "minute", "second", "microsecond", "tzinfo", "fold"]
  | .date => ["year", "month", "day"]
  | .whole => ["real", "imag", "numerator", "denominator"]
  | .function =>
    ["__code__", "__defaults__", "__kwdefaults__", "__annotations__", "__dict__", "__name__", "__qualname__"]
  | .boundFunction => ["__doc__"]
  | .operation => ["__doc__", "__name__", "__qualname__", "__self__", "__text_signature__"]
  | .operator | .instanceMethod | .typeMethod => ["__doc__", "__qualname__", "__text_signature__"]
  | .boundOperator => ["__objclass__", "__name__", "__qualname__", "__doc__", "__text_signature__"]
  | .field | .member => ["__doc__", "__qualname__"]
  | .code => ["co_varnames", "co_cellvars", "co_freevars"]
  | .type =>
    ["__name__", "__qualname__", "__bases__", "__module__", "__abstractmethods__", "__dict__", "__doc__",
      "__text_signature__", "__annotations__"]
  | .object => ["__class__"]
  | _ => []

/-- The members that the things of a type have. -/
def members : Kind → List String
  | .span => ["days", "seconds", "microseconds"]
  | .function => ["__closure__", "__doc__", "__module__"]
  | .boundFunction => ["__func__", "__self__"]
  | .operation => ["__module__"]
  | .operator | .instanceMethod | .typeMethod | .field | .member => ["__objclass__", "__name__"]
  | .boundOperator => ["__self__"]
  | .code => ["co_argcount", "co_posonlyargcount", "co_kwonlyargcount", "co_nlocals", "co_name", "co_qualname"]
  | .type => ["__basicsize__", "__itemsize__", "__weakrefoffset__", "__base__", "__dictoffset__", "__mro__"]
  | _ => []

/-- Whether a type has a way of its own to make things. -/
def isMade : Kind → Bool
  | .moment | .date | .zone | .anyZone | .span | .whole | .text | .nothing | .tuple | .table | .typeTable
  | .function | .boundFunction | .code | .type | .object => true
  | _ => false

/-- How a type itself holds something under a name. -/
def holding? (k : Kind) (name : String) : Option Holding :=
  if k.operatorNames.contains name then some .operator
  else if k.fields.contains name then some .field
  else if k.members.contains name then some .member
  else if name = makerName && k.isMade then some .maker
  else (k.methods.find? (·.name = name)).map fun m => .method m.way

end Kind

/-- What is said about a field or a member. -/
def fieldDescription? (owner : Kind) (name : String) : Option String :=
  match owner, name with
  | .fileTime, "__dict__" | .logTime, "__dict__" => some "dictionary for instance variables"
  | .fileTime, "__weakref__" | .logTime, "__weakref__" => some "list of weak references to the object"
  | .span, "days" => some "Number of days."
  | .span, "seconds" => some "Number of seconds (>= 0 and less than 1 day)."
  | .span, "microseconds" => some "Number of microseconds (>= 0 and less than 1 second)."
  | .whole, "real" => some "the real part of a complex number"
  | .whole, "imag" => some "the imaginary part of a complex number"
  | .whole, "numerator" => some "the numerator of a rational number in lowest terms"
  | .whole, "denominator" => some "the denominator of a rational number in lowest terms"
  | .boundFunction, "__func__" => some "the function (or other callable) implementing a method"
  | .boundFunction, "__self__" => some "the instance to which a method is bound"
  | .object, "__class__" => some "the object's class"
  | _, _ => none

/-- The operator with this name. -/
def operator? (name : String) : Option Operator := operators.find? (·.name = name)

/-- The method of a type with this name. -/
def Kind.method? (k : Kind) (name : String) : Option Method := k.methods.find? (·.name = name)

/-- The parameters of what a type holds, if they are said. -/
def signatureOf (owner : Kind) (name : String) : Option String :=
  match owner.holding? name with
  | some .operator => (operator? name).map (·.signature)
  | some .maker => some "($type, *args, **kwargs)"
  | some (.method _) => (owner.method? name).bind (·.signature)
  | _ => none

/-- What is said about what a type holds. -/
def descriptionOf (owner : Kind) (name : String) : Option String :=
  match owner.holding? name with
  | some .operator => (operator? name).map (·.description)
  | some .maker => some "Create and return a new object.  See help(type) for accurate signature."
  | some (.method _) => (owner.method? name).bind (·.description)
  | some .field | some .member => fieldDescription? owner name
  | none => none

end Template

end Log

end SaslBind
