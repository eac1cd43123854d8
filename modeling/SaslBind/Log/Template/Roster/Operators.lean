import SaslBind.Log.Template.Roster.Types

/-!
# Operators

What operators there are, and which of them the things of a type have of their own.
-/

namespace SaslBind

namespace Log

namespace Template

/-- The operators: name, parameters, and what is said about each. -/
def operators : List Operator :=
  [⟨"__abs__", "($self, /)", "abs(self)"⟩,
    ⟨"__add__", "($self, value, /)", "Return self+value."⟩,
    ⟨"__and__", "($self, value, /)", "Return self&value."⟩,
    ⟨"__bool__", "($self, /)", "True if self else False"⟩,
    ⟨"__call__", "($self, /, *args, **kwargs)", "Call self as a function."⟩,
    ⟨"__contains__", "($self, key, /)", "Return key in self."⟩,
    ⟨"__delattr__", "($self, name, /)", "Implement delattr(self, name)."⟩,
    ⟨"__delete__", "($self, instance, /)", "Delete an attribute of instance."⟩,
    ⟨"__delitem__", "($self, key, /)", "Delete self[key]."⟩,
    ⟨"__divmod__", "($self, value, /)", "Return divmod(self, value)."⟩,
    ⟨"__eq__", "($self, value, /)", "Return self==value."⟩,
    ⟨"__float__", "($self, /)", "float(self)"⟩,
    ⟨"__floordiv__", "($self, value, /)", "Return self//value."⟩,
    ⟨"__ge__", "($self, value, /)", "Return self>=value."⟩,
    ⟨"__get__", "($self, instance, owner=None, /)", "Return an attribute of instance, which is of type owner."⟩,
    ⟨"__getattribute__", "($self, name, /)", "Return getattr(self, name)."⟩,
    ⟨"__getitem__", "($self, key, /)", "Return self[key]."⟩,
    ⟨"__gt__", "($self, value, /)", "Return self>value."⟩,
    ⟨"__hash__", "($self, /)", "Return hash(self)."⟩,
    ⟨"__index__", "($self, /)", "Return self converted to an integer, if self is suitable for use as an index into a list."⟩,
    ⟨"__init__", "($self, /, *args, **kwargs)", "Initialize self.  See help(type(self)) for accurate signature."⟩,
    ⟨"__int__", "($self, /)", "int(self)"⟩,
    ⟨"__invert__", "($self, /)", "~self"⟩,
    ⟨"__ior__", "($self, value, /)", "Return self|=value."⟩,
    ⟨"__iter__", "($self, /)", "Implement iter(self)."⟩,
    ⟨"__le__", "($self, value, /)", "Return self<=value."⟩,
    ⟨"__len__", "($self, /)", "Return len(self)."⟩,
    ⟨"__lshift__", "($self, value, /)", "Return self<<value."⟩,
    ⟨"__lt__", "($self, value, /)", "Return self<value."⟩,
    ⟨"__mod__", "($self, value, /)", "Return self%value."⟩,
    ⟨"__mul__", "($self, value, /)", "Return self*value."⟩,
    ⟨"__ne__", "($self, value, /)", "Return self!=value."⟩,
    ⟨"__neg__", "($self, /)", "-self"⟩,
    ⟨"__or__", "($self, value, /)", "Return self|value."⟩,
    ⟨"__pos__", "($self, /)", "+self"⟩,
    ⟨"__pow__", "($self, value, mod=None, /)", "Return pow(self, value, mod)."⟩,
    ⟨"__radd__", "($self, value, /)", "Return value+self."⟩,
    ⟨"__rand__", "($self, value, /)", "Return value&self."⟩,
    ⟨"__rdivmod__", "($self, value, /)", "Return divmod(value, self)."⟩,
    ⟨"__repr__", "($self, /)", "Return repr(self)."⟩,
    ⟨"__rfloordiv__", "($self, value, /)", "Return value//self."⟩,
    ⟨"__rlshift__", "($self, value, /)", "Return value<<self."⟩,
    ⟨"__rmod__", "($self, value, /)", "Return value%self."⟩,
    ⟨"__rmul__", "($self, value, /)", "Return value*self."⟩,
    ⟨"__ror__", "($self, value, /)", "Return value|self."⟩,
    ⟨"__rpow__", "($self, value, mod=None, /)", "Return pow(value, self, mod)."⟩,
    ⟨"__rrshift__", "($self, value, /)", "Return value>>self."⟩,
    ⟨"__rshift__", "($self, value, /)", "Return self>>value."⟩,
    ⟨"__rsub__", "($self, value, /)", "Return value-self."⟩,
    ⟨"__rtruediv__", "($self, value, /)", "Return value/self."⟩,
    ⟨"__rxor__", "($self, value, /)", "Return value^self."⟩,
    ⟨"__set__", "($self, instance, value, /)", "Set an attribute of instance to value."⟩,
    ⟨"__setattr__", "($self, name, value, /)", "Implement setattr(self, name, value)."⟩,
    ⟨"__setitem__", "($self, key, value, /)", "Set self[key] to value."⟩,
    ⟨"__str__", "($self, /)", "Return str(self)."⟩,
    ⟨"__sub__", "($self, value, /)", "Return self-value."⟩,
    ⟨"__truediv__", "($self, value, /)", "Return self/value."⟩,
    ⟨"__xor__", "($self, value, /)", "Return self^value."⟩]

/-- The names of the operators that the things of a type have of their own. -/
def Kind.operatorNames : Kind → List String
  | .moment =>
    ["__add__", "__eq__", "__ge__", "__getattribute__", "__gt__", "__hash__", "__le__", "__lt__", "__ne__",
     "__radd__", "__repr__", "__rsub__", "__str__", "__sub__"]
  | .date =>
    ["__add__", "__eq__", "__ge__", "__getattribute__", "__gt__", "__hash__", "__le__", "__lt__", "__ne__",
     "__radd__", "__repr__", "__rsub__", "__str__", "__sub__"]
  | .zone => ["__eq__", "__ge__", "__gt__", "__hash__", "__le__", "__lt__", "__ne__", "__repr__", "__str__"]
  | .anyZone => ["__getattribute__"]
  | .span =>
    ["__abs__", "__add__", "__bool__", "__divmod__", "__eq__", "__floordiv__", "__ge__", "__getattribute__",
     "__gt__", "__hash__", "__le__", "__lt__", "__mod__", "__mul__", "__ne__", "__neg__", "__pos__", "__radd__",
     "__rdivmod__", "__repr__", "__rfloordiv__", "__rmod__", "__rmul__", "__rsub__", "__rtruediv__", "__str__",
     "__sub__", "__truediv__"]
  | .whole =>
    ["__abs__", "__add__", "__and__", "__bool__", "__divmod__", "__eq__", "__float__", "__floordiv__", "__ge__",
     "__getattribute__", "__gt__", "__hash__", "__index__", "__int__", "__invert__", "__le__", "__lshift__",
     "__lt__", "__mod__", "__mul__", "__ne__", "__neg__", "__or__", "__pos__", "__pow__", "__radd__",
     "__rand__", "__rdivmod__", "__repr__", "__rfloordiv__", "__rlshift__", "__rmod__", "__rmul__", "__ror__",
     "__rpow__", "__rrshift__", "__rshift__", "__rsub__", "__rtruediv__", "__rxor__", "__sub__", "__truediv__",
     "__xor__"]
  | .text =>
    ["__add__", "__contains__", "__eq__", "__ge__", "__getattribute__", "__getitem__", "__gt__", "__hash__",
     "__iter__", "__le__", "__len__", "__lt__", "__mod__", "__mul__", "__ne__", "__repr__", "__rmod__",
     "__rmul__", "__str__"]
  | .nothing => ["__bool__", "__repr__"]
  | .tuple =>
    ["__add__", "__contains__", "__eq__", "__ge__", "__getattribute__", "__getitem__", "__gt__", "__hash__",
     "__iter__", "__le__", "__len__", "__lt__", "__mul__", "__ne__", "__repr__", "__rmul__"]
  | .table =>
    ["__delitem__", "__eq__", "__ge__", "__getattribute__", "__gt__", "__init__", "__ior__", "__iter__",
     "__le__", "__len__", "__lt__", "__ne__", "__or__", "__repr__", "__ror__", "__setitem__"]
  | .typeTable =>
    ["__contains__", "__eq__", "__ge__", "__getattribute__", "__getitem__", "__gt__", "__ior__", "__iter__",
     "__le__", "__len__", "__lt__", "__ne__", "__or__", "__repr__", "__ror__", "__str__"]
  | .function => ["__call__", "__get__", "__repr__"]
  | .boundFunction =>
    ["__call__", "__delattr__", "__eq__", "__ge__", "__getattribute__", "__gt__", "__hash__", "__le__",
     "__lt__", "__ne__", "__repr__", "__setattr__"]
  | .operation =>
    ["__call__", "__eq__", "__ge__", "__getattribute__", "__gt__", "__hash__", "__le__", "__lt__", "__ne__",
     "__repr__"]
  | .operator => ["__call__", "__get__", "__getattribute__", "__repr__"]
  | .boundOperator =>
    ["__call__", "__eq__", "__ge__", "__getattribute__", "__gt__", "__hash__", "__le__", "__lt__", "__ne__",
     "__repr__"]
  | .instanceMethod => ["__call__", "__get__", "__getattribute__", "__repr__"]
  | .typeMethod => ["__call__", "__get__", "__getattribute__", "__repr__"]
  | .field => ["__delete__", "__get__", "__getattribute__", "__repr__", "__set__"]
  | .member => ["__delete__", "__get__", "__getattribute__", "__repr__", "__set__"]
  | .code =>
    ["__eq__", "__ge__", "__getattribute__", "__gt__", "__hash__", "__le__", "__lt__", "__ne__", "__repr__"]
  | .type =>
    ["__call__", "__delattr__", "__getattribute__", "__init__", "__or__", "__repr__", "__ror__", "__setattr__"]
  | .object =>
    ["__delattr__", "__eq__", "__ge__", "__getattribute__", "__gt__", "__hash__", "__init__", "__le__",
     "__lt__", "__ne__", "__repr__", "__setattr__", "__str__"]
  | _ => []

end Template

end Log

end SaslBind
