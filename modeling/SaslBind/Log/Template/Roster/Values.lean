import SaslBind.Log.Template.Roster.Types

/-!
# Methods of values

What can be done with numbers, rows and tables.
-/

namespace SaslBind

namespace Log

namespace Template

/-- The methods that numbers, rows and tables have of their own. -/
def valueMethods : Kind → List Method
  | .whole =>
    [⟨"conjugate", .onThing, none, some "Returns self, the complex conjugate of any int."⟩,
      ⟨"bit_length", .onThing, some "($self, /)",
        some ("Number of bits necessary to represent self in binary.\n\n>>> bin(37)\n'0b100101'\n>>> " ++
              "(37).bit_length()\n6")⟩,
      ⟨"bit_count", .onThing, some "($self, /)",
        some ("Number of ones in the binary representation of the absolute value of self.\n\nAlso known " ++
              "as the population count.\n\n>>> bin(13)\n'0b1101'\n>>> (13).bit_count()\n3")⟩,
      ⟨"to_bytes", .onThing, some "($self, /, length=1, byteorder='big', *, signed=False)",
        some ("Return an array of bytes representing an integer.\n\n  length\n    Length of bytes object " ++
              "to use.  An OverflowError is raised if the\n    integer is not representable with the " ++
              "given number of bytes.  Default\n    is length 1.\n  byteorder\n    The byte order used to " ++
              "represent the integer.  If byteorder is 'big',\n    the most significant byte is at the " ++
              "beginning of the byte array.  If\n    byteorder is 'little', the most significant byte is " ++
              "at the end of the\n    byte array.  To request the native byte order of the host system, " ++
              "use\n    `sys.byteorder' as the byte order value.  Default is to use 'big'.\n  signed\n    " ++
              "Determines whether two's complement is used to represent the integer.\n    If signed is " ++
              "False and a negative integer is given, an OverflowError\n    is raised.")⟩,
      ⟨"from_bytes", .onType, some "($type, /, bytes, byteorder='big', *, signed=False)",
        some ("Return the integer represented by the given array of bytes.\n\n  bytes\n    Holds the " ++
              "array of bytes to convert.  The argument must either\n    support the buffer protocol or " ++
              "be an iterable object producing bytes.\n    Bytes and bytearray are examples of built-in " ++
              "objects that support the\n    buffer protocol.\n  byteorder\n    The byte order used to " ++
              "represent the integer.  If byteorder is 'big',\n    the most significant byte is at the " ++
              "beginning of the byte array.  If\n    byteorder is 'little', the most significant byte is " ++
              "at the end of the\n    byte array.  To request the native byte order of the host system, " ++
              "use\n    `sys.byteorder' as the byte order value.  Default is to use 'big'.\n  signed\n    " ++
              "Indicates whether two's complement is used to represent the integer.")⟩,
      ⟨"as_integer_ratio", .onThing, some "($self, /)",
        some ("Return integer ratio.\n\nReturn a pair of integers, whose ratio is exactly equal to the " ++
              "original int\nand with a positive denominator.\n\n>>> (10).as_integer_ratio()\n(10, 1)\n" ++
              ">>> (-10).as_integer_ratio()\n(-10, 1)\n>>> (0).as_integer_ratio()\n(0, 1)")⟩,
      ⟨"__trunc__", .onThing, none, some "Truncating an Integral returns itself."⟩,
      ⟨"__floor__", .onThing, none, some "Flooring an Integral returns itself."⟩,
      ⟨"__ceil__", .onThing, none, some "Ceiling of an Integral returns itself."⟩,
      ⟨"__round__", .onThing, some "($self, ndigits=<unrepresentable>, /)",
        some ("Rounding an Integral returns itself.\n\nRounding with an ndigits argument also returns an " ++
              "integer.")⟩,
      ⟨"__getnewargs__", .onThing, some "($self, /)", none⟩,
      ⟨"__format__", .onThing, some "($self, format_spec, /)", none⟩,
      ⟨"__sizeof__", .onThing, some "($self, /)", some "Returns size in memory, in bytes."⟩]
  | .tuple =>
    [⟨"__getnewargs__", .onThing, some "($self, /)", none⟩,
      ⟨"index", .onThing, some "($self, value, start=0, stop=sys.maxsize, /)",
        some "Return first index of value.\n\nRaises ValueError if the value is not present."⟩,
      ⟨"count", .onThing, some "($self, value, /)", some "Return number of occurrences of value."⟩,
      ⟨"__class_getitem__", .onType, none, some "See PEP 585"⟩]
  | .table =>
    [⟨"__getitem__", .onThing, none, some "x.__getitem__(y) <==> x[y]"⟩,
      ⟨"__contains__", .onThing, some "($self, key, /)",
        some "True if the dictionary has the specified key, else False."⟩,
      ⟨"__sizeof__", .onThing, none, some "D.__sizeof__() -> size of D in memory, in bytes"⟩,
      ⟨"get", .onThing, some "($self, key, default=None, /)",
        some "Return the value for key if key is in the dictionary, else default."⟩,
      ⟨"setdefault", .onThing, some "($self, key, default=None, /)",
        some ("Insert key with a value of default if key is not in the dictionary.\n\nReturn the value " ++
              "for key if key is in the dictionary, else default.")⟩,
      ⟨"pop", .onThing, some "($self, key, default=<unrepresentable>, /)",
        some ("D.pop(k[,d]) -> v, remove specified key and return the corresponding value.\n\nIf the key " ++
              "is not found, return the default if given; otherwise,\nraise a KeyError.")⟩,
      ⟨"popitem", .onThing, some "($self, /)",
        some ("Remove and return a (key, value) pair as a 2-tuple.\n\nPairs are returned in LIFO " ++
              "(last-in, first-out) order.\nRaises KeyError if the dict is empty.")⟩,
      ⟨"keys", .onThing, none, some "D.keys() -> a set-like object providing a view on D's keys"⟩,
      ⟨"items", .onThing, none, some "D.items() -> a set-like object providing a view on D's items"⟩,
      ⟨"values", .onThing, none, some "D.values() -> an object providing a view on D's values"⟩,
      ⟨"update", .onThing, none,
        some ("D.update([E, ]**F) -> None.  Update D from dict/iterable E and F.\nIf E is present and has " ++
              "a .keys() method, then does:  for k in E: D[k] = E[k]\nIf E is present and lacks a .keys() " ++
              "method, then does:  for k, v in E: D[k] = v\nIn either case, this is followed by: for k in " ++
              "F:  D[k] = F[k]")⟩,
      ⟨"fromkeys", .onType, some "($type, iterable, value=None, /)",
        some "Create a new dictionary with keys from iterable and values set to value."⟩,
      ⟨"clear", .onThing, none, some "D.clear() -> None.  Remove all items from D."⟩,
      ⟨"copy", .onThing, none, some "D.copy() -> a shallow copy of D"⟩,
      ⟨"__reversed__", .onThing, some "($self, /)", some "Return a reverse iterator over the dict keys."⟩,
      ⟨"__class_getitem__", .onType, none, some "See PEP 585"⟩]
  | .typeTable =>
    [⟨"get", .onThing, none, some "D.get(k[,d]) -> D[k] if k in D, else d.  d defaults to None."⟩,
      ⟨"keys", .onThing, none, some "D.keys() -> a set-like object providing a view on D's keys"⟩,
      ⟨"values", .onThing, none, some "D.values() -> an object providing a view on D's values"⟩,
      ⟨"items", .onThing, none, some "D.items() -> a set-like object providing a view on D's items"⟩,
      ⟨"copy", .onThing, none, some "D.copy() -> a shallow copy of D"⟩,
      ⟨"__class_getitem__", .onType, none, some "See PEP 585"⟩,
      ⟨"__reversed__", .onThing, none, some "D.__reversed__() -> reverse iterator"⟩]
  | _ => []

end Template

end Log

end SaslBind
