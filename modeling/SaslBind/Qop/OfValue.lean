import SaslBind.Fault

/-!
# Levels from values of any type

The decoders take whatever can be taken apart like a text.  Octets have the same words for that, but
no octets name a level.

* `Qop.decodeValue`, `Qop.decodeListValue` : the level or the levels that a value names;
* `Qop.listOfValue` : the text of the levels in a value.
-/

namespace SaslBind

namespace Qop

/-- The level that a value names. -/
def decodeValue (v : Value) : Except Fault (Option Qop) :=
  match v.text?, v with
  | some t, _ => .ok (decode? t)
  | none, .octets .fixed _ => .ok none
  | none, .octets .changeable _ => .ok none
  | none, v => .error (.noAttribute v.typeName "strip".toText)

/-- The levels of a comma-separated list, an unknown one being a fault. -/
def decodeText (t : Text) : Except Fault (List Qop) := (decodeList t).mapError .unknownQop

/-- The levels of a value that is a comma-separated list. -/
def decodeListValue (v : Value) : Except Fault (List Qop) :=
  match v.text?, v with
  | some t, _ => decodeText t
  | none, .octets .fixed _ => .error .octetsNeeded
  | none, .octets .changeable _ => .error .octetsNeeded
  | none, v => .error (.noAttribute v.typeName "split".toText)

/-- The text of the level that a value is. -/
def textOfValue (v : Value) : Except Fault Text :=
  match v with
  | .qop q => .ok q.value
  | v => .error (.noAttribute v.typeName "value".toText)

/-- The comma-separated list of the levels in a value. -/
def listOfValue (v : Value) : Except Fault Text :=
  match v.items? with
  | some vs => (vs.mapM textOfValue).map (Text.join ",".toText)
  | none => .error (.notIterable v.typeName)

end Qop

end SaslBind
