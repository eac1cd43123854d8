import SaslBind.Fault
import SaslBind.Text.Entries
import SaslBind.Value.Equality

/-!
# What a value holds under a name

A table holds something under a name; other values can be asked too, but most of them refuse.

* `Value.holds` : whether a name is in a value;
* `Value.entry` : what a value holds under a name;
* `Value.without` : a value that no longer holds anything under a name.
-/

namespace SaslBind

namespace Text

/-- Whether a text is somewhere in another one. -/
def isWithin (part : Text) : Text → Bool
  | [] => part.isEmpty
  | c :: t => part.isPrefixOf (c :: t) || isWithin part t

end Text

namespace Value

/-- Whether a name is in a value. -/
def holds (v : Value) (name : Text) : Except Fault Bool :=
  match v with
  | .text t => .ok (name.isWithin t)
  | .qop q => .ok (name.isWithin q.value)
  | .octets .view _ => .ok false
  | .octets _ _ => .error .octetsNeeded
  | .list vs | .tuple vs | .iterator vs => .ok (vs.any (·.equals (.text name)))
  | .dict es => .ok (es.lookup name).isSome
  | .names ts => .ok (ts.contains name)
  | v => .error (.notContainer v.typeName)

/-- What a value holds under a name that is in it. -/
def entry (v : Value) (name : Text) : Except Fault Value :=
  match v with
  | .dict es =>
    match es.lookup name with
    | some w => .ok w
    | none => .error (.unknownKey name.quoted)
  | .text _ | .qop _ => .error (.namedItem "str")
  | .list _ | .tuple _ => .error (.namedItem v.typeName)
  | v => .error (.notSubscriptable v.typeName)

/-- A value that no longer holds anything under a name that is in it. -/
def without (v : Value) (name : Text) : Except Fault Value :=
  match v with
  | .dict es => .ok (.dict (Entries.remove name es))
  | .list _ => .error (.namedItem v.typeName)
  | v => .error (.notDeletable v.typeName)

end Value

end SaslBind
