import SaslBind.Fault

/-!
# Members of enumerations

A member is asked for by its value or by its name; what is no member is a fault.

* `Enumeration.member` : the member that equals a value;
* `Enumeration.named` : the member with a name.
-/

namespace SaslBind

mutual

/-- The type of what can not be looked up in a value. -/
def Value.unhashable? : Value → Option String
  | .list _ => some "list"
  | .dict _ => some "dict"
  | .octets .changeable _ => some "bytearray"
  | .tuple items => Value.firstUnhashable? items
  | _ => none

/-- The type of the first of some items that can not be looked up. -/
def Value.firstUnhashable? : List Value → Option String
  | [] => none
  | v :: vs => v.unhashable?.or (Value.firstUnhashable? vs)

end

namespace Enumeration

variable {α : Type}

/-- The member that equals a value. -/
def member (e : Enumeration α) (v : Value) : Except Fault α :=
  match e.ofValue? v with
  | some m => .ok m
  | none => .error (.notMember v.repr e.title)

/-- The member with a name. -/
def named (e : Enumeration α) (v : Value) : Except Fault α :=
  match v.unhashable?, v.text?.bind e.ofName? with
  | some type, _ => .error (.unhashable type)
  | none, some m => .ok m
  | none, none => .error (.unknownKey v.repr)

end Enumeration

end SaslBind
