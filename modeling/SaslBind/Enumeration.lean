import SaslBind.Value

/-!
# Enumerations

An enumeration gives each of its members a name and a value, a number or a text.  Members are found by
either; a value is looked up by what it equals, so that 1.0 and the truth value 1 find the member 1.
-/

namespace SaslBind

/-- The value of a member. -/
inductive MemberValue where
  | number (n : Int)
  | text (t : Text)
deriving DecidableEq, Repr

namespace MemberValue

/-- The text of a member's value. -/
def str : MemberValue → Text
  | .number n => Text.ofInt n
  | .text t => t

/-- Whether a value of any type equals that of the member. -/
def equals (m : MemberValue) (v : Value) : Bool :=
  match m with
  | .number n => v.toInt? = some n
  | .text t => v.text? = some t

end MemberValue

/-- Members with names and values, in the order of declaration. -/
structure Enumeration (α : Type) where
  title : String
  members : List α
  name : α → String
  value : α → MemberValue

namespace Enumeration

variable {α : Type}

/-- The member whose value equals this one. -/
def ofValue? (e : Enumeration α) (v : Value) : Option α := e.members.find? fun m => (e.value m).equals v

/-- The member with this name. -/
def ofName? (e : Enumeration α) (name : Text) : Option α :=
  e.members.find? fun m => (e.name m).toText = name

end Enumeration

end SaslBind
