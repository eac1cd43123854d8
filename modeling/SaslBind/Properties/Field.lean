import SaslBind.Value

/-!
# Fields of bind properties

The five fields and what they can hold.

* `Field` : the fields, in the order in which they are declared;
* `Attribute` : a field together with its value;
* `Attribute.ofValue?` : the attribute that reads as a value.

Main statement: `ofValue?_value`, an attribute is what its value stands for.
-/

namespace SaslBind

/-- A field of the bind properties. -/
inductive Field where
  | authenticationId
  | password
  | authorizationId
  | realm
  | allowedQop
deriving DecidableEq, Repr

namespace Field

def all : List Field := [.authenticationId, .password, .authorizationId, .realm, .allowedQop]

def name : Field → String
  | .authenticationId => "authentication_id"
  | .password => "password"
  | .authorizationId => "authorization_id"
  | .realm => "realm"
  | .allowedQop => "allowed_qop"

def names : List Text := all.map (·.name.toText)

def ofName? (t : Text) : Option Field := all.find? (·.name.toText = t)

theorem mem_all (f : Field) : f ∈ all := by cases f <;> decide

@[simp] theorem ofName?_name (f : Field) : ofName? f.name.toText = some f := by cases f <;> decide

theorem name_mem_names (f : Field) : f.name.toText ∈ names := List.mem_map_of_mem (mem_all f)

theorem name_injective {f g : Field} (h : f.name.toText = g.name.toText) : f = g := by
  simpa using (congrArg ofName? h)

end Field

/-- A field with its value. -/
inductive Attribute where
  | authenticationId (t : Text)
  | password (bs : List UInt8)
  | authorizationId (t : Option Text)
  | realm (t : Option Text)
  | allowedQop (levels : List Qop)
deriving DecidableEq, Repr

namespace Attribute

/-- The field of an attribute. -/
def field : Attribute → Field
  | .authenticationId _ => .authenticationId
  | .password _ => .password
  | .authorizationId _ => .authorizationId
  | .realm _ => .realm
  | .allowedQop _ => .allowedQop

/-- A text or nothing. -/
def optionalText : Option Text → Value
  | some t => .text t
  | none => .null

/-- The value of an attribute as it is read. -/
def value : Attribute → Value
  | .authenticationId t => .text t
  | .password bs => .secret bs
  | .authorizationId t | .realm t => optionalText t
  | .allowedQop levels => .tuple (levels.map .qop)

/-- The attribute of a field that reads as a value, if the field can hold it as it is. -/
def ofValue? (f : Field) (v : Value) : Option Attribute :=
  match f, v with
  | .authenticationId, .text t => some (.authenticationId t)
  | .password, .secret bs => some (.password bs)
  | .authorizationId, .text t => some (.authorizationId (some t))
  | .authorizationId, .null => some (.authorizationId none)
  | .realm, .text t => some (.realm (some t))
  | .realm, .null => some (.realm none)
  | .allowedQop, .tuple vs => (levels? vs).map .allowedQop
  | _, _ => none
where
  /-- The levels that all of some values are. -/
  levels? : List Value → Option (List Qop)
    | [] => some []
    | .qop q :: vs => (levels? vs).map (q :: ·)
    | _ :: _ => none

end Attribute

end SaslBind
