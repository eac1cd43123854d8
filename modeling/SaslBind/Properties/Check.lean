import SaslBind.Properties.Field
import SaslBind.Qop.OfValue
import SaslBind.FieldError

/-!
# What a field takes

`Field.check` turns any value into the attribute that a field stores, or says why not.  The same rule
holds when an object is made and when a field is assigned.

* `checkRequiredText` : what a field of texts takes, but not nothing;
* `checkSecret` : nothing, texts, octets of every type and secrets;
* `checkLevels` : a comma-separated list, nothing, or anything that can be gone through.
-/

namespace SaslBind

/-- Why a value was rejected: errors of fields, which add up, or a fault that hides all of them. -/
inductive Rejection where
  | errors (es : List FieldError)
  | fault (f : Fault)
deriving DecidableEq, Repr

def defaultQop : List Qop := [.auth]

namespace Field

/-- A text that must not be missing. -/
def checkRequiredText (v : Value) : Except Complaint Text :=
  match v with
  | .null => .error (.rule "authentication ID is required".toText)
  | v => v.checkText

/-- The octets that a secret makes of a value. -/
def checkSecret (v : Value) : Except Complaint (List UInt8) :=
  match v with
  | .null => .ok []
  | .text t => .ok t.restore
  | .qop q => .ok q.value.restore
  | .octets _ bs | .secret bs => .ok bs
  | _ => .error .octetsExpected

/-- The level that an item of a sequence is. -/
def checkLevel (v : Value) : Except Complaint Qop :=
  let exactly (t : Text) : Except Complaint Qop :=
    match Qop.ofValue? t with
    | some q => .ok q
    | none => .error .levelExpected
  match v with
  | .qop q => .ok q
  | .text t => if t.hasSurrogate then .error .textNotUtf8 else exactly t
  | .octets .fixed bs | .octets .changeable bs =>
    match Text.decode? bs with
    | some t => exactly t
    | none => .error .levelExpected
  | _ => .error .levelExpected

/-- The errors of the items of a sequence, the first item having this index. -/
def levelErrors (field : Field) (i : Nat) : List Value → List FieldError
  | [] => []
  | v :: vs =>
    match checkLevel v with
    | .ok _ => levelErrors field (i + 1) vs
    | .error c => ⟨[.name field.name.toText, .index i], c⟩ :: levelErrors field (i + 1) vs

/-- The levels, or the default if there are none. -/
def orDefault (levels : List Qop) : List Qop := if levels.isEmpty then defaultQop else levels

/-- The levels of a sequence. -/
def checkItems (field : Field) (items : List Value) : Except Rejection (List Qop) :=
  match levelErrors field 0 items with
  | [] => .ok (orDefault (items.filterMap fun v => (checkLevel v).toOption))
  | es => .error (.errors es)

/-- The levels that a comma-separated list names. -/
def checkList (field : Field) (t : Text) : Except Rejection (List Qop) :=
  match Qop.decodeText t with
  | .ok levels => .ok (orDefault levels)
  | .error f =>
    match f.message.surrogateRun? with
    | some run => .error (.fault (.unencodable run))
    | none => .error (.errors [⟨[.name field.name.toText], .rule f.message⟩])

/-- The levels that a field of levels makes of a value. -/
def checkLevels (field : Field) (v : Value) : Except Rejection (List Qop) :=
  match v.text?, v with
  | some t, _ => checkList field t
  | none, .null => .ok defaultQop
  | none, v =>
    match v.items? with
    | some items => checkItems field items
    | none => .error (.fault (.notIterable v.typeName))

/-- A complaint about the whole value of a field. -/
def reject (field : Field) (c : Complaint) : Rejection := .errors [⟨[.name field.name.toText], c⟩]

/-- The attribute that a field makes of a value. -/
def check (field : Field) (v : Value) : Except Rejection Attribute :=
  match field with
  | .authenticationId => ((checkRequiredText v).mapError field.reject).map .authenticationId
  | .password => ((checkSecret v).mapError field.reject).map .password
  | .authorizationId => (v.checkOptionalText.mapError field.reject).map .authorizationId
  | .realm => (v.checkOptionalText.mapError field.reject).map .realm
  | .allowedQop => (checkLevels field v).map .allowedQop

theorem field_of_check {f : Field} {v : Value} {a : Attribute} (h : f.check v = .ok a) : a.field = f := by
  cases f <;> simp only [check] at h
  · cases hv : (checkRequiredText v).mapError (reject .authenticationId) <;> simp_all [Except.map]
    subst h; rfl
  · cases hv : (checkSecret v).mapError (reject .password) <;> simp_all [Except.map]
    subst h; rfl
  · cases hv : v.checkOptionalText.mapError (reject .authorizationId) <;> simp_all [Except.map]
    subst h; rfl
  · cases hv : v.checkOptionalText.mapError (reject .realm) <;> simp_all [Except.map]
    subst h; rfl
  · cases hv : checkLevels .allowedQop v <;> simp_all [Except.map]
    subst h; rfl

/-- The value of a field that was not given. -/
def unset : Field → Attribute
  | .authenticationId => .authenticationId []
  | .password => .password []
  | .authorizationId => .authorizationId none
  | .realm => .realm none
  | .allowedQop => .allowedQop defaultQop

end Field

end SaslBind
