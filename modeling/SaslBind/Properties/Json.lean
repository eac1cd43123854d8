import SaslBind.Json
import SaslBind.Properties.Basic

/-!
# Bind properties as JSON

A secret is masked, numbers that are not finite are null, and octets are the text that they write.  Texts with
surrogates, octets that write no text and values that JSON has nothing for have no JSON value.

* `Value.toJson` : the JSON value of a value, or why there is none; of several faults the first.

`Properties.dump` is the JSON text of an object: its fields in the order in which they came, the secret masked.
Fields that were deleted are left out, and so is what is no field.
-/

namespace SaslBind

namespace Value

/-- The JSON value of a text. -/
def textJson (t : Text) : Except Fault Json :=
  match t.surrogateRun? with
  | some run => .error (.unserializable run)
  | none => .ok (.text t)

/-- The JSON value of octets. -/
def octetsJson (bs : List UInt8) : Except Fault Json :=
  match Text.misread? bs with
  | some m => .error (.unserializableOctets m)
  | none => .ok (.text (Text.decodeEscaped bs))

mutual

/-- The JSON value of a value of any type. -/
def toJson : Value → Except Fault Json
  | .null => .ok .null
  | .bool b => .ok (.bool b)
  | .int n => .ok (.int n)
  | .real x => .ok (if x.isFinite then .real x else .null)
  | .text t => textJson t
  | .qop q => .ok (.text q.value)
  | .octets .view _ => .error (.unserializableType "memoryview")
  | .octets _ bs => octetsJson bs
  | .secret bs => .ok (.text (mask bs.isEmpty))
  | .secretText t => .ok (.text (mask t.isEmpty))
  | .list items | .tuple items => (toJsons items).map .array
  | .iterator _ => .error (.unserializableType "list_iterator")
  | .dict entries => (toMembers entries).map .object
  | .names ts => (ts.mapM textJson).map .array
  | .stamp s => .ok (.text s.str)

/-- The JSON values of items. -/
def toJsons : List Value → Except Fault (List Json)
  | [] => .ok []
  | v :: vs =>
    match toJson v, toJsons vs with
    | .error f, _ | .ok _, .error f => .error f
    | .ok j, .ok js => .ok (j :: js)

/-- The JSON members of entries. -/
def toMembers : List (Text × Value) → Except Fault (List (Text × Json))
  | [] => .ok []
  | (k, v) :: es =>
    match k.surrogateRun?, toJson v, toMembers es with
    | some run, _, _ => .error (.unserializable run)
    | none, .error f, _ | none, .ok _, .error f => .error f
    | none, .ok j, .ok ms => .ok ((k, j) :: ms)

end

/-- Secrets that are both empty, or both not, are shown alike. -/
theorem toJson_secret {bs cs : List UInt8} (h : bs.isEmpty = cs.isEmpty) : (secret bs).toJson = (secret cs).toJson := by
  simp [toJson, h]

end Value

namespace Properties

/-- The JSON value of what stands in the place of the secret. -/
def secretJson (v : Value) : Except Fault Json :=
  match v with
  -- null is not masked but written as it is
  | .null | .secret _ | .secretText _ => v.toJson
  | v => .error (.noSecret v.typeName)

/-- The JSON value of what stands in the place of a field. -/
def fieldJson (f : Field) (v : Value) : Except Fault Json := if f = .password then secretJson v else v.toJson

/-- The JSON members of the fields among some entries. -/
def members : List (Text × Value) → Except Fault (List (Text × Json))
  | [] => .ok []
  | (name, v) :: rest =>
    match Field.ofName? name with
    | none => members rest
    | some f => do
      let j ← fieldJson f v
      let js ← members rest
      pure ((name, j) :: js)

/-- The JSON text of an object. -/
def dump (p : Properties) : Except Fault Text := (members p.table).map fun ms => (Json.object ms).print

end Properties

end SaslBind
