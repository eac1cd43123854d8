import SaslBind.Object
import SaslBind.Settings

/-!
# Settings that are assigned

The settings are an object whose attributes can be assigned, without a check of their values.

* `Settings.toObject` : the object of settings;
* `Settings.assign` : one attribute is assigned; a fault may come after the value was stored;
* `Settings.fieldsOf`, `Settings.versionLinesOf` : the fields of such an object, and what is printed about its
  version.
-/

namespace SaslBind

namespace Settings

/-- The object of settings, and which of its fields count as given. -/
def toObject (s : Settings) (given : List Setting) : Object :=
  Object.make .settings (Setting.all.map fun f => (f.name.toText, s.get f)) (given.map (·.name.toText))

/-- The settings that were given among values by name. -/
def givenIn (values : List (Text × Value)) : List Setting :=
  Setting.all.filter fun f => (values.lookup f.key.toText).isSome

/-- A field takes a value.  It is stored before it counts as given, which what is kept about that may not allow. -/
def assignField (o : Object) (name : Text) (v : Value) : Object × Option Fault :=
  let o := { o with table := Entries.put name v o.table }
  match o.read Model.givenName with
  | .ok (.names ts) => ({ o with given := some (.names (if name ∈ ts then ts else ts ++ [name])) }, none)
  | .ok other => (o, some (.noAttribute other.typeName "add".toText))
  | .error f => (o, some f)

/-- The object after an attempt that may have failed. -/
def attempted (o : Object) : Except Fault Object → Object × Option Fault
  | .ok o => (o, none)
  | .error f => (o, some f)

/-- An attribute is assigned by its name. -/
def assign (o : Object) (name : Text) (v : Value) : Object × Option Fault :=
  if name ∈ Model.productNames then (o, some (.constant .settings name))
  else if name.startsWith "_".toText then attempted o (o.note name v)
  else if name ∈ Model.derivedNames then (o, some (.derived .settings name))
  else if (Setting.ofName? name).isSome then assignField o name v
  else (o, some (.noField .settings name))

/-- The values of the fields by their names. -/
def fieldsOf (o : Object) : Except Fault (List (Text × Value)) :=
  Setting.all.mapM fun f => (o.read f.name.toText).map fun v => (f.name.toText, v)

/-- What is printed about the version. -/
def versionLinesOf (o : Object) : Except Fault (List Text) := do
  let full ← o.read Model.fullNameName
  let short ← o.read Model.shortNameName
  let version ← o.read Setting.version.name.toText
  linesAbout full short version

end Settings

end SaslBind
