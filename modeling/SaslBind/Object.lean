import SaslBind.Text.Entries
import SaslBind.Value.Contents
import SaslBind.Value.Order

/-!
# Objects of models

An object has attributes by name.  Those that were assigned are in its table; besides, it keeps for itself which
of its fields were given, what is private to it, and what is known of it beyond its fields.  All of these can be
replaced by values of any type, and what is kept can be deleted.

* `Object.read` : the value of an attribute: what the object keeps, what follows from that, its table, what its
  model says, and last what is known beyond its fields;
* `Object.delete` : an attribute is gone;
* `Object.note` : a value under a name that begins with an underscore, past all checks;
* `Object.store` : a value of a field, which counts as given then;
* `Object.copy`, `Object.agrees`, `Object.givenNames` : objects as a whole.

Main statements: `read_store`, a field is read as it was stored, and `lookup_store`, nothing else changes in the table.
-/

namespace SaslBind

/-- An object of a model. -/
structure Object where
  model : Model
  /-- The attributes that were assigned, in the order in which they came. -/
  table : Entries Value
  /-- What is known of the object beyond its fields. -/
  extra : Option Value
  /-- The names of the fields that were given. -/
  given : Option Value
  /-- What is private to the object. -/
  inner : Option Value
deriving Repr

namespace Object

/-- An object that keeps nothing. -/
def blank (m : Model) : Object := ⟨m, [], none, none, none⟩

/-- A new object with a table, and the names of those of its fields that were given. -/
def make (m : Model) (table : Entries Value) (given : List Text) : Object :=
  ⟨m, table, some .null, some (.names given), some .null⟩

/-- The fault of a name that the object has no attribute of. -/
def noAttribute (o : Object) (name : Text) : Fault := .noAttribute o.model.title name

/-! ### Reading -/

/-- What the object keeps for itself under a name, if it keeps anything under such a name. -/
def kept? (o : Object) (name : Text) : Option (Option Value) :=
  if name = Model.extraName then some o.extra
  else if name = Model.givenName then some o.given
  else if name = Model.privateName then some o.inner
  else none

/-- What is known under a name beyond the fields, if anything is. -/
def beyond? (o : Object) (name : Text) : Except Fault (Option Value) :=
  match o.extra with
  | none => .ok none
  | some v =>
    if v.isVoid then .ok none
    else
      match v.holds name with
      | .error f => .error f
      | .ok false => .ok none
      | .ok true => (v.entry name).map some

/-- What is known under a name beyond the fields, or else a fault. -/
def beyond (o : Object) (name : Text) (f : Fault) : Except Fault Value :=
  match o.beyond? name with
  | .error f => .error f
  | .ok (some v) => .ok v
  | .ok none => .error f

/-- The value of an attribute that follows from what the object keeps as `source`. -/
def readDerived (o : Object) (name source : Text) : Except Fault Value :=
  match o.kept? source, o.beyond? source with
  | some (some v), _ => .ok v
  | _, .error f => .error f
  | _, .ok (some v) => .ok v
  | _, .ok none => o.beyond name (o.noAttribute source)

/-- The value of an attribute. -/
def read (o : Object) (name : Text) : Except Fault Value :=
  if name = Model.tableName then .ok (.dict o.table)
  else
    match o.kept? name, Model.derived.lookup name, (o.table.lookup name).or (o.model.constants.lookup name) with
    | some (some v), _, _ => .ok v
    | some none, _, _ => o.beyond name (o.noAttribute name)
    | none, some source, _ => o.readDerived name source
    | none, none, some v => .ok v
    | none, none, none =>
      o.beyond name (if name ∈ Model.ownNames then .modelOnly o.model name else o.noAttribute name)

/-- The value of an attribute, or another value if there is no such attribute. -/
def readOr (o : Object) (name : Text) (other : Value) : Except Fault Value :=
  match o.read name with
  | .error (.noAttribute _ _) => .ok other
  | result => result

/-! ### Changing -/

/-- The object keeps a value for itself, or nothing any more, under one of the names for that. -/
def keep (o : Object) (name : Text) (v : Option Value) : Object :=
  if name = Model.extraName then { o with extra := v }
  else if name = Model.givenName then { o with given := v }
  else if name = Model.privateName then { o with inner := v }
  else o

/-- An entry of the table is gone. -/
def removeEntry (o : Object) (name : Text) : Except Fault Object :=
  if (o.table.lookup name).isSome then .ok { o with table := Entries.remove name o.table }
  else .error (o.noAttribute name)

/-- The names of what can neither be assigned nor deleted. -/
def fixedNames : List Text := Model.weakName :: (Model.formerNames ++ Model.derivedNames)

/-- An attribute is gone that nothing is known of beyond the fields. -/
def deleteOwn (o : Object) (name : Text) : Except Fault Object :=
  if name = Model.modelName then .error .modelDeleted
  else if name = Model.tableName then .ok { o with table := [] }
  else
    match o.kept? name with
    | some (some _) => .ok (o.keep name none)
    | some none => .error (o.noAttribute name)
    | none => if name ∈ fixedNames then .error (o.noAttribute name) else o.removeEntry name

/-- Something that is no field is gone. -/
def deleteOther (o : Object) (name : Text) : Except Fault Object :=
  match o.extra with
  | none => .error (o.noAttribute Model.extraName)
  | some .null => o.deleteOwn name
  | some v =>
    match v.holds name with
    | .error f => .error f
    | .ok true => (v.without name).map fun v => { o with extra := some v }
    | .ok false => o.deleteOwn name

/-- An attribute is gone, of an object with these fields. -/
def delete (fields : List Text) (o : Object) (name : Text) : Except Fault Object :=
  if name ∈ fields then o.removeEntry name else o.deleteOther name

/-- A value is kept under a name that begins with an underscore; a table replaces that of the object. -/
def note (o : Object) (name : Text) (v : Value) : Except Fault Object :=
  match Fault.ofNote? o.model name v, v with
  | some f, _ => .error f
  | none, v =>
    match o.kept? name, v with
    | some _, v => .ok (o.keep name (some v))
    | none, .dict es =>
      .ok { o with table := if name = Model.tableName then es else Entries.put name v o.table }
    | none, v => .ok { o with table := Entries.put name v o.table }

/-- The table with all that is known beyond the fields. -/
def fullTable (o : Object) : Entries Value :=
  match o.extra with
  | some (.dict es) => Entries.overlay o.table es
  | _ => o.table

/-- What is kept about the fields that were given, after one more was given.  If it was deleted, it stays so. -/
def givenWith (o : Object) (name : Text) : Except Fault (Option Value) :=
  match o.given.or ((o.beyond? Model.givenName).toOption.bind id) with
  | none => .ok none
  | some (.names ts) => .ok (some (.names (if name ∈ ts then ts else ts ++ [name])))
  | some v => .error (.namesExpected v.typeName)

/-- A field takes a value, and counts as given. -/
def store (o : Object) (name : Text) (v : Value) : Except Fault Object :=
  (o.givenWith name).map fun given =>
    { o with table := Entries.put name v o.fullTable, extra := some .null, given }

/-- Whether attributes of this name are in the table and not somewhere else. -/
def IsPlain (name : Text) : Prop :=
  name ≠ Model.tableName ∧ name ≠ Model.extraName ∧ name ≠ Model.givenName ∧ name ≠ Model.privateName ∧
    Model.derived.lookup name = none

instance (name : Text) : Decidable (IsPlain name) := by unfold IsPlain; infer_instance

theorem read_of_lookup {o : Object} {name : Text} {v : Value} (hn : IsPlain name) (h : o.table.lookup name = some v) :
    o.read name = .ok v := by
  obtain ⟨ht, he, hg, hp, hd⟩ := hn
  simp [read, kept?, ht, he, hg, hp, hd, h]

/-- The table changes in one place, besides what was known beyond the fields. -/
theorem lookup_store {o p : Object} {name : Text} {v : Value} (h : o.store name v = .ok p) (other : Text) :
    p.table.lookup other = if other = name then some v else o.fullTable.lookup other := by
  unfold store at h
  cases hg : o.givenWith name with
  | error f => simp [hg, Except.map] at h
  | ok given =>
    simp only [hg, Except.map, Except.ok.injEq] at h
    subst h
    exact Entries.lookup_put name v o.fullTable other

/-- A field is read as it was stored. -/
theorem read_store {o p : Object} {name : Text} {v : Value} (hn : IsPlain name) (h : o.store name v = .ok p) :
    p.read name = .ok v :=
  read_of_lookup hn (by rw [lookup_store h, if_pos rfl])

/-! ### Objects as a whole -/

/-- A copy of a value that an object keeps. -/
def copied (v : Value) : Except Fault Value :=
  match v with
  | .octets .view _ => .error .notCopied
  | v => .ok v

/-- A copy of what is private to an object: nothing, or a table. -/
def copiedInner (v : Value) : Except Fault Value :=
  match v with
  | .null | .dict _ => .ok v
  | v => .error (.noAttribute v.typeName "items".toText)

def copy (o : Object) : Except Fault Object := do
  let extra ← copied (← o.read Model.extraName)
  let given ← copied (← o.read Model.givenName)
  let inner ← copiedInner (← o.readOr Model.privateName .null)
  pure ⟨o.model, o.table, some extra, some given, some inner⟩

/-- Whether two objects agree in all fields, or have no value for the same ones. -/
def agreesIn (fields : List Text) (o p : Object) : Bool :=
  fields.all fun name =>
    match o.table.lookup name, p.table.lookup name with
    | some v, some w => v.equals w
    | none, none => true
    | _, _ => false

/-- Whether two tables are equal, or have entries besides the fields and agree in these. -/
def tablesAgree (fields : List Text) (o p : Object) : Bool :=
  let isKnown (e : Text × Value) : Bool := fields.contains e.1
  (Value.dict o.table).equals (.dict p.table) ||
    (!(o.table.all isKnown && p.table.all isKnown) && o.agreesIn fields p)

/-- Whether the same is known beyond the fields of two objects; it does not matter as what nothing is kept. -/
def extrasAgree (v w : Value) : Bool := (v.isVoid && w.isVoid) || v.equals w

/-- Whether two objects agree: in what is private to them, in what is known beyond their fields, and in these. -/
def agrees (fields : List Text) (o p : Object) : Except Fault Bool := do
  let inner ← o.readOr Model.privateName .null
  let inner' ← p.readOr Model.privateName .null
  if inner.equals inner' then
    let extra ← o.read Model.extraName
    let extra' ← p.read Model.extraName
    pure (extrasAgree extra extra' && o.tablesAgree fields p)
  else pure false

/-- The names of the fields that were given, in order. -/
def givenNames (o : Object) : Except Fault (List Value) := do
  let given ← o.readDerived "model_fields_set".toText Model.givenName
  match given.items? with
  | some names => sortBy Value.precedes names
  | none => throw (.notIterable given.typeName)

end Object

end SaslBind
