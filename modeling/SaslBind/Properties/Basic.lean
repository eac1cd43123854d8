import SaslBind.Object
import SaslBind.Properties.Check

/-!
# Bind properties

An object that says how to bind: who authenticates, with which secret, as whom to act, in which realm
and with which protection.

* `Properties.construct`, `Properties.call` : a new object from values by name, or from the arguments
  of a call;
* `Properties.assign`, `Properties.delete` : one attribute by its name; `Object.read` reads it;
* `Properties.describe` : one line about an object, without the secret.

Assigning applies the rule that holds when an object is made, and what is rejected leaves the object
as it was: the operations give a new object or a fault.
-/

namespace SaslBind

/-- An object of bind properties. -/
abbrev Properties := Object

namespace Properties

/-- An object without any attribute. -/
def blank : Properties := Object.blank .properties

/-- The attribute of a field, if it has a value that the field can hold. -/
def get? (p : Properties) (f : Field) : Option Attribute :=
  (p.table.lookup f.name.toText).bind (Attribute.ofValue? f)

/-- Values by name. -/
abbrev Arguments := List (Text × Value)

/-- The attribute of a field, from what was given or from the default. -/
def construct1 (values : Arguments) (f : Field) : Except Rejection Attribute :=
  match values.lookup f.name.toText with
  | some v => f.check v
  | none => .ok f.unset

/-- The results for all fields: every attribute, or the first fault, or all errors in order. -/
def gather : List (Except Rejection Attribute) → Except Rejection (List Attribute)
  | [] => .ok []
  | .ok a :: rest => (gather rest).map (a :: ·)
  | .error (.fault f) :: _ => .error (.fault f)
  | .error (.errors es) :: rest =>
    match gather rest with
    | .ok _ => .error (.errors es)
    | .error (.errors es') => .error (.errors (es ++ es'))
    | .error (.fault f) => .error (.fault f)

/-- The fault of a rejection. -/
def fault : Rejection → Fault
  | .errors es => .invalid .properties es
  | .fault f => f

/-- A new object from values by name; names that are no fields are left out. -/
def construct (values : Arguments) : Except Fault Properties :=
  match gather (Field.all.map (construct1 values)) with
  | .error r => .error (fault r)
  | .ok attributes =>
    let given := Field.names.filter fun name => (values.lookup name).isSome
    .ok (Object.make .properties (attributes.map fun a => (a.field.name.toText, a.value)) given)

/-- The names of the parameters of a call, in order; the first is the object itself. -/
def parameters : List Text := ["self".toText, Field.authenticationId.name.toText, Field.password.name.toText]

/-- The values by name of a call with arguments by place and by name.  The secret counts as given even
when it is left out. -/
def bind (args : List Value) (named : Arguments) : Except Fault Arguments :=
  let filled := parameters.take (args.length + 1)
  match named.find? (·.1 ∈ filled) with
  | some (name, _) => .error (.repeatedArgument name)
  | none =>
    if 2 < args.length then .error (.tooManyArguments .properties (args.length + 1))
    else
      let byPlace := (parameters.drop 1).zip args
      let byName := named.filter (·.1 ∈ parameters)
      let rest := named.filter (·.1 ∉ parameters)
      let known := byPlace ++ byName
      if (known.lookup Field.authenticationId.name.toText).isNone then .error .missingArgument
      else
        let secret := if (known.lookup Field.password.name.toText).isSome then []
          else [(Field.password.name.toText, Value.null)]
        .ok (known ++ secret ++ rest)

/-- A new object from the arguments of a call. -/
def call (args : List Value) (named : Arguments) : Except Fault Properties :=
  match bind args named with
  | .ok values => construct values
  | .error f => .error f

/-- A new object from a dictionary of values.  Surrogates that stop the wording of an error are an error
of the dictionary as a whole. -/
def validate (v : Value) : Except Fault Properties :=
  match v with
  | .dict entries =>
    match call [] entries with
    | .error (.unencodable run) =>
      .error (.invalid .properties [⟨[], .rule (Fault.encodingMessage run)⟩])
    | result => result
  | _ => .error (.invalid .properties [⟨[], .objectExpected⟩])

/-- Whether a name is that of a private note. -/
def isNote (name : Text) : Bool := Text.startsWith name "_".toText

/-- A field is assigned.  What is known beyond the fields must not have been deleted. -/
def set (p : Properties) (f : Field) (v : Value) : Except Fault Properties :=
  if p.extra.isNone then .error (p.noAttribute Model.extraName)
  else
    match f.check v with
    | .ok a => p.store f.name.toText a.value
    | .error r => .error (fault r)

/-- The fault of an assignment to a name that is no field: a name with surrogates can not even be asked
for. -/
def noField (p : Properties) (name : Text) : Fault :=
  match name.surrogateRun? with
  | some run => .unencodable run
  | none =>
    if p.extra.isNone then p.noAttribute Model.extraName
    else .invalid .properties [⟨[.name name], .noSuchAttribute name⟩]

/-- An attribute is assigned by its name. -/
def assign (p : Properties) (name : Text) (v : Value) : Except Fault Properties :=
  if name = Model.mechanismName then .error (.constant .properties name)
  else if isNote name then p.note name v
  else if name ∈ Model.derivedNames then .error (.derived .properties name)
  else
    match Field.ofName? name with
    | some f => p.set f v
    | none => .error (p.noField name)

/-- The levels are assigned from arguments; none restore the default. -/
def setAllowedQop (p : Properties) (levels : List Value) : Except Fault Properties :=
  p.set .allowedQop (.tuple levels)

/-- An attribute is deleted. -/
def delete (p : Properties) (name : Text) : Except Fault Properties := Object.delete Field.names p name

/-- Whether two objects agree. -/
def agrees (p q : Properties) : Except Fault Bool := Object.agrees Field.names p q

/-! ### The line about an object -/

/-- The value of a field, or nothing if it was deleted. -/
def valueOf (p : Properties) (f : Field) : Except Fault Value := p.readOr f.name.toText .null

/-- A value as the line shows it. -/
def shown (v : Value) : Except Fault Text := if v.isTooLong then .error (.tooManyDigits none) else .ok v.str

/-- A field and a text between single quotes. -/
def labelled (f : Field) (t : Text) : Text := f.name.toText ++ "='".toText ++ t ++ "'".toText

/-- A field that is shown only if it has a value. -/
def labelledIfAny (f : Field) (v : Value) : Except Fault (List Text) :=
  match v with
  | .null => .ok []
  | v => (shown v).map fun t => [labelled f t]

/-- The levels; none if they were deleted. -/
def levels (p : Properties) : Except Fault Value := p.readOr Field.allowedQop.name.toText (.tuple [])

/-- The parts of the line about an object. -/
def parts (p : Properties) : Except Fault (List Text) := do
  let authenticationId ← p.valueOf .authenticationId
  let authorizationId ← p.valueOf .authorizationId
  let realm ← p.valueOf .realm
  let levels ← p.levels
  let first ← shown authenticationId
  let second ← labelledIfAny .authorizationId authorizationId
  let third ← labelledIfAny .realm realm
  let last ← Qop.listOfValue levels
  pure (labelled .authenticationId first :: (second ++ third ++ ["qop='".toText ++ last ++ "'".toText]))

/-- One line about an object, without the secret. -/
def describe (p : Properties) : Except Fault Text :=
  p.parts.map fun parts =>
    Model.properties.title.toText ++ "(".toText ++ Text.join ", ".toText parts ++ ")".toText

end Properties

end SaslBind
