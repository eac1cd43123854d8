import SaslBind.Mechanism

/-!
# Models

A model is a type of objects whose fields are checked.  Besides its fields an object has attributes that
say something about the model, and some that hold what the object is made of.

* `Model.constants` : what the model says about itself, the same for all objects;
* `Model.derived` : what follows from other attributes, by the names of these.
-/

namespace SaslBind

/-- The objects whose fields are checked. -/
inductive Model where
  | properties
  | settings
deriving DecidableEq, Repr

namespace Model

def title : Model → String
  | .properties => "DigestMD5BindRequestProperties"
  | .settings => "Settings"

def description : String :=
  "Properties used to perform a DIGEST-MD5 SASL bind.\n\n" ++
    "    `authentication_id` is conventionally `dn:<full DN>` or `u:<username>`,\n" ++
    "    the value is passed to the server as is. An empty password is kept as\n" ++
    "    an empty byte string, which is how anonymous binds are expressed.\n\n" ++
    "    `authorization_id` and `realm` are None when not requested, an empty\n" ++
    "    string is a distinct, explicit value.\n\n" ++
    "    `allowed_qop` is ordered most preferred first.\n\n" ++
    "    Every assignment is validated, so fields are normalized the same way\n" ++
    "    as on construction and a rejected value leaves the object unchanged.\n" ++
    "    Instances are not safe for concurrent mutation.\n    "

/-- The name of what is known of an object beyond its fields. -/
def extraName : Text := "__pydantic_extra__".toText

def givenName : Text := "__pydantic_fields_set__".toText

/-- The name of what is private to an object. -/
def privateName : Text := "__pydantic_private__".toText

/-- The name of all attributes of an object in a table. -/
def tableName : Text := "__dict__".toText

def modelName : Text := "__class__".toText

/-- The name of the references that do not keep an object. -/
def weakName : Text := "__weakref__".toText

/-- What follows from attributes that an object keeps for itself, with the name of each of these. -/
def derived : List (Text × Text) :=
  [("model_extra".toText, extraName), ("model_fields_set".toText, givenName)]

/-- The names of what follows from other attributes. -/
def derivedNames : List Text := derived.map (·.1)

/-- The names of what only a model has, not its objects. -/
def ownNames : List Text := ["__signature__".toText]

/-- The former names of what follows from the model. -/
def formerNames : List Text := ["__fields__", "__fields_set__"].map String.toText

def fullName : String := "LDAP Bind SDK"

def shortName : String := "ldap-bind-sdk"

def mechanism : Mechanism := .digestMd5

def fullNameName : Text := "FULL_NAME".toText

def shortNameName : Text := "SHORT_NAME".toText

/-- The names of the constants of the settings. -/
def productNames : List Text := [fullNameName, shortNameName]

def mechanismName : Text := "mechanism".toText

/-- What the bind properties say about themselves. -/
def propertyConstants : List (Text × Value) :=
  let slots := ["__dict__".toText, givenName, extraName, privateName]
  let generic : Value := .dict [("origin".toText, .null), ("args".toText, .list []), ("parameters".toText, .list [])]
  [(mechanismName, .text mechanism.value), ("model_config".toText, .dict
      [("validate_assignment".toText, .bool true), ("hide_input_in_errors".toText, .bool true)]),
    ("__module__".toText, .word "ldap_sdk.sasl.digest_md5"), ("__doc__".toText, .word description),
    ("__hash__".toText, .null), (weakName, .null), ("__slots__".toText, .tuple (slots.map .text)),
    ("__pydantic_complete__".toText, .bool true), ("__pydantic_custom_init__".toText, .bool true),
    ("__pydantic_root_model__".toText, .bool false), ("__pydantic_post_init__".toText, .null),
    ("__pydantic_parent_namespace__".toText, .null), ("__pydantic_generic_metadata__".toText, generic),
    ("__pydantic_computed_fields__".toText, .dict []), ("model_computed_fields".toText, .dict []),
    ("__private_attributes__".toText, .dict []), ("__class_vars__".toText, .names [mechanismName]),
    ("__abstractmethods__".toText, .names []), ("__pydantic_extra_info__".toText, .null)]

/-- What a model says about itself. -/
def constants : Model → List (Text × Value)
  | .properties => propertyConstants
  | .settings => [(fullNameName, .word fullName), (shortNameName, .word shortName)]

end Model

end SaslBind
