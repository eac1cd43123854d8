import SaslBind.CommandLine.Marks.Malformed
import SaslBind.FieldError
import SaslBind.Files.Path
import SaslBind.Log.Template.Malformed
import SaslBind.Model
import SaslBind.ResultCode
import SaslBind.Toml.Malformed

/-!
# Faults

Everything that can stop an operation, as a cause; `Fault.message` words it.  A fault holds what its
wording needs and no more.
-/

namespace SaslBind

/-- The code of a fault of this library's own domain. -/
inductive DomainCode where
  | base
  | invalidQop
deriving DecidableEq, Repr

namespace DomainCode

def all : List DomainCode := [.base, .invalidQop]

def name : DomainCode → String
  | .base => "BASE_ERROR"
  | .invalidQop => "INVALID_QOP_ERROR"

def number : DomainCode → Nat
  | .base => 0
  | .invalidQop => 1

/-- The enumeration of the domain codes. -/
def enumeration : Enumeration DomainCode where
  title := "ErrorCodes"
  members := all
  name := name
  value := fun c => .number c.number

end DomainCode

/-- What takes arguments, but not any number of them. -/
inductive Operation where
  | properties
  | exit
  | line
deriving DecidableEq, Repr

namespace Operation

def name : Operation → String
  | .properties => Model.properties.title ++ ".__init__"
  | .exit => "ToolArgumentParser.exit"
  | .line => "write_line"

/-- How many arguments an operation takes at least and at most; what it is done with counts as one. -/
def arity : Operation → Nat × Nat
  | .properties => (2, 3)
  | .exit => (1, 3)
  | .line => (1, 2)

end Operation

/-- Why an operation stopped. -/
inductive Fault where
  /-- A list names a level that there is not. -/
  | unknownQop (item : Text)
  /-- Values that fields do not take. -/
  | invalid (model : Model) (errors : List FieldError)
  /-- A value that can not be gone through item by item. -/
  | notIterable (type : String)
  | noAttribute (type : String) (name : Text)
  /-- A constant of all objects that can not be set on one. -/
  | constant (model : Model) (name : Text)
  /-- An attribute that follows from others. -/
  | derived (model : Model) (name : Text)
  | noField (model : Model) (name : Text)
  /-- The attributes of an object can only be replaced by a table. -/
  | tableExpected (type : String)
  /-- The model of an object is no value. -/
  | modelExpected (type : String)
  | modelDeleted
  /-- An attribute that can only be read. -/
  | notWritable (model : Model) (name : Text)
  /-- An attribute that only a model has, not its objects. -/
  | modelOnly (model : Model) (name : Text)
  /-- A value that is no secret, where one is to be masked. -/
  | noSecret (type : String)
  /-- Names were to be added to a value that holds no names. -/
  | namesExpected (type : String)
  /-- A text was looked for in a value that holds nothing. -/
  | notContainer (type : String)
  /-- Something was to be taken out of a value that does not change. -/
  | notDeletable (type : String)
  /-- Two values neither of which comes before the other. -/
  | notOrdered (left right : String)
  /-- Octets that belong to another value have no copy of their own. -/
  | notCopied
  /-- Something that is no text was to be written. -/
  | textExpected (type : String)
  | unhashable (type : String)
  | repeatedArgument (name : Text)
  | tooManyArguments (o : Operation) (given : Nat)
  | missingArgument
  /-- A text was looked for among octets. -/
  | octetsNeeded
  | notMember (shown : Text) (title : String)
  | unknownKey (shown : Text)
  | codeNotEnumerated (name : Text)
  | nullInName
  /-- Surrogates that can not be encoded. -/
  | unencodable (run : Text.SurrogateRun)
  | unserializable (run : Text.SurrogateRun)
  /-- Octets that can not be decoded. -/
  | undecodable (m : Text.Misread)
  | unserializableOctets (m : Text.Misread)
  /-- A value of a type that JSON has nothing for. -/
  | unserializableType (type : String)
  | nullInPath
  /-- A variable of the environment has a name that none can have. -/
  | variableName
  | emptyVariableName
  /-- A variable of the environment is no text. -/
  | variableType (type : String)
  /-- An item was asked of what has none. -/
  | notSubscriptable (type : String)
  | typeNotSubscriptable (type : String)
  /-- An item was asked by name of what has items by number only. -/
  | namedItem (type : String)
  | outOfRange (type : String)
  | noPart (type : String) (name : Text)
  | noPartOfType (type : String) (name : Text)
  /-- A part that there is, but that has no value. -/
  | noValue (name : Text)
  /-- A layout was asked of what has none. -/
  | noLayout (type : String)
  /-- A package of which nothing is known. -/
  | notInstalled (name : String)
  | malformed (m : Toml.Malformed)
  | unknownLevel (name : Text)
  | template (m : Log.Template.Malformed)
  /-- A file that can not be made. -/
  | file (e : FileError) (p : Path)
  | mark (m : CommandLine.Marks.Malformed)
  | mismatch (m : CommandLine.Marks.Mismatch)
  /-- A value that is no integer and can not be made one. -/
  | notInteger (shown : Text)
  | integerExpected (type : String)
  | infiniteInteger
  | undefinedInteger
  | integerTooLarge
  | tooManyDigits (count : Option Nat)
  | notText (shown : Text)
  | rotation (t : Text)
  | retention (t : Text)
  | sizeNumeral (t : Text)
  | durationNumeral (t : Text)
  | durationUnit (t : Text)
  | tooManyDays (days : Int)
  | day (t : Text)
  | time (t : Text)
deriving DecidableEq, Repr

namespace Fault

/-- A text between single quotes, as it is. -/
def between (t : Text) : Text := "'".toText ++ t ++ "'".toText

/-- The wording of surrogates that can not be encoded. -/
def encodingMessage (run : Text.SurrogateRun) : Text :=
  let what :=
    if run.count = 1 then
      "character ".toText ++ Text.quoted [run.first] ++ " in position ".toText ++ Text.ofNat run.start
    else
      "characters in position ".toText ++ Text.ofNat run.start ++ "-".toText ++
        Text.ofNat (run.start + run.count - 1)
  "'utf-8' codec can't encode ".toText ++ what ++ ": surrogates not allowed".toText

/-- The wording of octets that can not be decoded. -/
def decodingMessage (m : Text.Misread) : Text :=
  let what :=
    if m.count = 1 then
      "byte 0x".toText ++ Text.hex 2 m.octet.toNat ++ " in position ".toText ++ Text.ofNat m.start
    else "bytes in position ".toText ++ Text.ofNat m.start ++ "-".toText ++ Text.ofNat (m.start + m.count - 1)
  let why :=
    match m.reason with
    | .start => "invalid start byte"
    | .continuation => "invalid continuation byte"
    | .ending => "unexpected end of data"
  "'utf-8' codec can't decode ".toText ++ what ++ ": ".toText ++ why.toText

/-- The wording of octets that JSON can not show. -/
def misreadMessage (m : Text.Misread) : Text :=
  let what :=
    match m.reason with
    | .ending => "incomplete utf-8 byte sequence".toText
    | _ => "invalid utf-8 sequence of ".toText ++ Text.ofNat m.count ++ " bytes".toText
  what ++ " from index ".toText ++ Text.ofNat m.start

/-- The wording of what JSON can not show. -/
def serializingMessage (why : Text) : Text := "Error serializing to JSON: ".toText ++ why

/-- The wording of an object that some type does not have. -/
def typeMessage (type : String) (rest : Text) : Text := between type.toText ++ " object ".toText ++ rest

/-- The wording of a value that is no set of names; where nothing stands for a value, that is shown and not its
type. -/
def namesMessage (type : String) : Text :=
  let what := if type = "NoneType" then between "None".toText ++ " is".toText else typeMessage type "is".toText
  what ++ " not an instance of 'set'".toText

/-- The wording of arguments that do not fit an operation. -/
def callMessage (o : Operation) (rest : Text) : Text := o.name.toText ++ "() ".toText ++ rest

/-- The wording of too many arguments. -/
def arityMessage (o : Operation) (given : Nat) : Text :=
  "takes from ".toText ++ Text.ofNat o.arity.1 ++ " to ".toText ++ Text.ofNat o.arity.2 ++
    " positional arguments but ".toText ++ Text.ofNat given ++ " were given".toText

/-- The wording of an item that was asked by name. -/
def namedItemMessage (type : String) : Text :=
  if type = "str" then "string indices must be integers, not 'str'".toText
  else type.toText ++ " indices must be integers or slices, not str".toText

/-- The wording of a number that no item has. -/
def rangeMessage (type : String) : Text :=
  (if type = "str" then "string" else type).toText ++ " index out of range".toText

def message : Fault → Text
  | .unknownQop item => "Unsupported SASL quality of protection ".toText ++ between item
  | .invalid .properties errors => FieldError.report Model.properties.title errors
  | .invalid .settings errors => FieldError.headline Model.settings.title errors
  | .notIterable type => typeMessage type "is not iterable".toText
  | .noAttribute type name => typeMessage type ("has no attribute ".toText ++ name.quoted)
  | .constant model name =>
    let owner := model.title.toText
    name.quoted ++ " is a ClassVar of `".toText ++ owner ++
      "` and cannot be set on an instance. If you want to set a value on the class, use `".toText ++
      owner ++ ".".toText ++ name ++ " = value`.".toText
  | .derived model name =>
    "property ".toText ++ between name ++ " of ".toText ++ typeMessage model.title "has no setter".toText
  | .noField model name =>
    "\"".toText ++ model.title.toText ++ "\" object has no field \"".toText ++ name ++ "\"".toText
  | .tableExpected type =>
    Model.tableName ++ " must be set to a dictionary, not a ".toText ++ between type.toText
  | .modelExpected type =>
    Model.modelName ++ " must be set to a class, not ".toText ++ between type.toText ++ " object".toText
  | .modelDeleted => "can't delete ".toText ++ Model.modelName ++ " attribute".toText
  | .notWritable model name =>
    "attribute ".toText ++ between name ++ " of ".toText ++ between model.title.toText ++
      " objects is not writable".toText
  | .modelOnly model name =>
    name.quoted ++ " attribute of ".toText ++ between model.title.toText ++ " is class-only".toText
  | .noSecret type =>
    serializingMessage
      ("PydanticSerializationError: Error calling function `_serialize_secret_field`: AttributeError: ".toText ++
        typeMessage type "has no attribute 'get_secret_value'".toText)
  | .namesExpected type => namesMessage type
  | .notContainer type => "argument of type ".toText ++ between type.toText ++ " is not iterable".toText
  | .notDeletable type => typeMessage type "does not support item deletion".toText
  | .notOrdered left right =>
    "'<' not supported between instances of ".toText ++ between left.toText ++ " and ".toText ++ between right.toText
  | .notCopied => "cannot pickle memoryview objects".toText
  | .textExpected type => "string argument expected, got ".toText ++ between type.toText
  | .unhashable type => "unhashable type: ".toText ++ between type.toText
  | .repeatedArgument name =>
    callMessage .properties ("got multiple values for argument ".toText ++ between name)
  | .tooManyArguments o given => callMessage o (arityMessage o given)
  | .missingArgument =>
    callMessage .properties "missing 1 required positional argument: 'authentication_id'".toText
  | .octetsNeeded => "a bytes-like object is required, not 'str'".toText
  | .notMember shown title => shown ++ " is not a valid ".toText ++ title.toText
  | .unknownKey shown => shown
  | .codeNotEnumerated name => name ++ ".code must be an IntEnum".toText
  | .nullInName => "type name must not contain null characters".toText
  | .unencodable run => encodingMessage run
  | .unserializable run => serializingMessage ("UnicodeEncodeError: ".toText ++ encodingMessage run)
  | .undecodable m => decodingMessage m
  | .unserializableOctets m => serializingMessage (misreadMessage m)
  | .unserializableType type => "Unable to serialize unknown type: <class '".toText ++ type.toText ++ "'>".toText
  | .nullInPath => "embedded null byte".toText
  | .variableName => "illegal environment variable name".toText
  | .emptyVariableName => "[Errno 22] Invalid argument".toText
  | .variableType type => "str expected, not ".toText ++ type.toText
  | .notSubscriptable type => typeMessage type "is not subscriptable".toText
  | .typeNotSubscriptable type => "type ".toText ++ between type.toText ++ " is not subscriptable".toText
  | .namedItem type => namedItemMessage type
  | .outOfRange type => rangeMessage type
  | .noPart type name => typeMessage type ("has no attribute ".toText ++ between name)
  | .noPartOfType type name =>
    "type object ".toText ++ between type.toText ++ " has no attribute ".toText ++ between name
  | .noValue name => name
  | .noLayout type => "unsupported format string passed to ".toText ++ type.toText ++ ".__format__".toText
  | .notInstalled name => "No package metadata was found for ".toText ++ name.toText
  | .malformed m => m.message
  | .unknownLevel name => "Level ".toText ++ between name ++ " does not exist".toText
  | .template m => m.message
  | .file e p => e.message p
  | .mark m => m.message
  | .mismatch m => m.message
  | .notInteger shown => "invalid literal for int() with base 10: ".toText ++ shown
  | .integerExpected type =>
    "int() argument must be a string, a bytes-like object or a real number, not ".toText ++ between type.toText
  | .infiniteInteger => "cannot convert float infinity to integer".toText
  | .undefinedInteger => "cannot convert float NaN to integer".toText
  | .integerTooLarge => "Python int too large to convert to C int".toText
  | .tooManyDigits count => Numeral.limitMessage count
  | .notText shown => shown ++ " is not a string".toText
  | .rotation t => "Cannot parse rotation from: ".toText ++ between t
  | .retention t => "Cannot parse retention from: ".toText ++ between t
  | .sizeNumeral t => "Invalid float value while parsing size: ".toText ++ between t
  | .durationNumeral t => "Invalid float value while parsing duration: ".toText ++ between t
  | .durationUnit t => "Invalid unit value while parsing duration: ".toText ++ between t
  | .tooManyDays days =>
    "days=".toText ++ Text.ofInt days ++ "; must have magnitude <= 999999999".toText
  | .day t => "Invalid day while parsing daytime: ".toText ++ between t
  | .time t => "Invalid time while parsing daytime: ".toText ++ between t

/-- The fault of assigning a name that begins with an underscore, if the object does not just keep the value. -/
def ofNote? (model : Model) (name : Text) (v : Value) : Option Fault :=
  if name = Model.tableName then
    match v with
    | .dict _ => none
    | v => some (.tableExpected v.typeName)
  else if name = Model.modelName then some (.modelExpected v.typeName)
  else if name = Model.weakName then some (.notWritable model name)
  else if name ∈ Model.formerNames then some (.derived model name)
  else none

/-- The domain code and the result code of a fault that has them. -/
def codes? : Fault → Option (DomainCode × ResultCode)
  | .unknownQop _ => some (.invalidQop, .paramError)
  | _ => none

end Fault

end SaslBind
