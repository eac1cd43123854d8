import SaslBind.Environment
import SaslBind.Text.Upper
import SaslBind.FieldError
import SaslBind.Toml.Reader

/-!
# Settings

What the tools can be told from outside, in most cases by the environment.

* `Settings.construct`, `Settings.ofEnvironment` : settings from values by name, each checked by the
  rule of its field;
* `Settings.versionLines` : what is printed about the version;
* `Settings.lookupVersion` : the version that a project document gives, or else the installed package.

The version is looked up only if it is not given, and a failure of that hides what is wrong with other
values.
-/

namespace SaslBind

/-- A field of the settings. -/
inductive Setting where
  | debug
  | logLevel
  | logFile
  | logRetention
  | logRotation
  | version
deriving DecidableEq, Repr

namespace Setting

def all : List Setting := [.debug, .logLevel, .logFile, .logRetention, .logRotation, .version]

def name : Setting → String
  | .debug => "DEBUG"
  | .logLevel => "LOG_LEVEL"
  | .logFile => "LOG_FILE"
  | .logRetention => "LOG_RETENTION"
  | .logRotation => "LOG_ROTATION"
  | .version => "VENDOR_VERSION"

def key : Setting → String
  | .version => "VERSION"
  | s => s.name

def ofName? (t : Text) : Option Setting := all.find? (·.name.toText = t)

/-! ### Truth values -/

def falseWords : List Text := ["0", "off", "f", "false", "n", "no"].map String.toText

def trueWords : List Text := ["1", "on", "t", "true", "y", "yes"].map String.toText

/-- The ASCII letters of a text in lower case. -/
def lowerAscii (t : Text) : Text :=
  t.map fun c => if 0x41 ≤ c.value ∧ c.value ≤ 0x5A then c.ofNatOr (c.value + 0x20) else c

/-- The truth value that a word stands for. -/
def truthOfWord (t : Text) : Except Complaint Bool :=
  if lowerAscii t ∈ falseWords then .ok false
  else if lowerAscii t ∈ trueWords then .ok true
  else .error .notTruth

/-- The truth value of an integer: 0 or 1. -/
def truthOfInt (n : Int) : Except Complaint Bool :=
  if n = 0 then .ok false else if n = 1 then .ok true else .error .notTruth

/-- The bound of machine integers; numbers beyond it are not taken for integers. -/
def machineBound : Int := Int.pow 2 63

/-- The truth value that a field of truth values makes of a value. -/
def checkTruth (v : Value) : Except Complaint Bool :=
  match v with
  | .bool b => .ok b
  | .text t => if t.hasSurrogate then .error .textNotUtf8 else truthOfWord t
  | .qop q => truthOfWord q.value
  | .octets .fixed bs =>
    match Text.decode? bs with
    | some t => truthOfWord t
    | none => .error .notTruth
  | .int n => if -machineBound ≤ n ∧ n < machineBound then truthOfInt n else .error .truthExpected
  | .real x =>
    match x.toInt? with
    | some n => if -machineBound < n ∧ n < machineBound then truthOfInt n else .error .truthExpected
    | none => .error .truthExpected
  | _ => .error .truthExpected

/-! ### Checks and defaults -/

/-- What a field stores for a value. -/
def check (s : Setting) (v : Value) : Except Complaint Value :=
  match s with
  | .debug => (checkTruth v).map .bool
  | .logLevel =>
    -- any value has a text, but an integer in it may have too many digits to be written
    if v.isTooLong then .error (.rule (Numeral.limitMessage none)) else .ok (.text v.str.upper)
  | .logFile =>
    match v with
    | .null => .ok .null
    | v => v.checkText.map .text
  | .logRetention | .logRotation | .version => v.checkText.map .text

/-- What a field stores if it is not given; the version is looked up. -/
def unset (lookup : Except Fault Value) : Setting → Except Fault Value
  | .debug => .ok (.bool false)
  | .logLevel => .ok (.word "INFO")
  | .logFile => .ok .null
  | .logRetention => .ok (.word "10 days")
  | .logRotation => .ok (.word "1d")
  | .version => lookup

end Setting

/-- The settings; the version may be a value of any type. -/
structure Settings where
  debug : Value
  logLevel : Value
  logFile : Value
  logRetention : Value
  logRotation : Value
  version : Value
deriving Repr

/-- Where the version is looked up: in the document of the project if there is one, which is octets, and else in what
is known of the installed package, if it is installed. -/
structure VersionSource where
  document : Option (List UInt8)
  package : Option Text
deriving Repr

namespace Settings

def get (s : Settings) : Setting → Value
  | .debug => s.debug
  | .logLevel => s.logLevel
  | .logFile => s.logFile
  | .logRetention => s.logRetention
  | .logRotation => s.logRotation
  | .version => s.version

/-- What the value of a field comes to: a value, an error of the field, or a fault. -/
inductive Outcome where
  | value (v : Value)
  | error (e : FieldError)
  | fault (f : Fault)

/-- What is stored in a field. -/
def outcome (values : List (Text × Value)) (lookup : Except Fault Value) (s : Setting) : Outcome :=
  match values.lookup s.key.toText with
  | some v =>
    match s.check v with
    | .ok v => .value v
    | .error c => .error ⟨[.name s.key.toText], c⟩
  | none =>
    match s.unset lookup with
    | .ok v => .value v
    | .error f => .fault f

/-- The value of an outcome. -/
def Outcome.value? : Outcome → Option Value
  | .value v => some v
  | _ => none

/-- The error of an outcome. -/
def Outcome.error? : Outcome → Option FieldError
  | .error e => some e
  | _ => none

/-- The fault of an outcome. -/
def Outcome.fault? : Outcome → Option Fault
  | .fault f => some f
  | _ => none

/-- Settings from values by name; names that are no fields are left out. -/
def construct (values : List (Text × Value)) (lookup : Except Fault Value) : Except Fault Settings :=
  let outcome := outcome values lookup
  match (Setting.all.map outcome).findSome? Outcome.fault?, (Setting.all.map outcome).filterMap Outcome.error? with
  | some f, _ => .error f
  | none, [] =>
    let stored (s : Setting) : Value := (outcome s).value?.getD .null
    .ok ⟨stored .debug, stored .logLevel, stored .logFile, stored .logRetention, stored .logRotation,
      stored .version⟩
  | none, es => .error (.invalid .settings es)

/-- A line about the version: a label and a value, which must not be too long. -/
def versionLine (label : String) (v : Value) : Except Fault Text :=
  if v.isTooLong then .error (.tooManyDigits none) else .ok (label.toText ++ v.str)

/-- What is printed about a version of a product. -/
def linesAbout (full short version : Value) : Except Fault (List Text) := do
  let first ← versionLine "Full Name:  " full
  let second ← versionLine "Short Name:  " short
  let third ← versionLine "Version Number:  " version
  pure [first, second, third]

/-- What is printed about the version. -/
def versionLines (s : Settings) : Except Fault (List Text) :=
  linesAbout (.word Model.fullName) (.word Model.shortName) s.version

/-- The value under a name in a value that should be a table. -/
def part (name : String) : Value → Except Fault Value
  | .dict entries =>
    match entries.lookup name.toText with
    | some v => .ok v
    | none => .error (.unknownKey name.toText.quoted)
  | .text _ => .error (.namedItem "str")
  | .list _ => .error (.namedItem "list")
  | v => .error (.notSubscriptable v.typeName)

/-- The version in the text of a project document. -/
def versionIn (document : Text) : Except Fault Value :=
  match Toml.read document with
  | .error m => .error (.malformed m)
  | .ok table => (part "project" (.dict table)).bind (part "version")

/-- The version of a project document, or else of the installed package. -/
def lookupVersion (source : VersionSource) : Except Fault Value :=
  match source.document, source.package with
  | some octets, _ => ((Text.decodeStrict octets).mapError .undecodable).bind versionIn
  | none, some version => .ok (.text version)
  | none, none => .error (.notInstalled Model.shortName)

/-- The settings that an environment gives. -/
def ofEnvironment (environment : Environment) (source : VersionSource) : Except Fault Settings :=
  construct (environment.map fun (k, v) => (k, .text v)) (lookupVersion source)

end Settings

end SaslBind
