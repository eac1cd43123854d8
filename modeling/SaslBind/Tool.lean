import SaslBind.CommandLine.Screen
import SaslBind.Files.System
import SaslBind.Mechanism
import SaslBind.Properties.Basic

/-!
# The tools

One tool makes bind properties from its options and prints the line about them, never the secret.  The other prints the
names of all mechanisms, one a line, and takes no options.

* `Tool.BindProperties.spec` : the options;
* `Tool.BindProperties.Request` : what the options ask for;
* `Tool.BindProperties.main` : makes the properties.  A password file that can not be read is reported before
  the levels are decoded, and those before the properties are made;
* `Tool.Mechanisms.main` : prints the names of the mechanisms.
-/

namespace SaslBind

namespace Tool

namespace BindProperties

open CommandLine

/-- The name of the tool. -/
def name : Text := "bind-properties".toText

/-- The options of the tool. -/
inductive Key where
  | authid
  | authzid
  | realm
  | password
  | passwordFile
  | qop
deriving DecidableEq, Repr

/-- Of the password and the password file only one may be given. -/
def passwordGroup : Nat := 0

/-- The options, in the order of the help. -/
def options : List (Opt Key) :=
  [⟨.authid, "--authid".toText, "AUTHID".toText,
      "Authentication ID, e.g. 'dn:uid=alice,dc=example,dc=com' or 'u:alice'".toText, true, none⟩,
    ⟨.authzid, "--authzid".toText, "AUTHZID".toText, "Alternate authorization ID".toText, false, none⟩,
    ⟨.realm, "--realm".toText, "REALM".toText, "Realm, server chooses if omitted".toText, false, none⟩,
    ⟨.password, "--password".toText, "PASSWORD".toText, "Password".toText, false, some passwordGroup⟩,
    ⟨.passwordFile, "--password-file".toText, "PASSWORD_FILE".toText,
      "File with password, read as raw bytes".toText, false, some passwordGroup⟩,
    ⟨.qop, "--qop".toText, "QOP".toText,
      "Comma-separated allowed QoP, most preferred first (".toText ++ Qop.toText Qop.all ++ ")".toText,
      false, none⟩]

/-- What the tool takes. -/
def spec : Spec Key where
  program := name
  description := some
    "Build DIGEST-MD5 bind request properties and print them. The password is never printed.".toText
  options := options

/-- The value of an option: the last one that was given. -/
def given? (values : List (Key × Given)) (key : Key) : Option Given := values.reverse.lookup key

/-- An option as a value: what is not given is nothing, and what is no text is an empty list. -/
def valueOf : Option Given → Value
  | none => .null
  | some (.text t) => .text t
  | some .nothing => .list []

/-- What the options ask for, with the password as it is given or as it was read. -/
structure Request where
  authid : Value
  password : Value
  authzid : Value
  realm : Value
  levels : List Qop

/-- The properties that were asked for. -/
def Request.properties (r : Request) : Except Fault Properties :=
  Properties.call [r.authid, r.password]
    [(Field.authorizationId.name.toText, r.authzid), (Field.realm.name.toText, r.realm),
      (Field.allowedQop.name.toText, .list (r.levels.map .qop))]

/-- A method that an empty list does not have. -/
def noMethod (method : String) : Fault := .noAttribute (Value.list []).typeName method.toText

/-- The password: that of the option, or the content of the file. -/
def password (files : FileReader) (values : List (Key × Given)) :
    Except Fault (Except (FileError × Path) Value) :=
  match given? values .passwordFile with
  | none => .ok (.ok (valueOf (given? values .password)))
  | some .nothing => .error (noMethod "read_bytes")
  | some (.text t) =>
    (files (.ofText t)).map fun
      | .ok bs => .ok (.octets .fixed bs)
      | .error e => .error (e, .ofText t)

/-- The path of the password file, if the arguments ask for one. -/
def passwordPath? (args : List Text) : Option Path :=
  match spec.parse args with
  | .ok values =>
    match given? values .passwordFile with
    | some (.text t) => some (.ofText t)
    | _ => none
  | .error _ => none

/-- The levels of the option. -/
def levels (values : List (Key × Given)) : Except Fault (List Qop) :=
  match given? values .qop with
  | none => .ok []
  | some (.text t) => Qop.decodeText t
  | some .nothing => .error (noMethod "split")

/-- What the options ask for. -/
def request (values : List (Key × Given)) (password : Value) : Except Fault Request :=
  (levels values).map fun levels =>
    ⟨valueOf (given? values .authid), password, valueOf (given? values .authzid),
      valueOf (given? values .realm), levels⟩

/-- The line about a rejected value. -/
def rejection (e : FieldError) : Text :=
  "Invalid ".toText ++ e.location ++ ": ".toText ++ e.complaint.message

/-- What comes of a fault: faults of a list of levels and of rejected values are reported. -/
def report (f : Fault) : Session ResultCode :=
  match f with
  | .unknownQop _ => do
    Session.writeLine .err f.message
    pure .paramError
  | .invalid _ es => do
    Session.writeLines .err (es.map rejection)
    pure .paramError
  | f => Session.fail f

/-- What comes of a password file that can not be read. -/
def reportFile (e : FileError) (p : Path) : Session ResultCode := do
  Session.record .error ("Can not read password file: ".toText ++ e.message p)
  Session.writeLine .err ("Unable to read password file: ".toText ++ e.message p)
  pure .localError

/-- Runs the tool on the values of its options, with a way to make properties of a request. -/
def runWith (make : Request → Except Fault Properties) (files : FileReader) (values : List (Key × Given)) :
    Session ResultCode :=
  match password files values with
  | .error f => Session.fail f
  | .ok (.error (e, p)) => reportFile e p
  | .ok (.ok secret) =>
    match (request values secret).bind make with
    | .error f => report f
    | .ok p => do
      let line ← Session.lift p.describe
      Session.writeLine .out line
      pure .success

/-- Runs the tool with a way to make properties of a request. -/
def mainWith (make : Request → Except Fault Properties) (files : FileReader) (args : List Text) :
    Session ResultCode :=
  spec.run args (runWith make files)

/-- Runs the tool. -/
def main (files : FileReader) (args : List Text) : Session ResultCode :=
  mainWith Request.properties files args

end BindProperties

namespace Mechanisms

/-- The name of the tool. -/
def name : Text := "sasl-mechanisms".toText

/-- What the tool takes. -/
def spec : CommandLine.Spec Empty where
  program := name
  description := some "List SASL mechanism names.".toText
  options := []

/-- Runs the tool. -/
def main (args : List Text) : Session ResultCode :=
  spec.run args fun _ => do
    Session.writeLines .out (Mechanism.all.map Mechanism.value)
    pure .success

end Mechanisms

end Tool

end SaslBind
