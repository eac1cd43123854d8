import SaslBind.CommandLine.Help
import SaslBind.CommandLine.Parse
import SaslBind.Session

/-!
# Command lines in a session

Help goes to the output, a usage error to the error sink with the usage in front of it; either ends the
command with an exit status.

* `ExitStatus` : an exit status and the result code that it means;
* `Spec.exit`, `Spec.fail`, `Spec.stop` : the ways in which a command line ends a command;
* `Spec.exitWith` : an exit with a status and a message of any type;
* `Spec.run` : goes on with the values of a command line, if it has any.
-/

namespace SaslBind

namespace CommandLine

/-- The status with which a command exits; a caller may give any value for it. -/
abbrev ExitStatus := Value

/-- The status after help. -/
def helpStatus : ExitStatus := .int 0

/-- The status of a usage error. -/
def usageStatus : ExitStatus := .int 2

/-- What equals 0 comes of asking for help, any other status of a usage error. -/
def ExitStatus.resultCode (status : ExitStatus) : ResultCode :=
  if status.toInt? = some 0 then .success else .paramError

namespace Spec

variable {κ : Type}

def writeUsage (s : Spec κ) (sink : Sink) : Session Unit := Session.write sink s.usage

/-- Writes the help to a sink; without a sink it is not even made. -/
def writeHelp (s : Spec κ) (sink : Sink) : Session Unit := do
  if ← Session.has sink then
    let help ← Session.lift s.helpText
    Session.write sink help

/-- Exits with a status, after a message about it. -/
def exit (status : ExitStatus) (message : Text) : Session ExitStatus := do
  Session.write .err message
  pure status

/-- Writes a message about an exit, if it is worth one; it must be a text. -/
def writeMessage (message : Value) : Session Unit := do
  if message.isVoid then pure ()
  else if ← Session.has .err then
    match message.text? with
    | some t => Session.write .err t
    | none => Session.fail (.textExpected message.typeName)

/-- Exits with arguments: a status, which is that of help if it is not given, and a message. -/
def exitWith (args : List Value) : Session ExitStatus :=
  match args with
  | [] => exit helpStatus []
  | [status] => exit status []
  | [status, message] => do
    writeMessage message
    pure status
  | args => Session.fail (.tooManyArguments .exit (args.length + 1))

/-- Exits because of a usage error. -/
def fail (s : Spec κ) (message : Text) : Session ExitStatus := do
  s.writeUsage .err
  exit usageStatus (s.errorText message)

/-- Exits because a command line has no values. -/
def stop (s : Spec κ) : Stop → Session ExitStatus
  | .help => do
    s.writeHelp .out
    exit helpStatus []
  | .wrong e => s.fail e.message

/-- Goes on with the values of a command line, or exits. -/
def run (s : Spec κ) (tokens : List Text) (go : List (κ × Given) → Session ResultCode) :
    Session ResultCode :=
  match s.parse tokens with
  | .ok values => go values
  | .error why => do
    let status ← s.stop why
    pure (ExitStatus.resultCode status)

end Spec

end CommandLine

end SaslBind
