import SaslBind.Settings
import SaslBind.Files.System
import SaslBind.Tool

/-!
# The launcher

The launcher runs one of several tools, which its first argument names; upper and lower case do not
matter.  Without arguments, or when asked for the version, it prints lines about itself.

* `Launcher.resolve` : what the arguments ask for;
* `Launcher.main` : does it.

Tools are put into a table with `Entries.put`.
-/

namespace SaslBind

namespace Launcher

def versionName : Text := "version".toText

/-- A tool takes arguments and ends with a result code. -/
abbrev Tool := List Text → Session ResultCode

/-- Tools by name, in the order in which they are listed. -/
abbrev Table := Entries Tool

/-- The names of the tools that come with the launcher. -/
def toolNames : List Text := [Tool.BindProperties.name, Tool.Mechanisms.name]

def tools (files : FileReader) : Table :=
  [(Tool.BindProperties.name, Tool.BindProperties.main files),
    (Tool.Mechanisms.name, Tool.Mechanisms.main)]

/-- The names that are listed: those of the tools, and the one that asks for the version. -/
def names (tools : Table) : List Text := tools.map (·.1) ++ [versionName]

/-- What the arguments ask for. -/
inductive Command where
  | version
  | tool (name : Text) (args : List Text)
  | unknown (name : Text)
deriving DecidableEq, Repr

/-- What arguments ask for, when there are tools of these names. -/
def resolve (names : List Text) : List Text → Command
  | [] => .version
  | name :: args =>
    if name.lower = versionName then .version
    else if name.lower ∈ names then .tool name.lower args
    else .unknown name

def printVersion (settings : Except Fault Settings) : Session ResultCode := do
  let settings ← Session.lift settings
  let lines ← Session.lift settings.versionLines
  Session.writeLines .out lines
  pure .success

def reportUnknown (tools : Table) (name : Text) : Session ResultCode := do
  let message := "Unrecognized tool name '".toText ++ name ++ "'".toText
  Session.record .warning message
  Session.writeLine .err message
  Session.writeLine .err "Supported tool names include:".toText
  Session.writeLines .err ((names tools).map ("     ".toText ++ ·))
  pure .paramError

/-- What is logged of a tool before it is run. -/
def runningMessage (name : Text) (args : List Text) : Text :=
  "Running ".toText ++ name ++ " with ".toText ++ Text.ofNat args.length ++ " arguments".toText

def runTool (name : Text) (tool : Tool) (args : List Text) : Session ResultCode := do
  Session.record .debug (runningMessage name args)
  let code ← tool args
  Session.record .debug (name ++ " finished with ".toText ++ code.name.toText)
  pure code

/-- Does what the arguments ask for.  Settings are taken from `settings` only for the version. -/
def main (tools : Table) (settings : Except Fault Settings) (args : List Text) : Session ResultCode :=
  match resolve (tools.map (·.1)) args with
  | .version => printVersion settings
  | .unknown name => reportUnknown tools name
  | .tool name args =>
    match tools.lookup name with
    | some tool => runTool name tool args
    | none => reportUnknown tools name

/-- What happens before anything is read: the record about the tool that is run. -/
def opening (args : List Text) : List Event :=
  match resolve toolNames args with
  | .tool name args => [.record ⟨.debug, runningMessage name args⟩]
  | _ => []

/-- The path of the file that is read, if there is one: that of the password. -/
def readPath? (args : List Text) : Option Path :=
  match resolve toolNames args with
  | .tool name args => if name = Tool.BindProperties.name then Tool.BindProperties.passwordPath? args else none
  | _ => none

end Launcher

end SaslBind
