import SaslBind.Text.Basic

/-!
# Log levels and records

A record has a level and a message.  What is asked to show records from some level on shows those whose
severity is at least that of the level.
-/

namespace SaslBind

namespace Log

/-- How important a record is. -/
inductive Level where
  | trace
  | debug
  | info
  | success
  | warning
  | error
  | critical
deriving DecidableEq, Repr

namespace Level

def all : List Level := [.trace, .debug, .info, .success, .warning, .error, .critical]

def name : Level → String
  | .trace => "TRACE"
  | .debug => "DEBUG"
  | .info => "INFO"
  | .success => "SUCCESS"
  | .warning => "WARNING"
  | .error => "ERROR"
  | .critical => "CRITICAL"

/-- The number by which levels compare. -/
def severity : Level → Nat
  | .trace => 5
  | .debug => 10
  | .info => 20
  | .success => 25
  | .warning => 30
  | .error => 40
  | .critical => 50

def ofName? (t : Text) : Option Level := all.find? (·.name.toText = t)

/-- Whether a record of this level is shown from the other level on. -/
def shownFrom (level threshold : Level) : Bool := threshold.severity ≤ level.severity

end Level

/-- A log record. -/
structure Record where
  level : Level
  message : Text
deriving DecidableEq, Repr

def Record.line (r : Record) : Text :=
  "[".toText ++ r.level.name.toText ++ "] ".toText ++ r.message ++ "\n".toText

end Log

end SaslBind
