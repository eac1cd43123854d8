import SaslBind.Fault
import SaslBind.Text.Entries

/-!
# Environments

The variables that a process finds are octets, and what it reads are texts that carry them.

* `Environment.ofValues` : the environment that values by name make, or why they make none.
-/

namespace SaslBind

/-- Variables by name. -/
abbrev Environment := Entries Text

namespace Environment

/-- A text as it is read after it was written as octets, if it can be. -/
def written (t : Text) : Except Fault Text :=
  match t.foreignRun? with
  | some run => .error (.unencodable run)
  | none => .ok t.carried

/-- Whether a null character is in a text. -/
def hasNull (t : Text) : Bool := t.any (·.value = 0)

/-- A variable of a name and a text as they are read. -/
def checked (name t : Text) : Except Fault (Text × Text) :=
  if hasNull name || hasNull t then .error .nullInPath
  else if CodePoint.ofChar '=' ∈ name then .error .variableName
  else if name.isEmpty then .error .emptyVariableName
  else .ok (name, t)

/-- The variable that a name and a value make. -/
def ofValue (name : Text) (v : Value) : Except Fault (Text × Text) := do
  let name ← written name
  match v.text? with
  | none => throw (.variableType v.typeName)
  | some t => checked name (← written t)

/-- The environment that values by name make; the last one of a name counts. -/
def ofValues (values : Entries Value) : Except Fault Environment := do
  let named ← values.mapM fun (name, v) => ofValue name v
  pure (Entries.overlay [] named)

end Environment

end SaslBind
