import SaslBind.Text.Span
import SaslBind.Text.Lower

/-!
# Quality of protection

The protection that is negotiated for the traffic after a bind.

* `Qop.decode?` : a level by its value, ignoring case and the blanks around it;
* `Qop.decodeList` : the levels of a comma-separated list, or the first item that is none;
* `Qop.toText` : levels joined by commas.
-/

namespace SaslBind

/-- A quality of protection, that is, a level. -/
inductive Qop where
  /-- Authentication only. -/
  | auth
  /-- Authentication with integrity protection. -/
  | authInt
  /-- Authentication with integrity and confidentiality. -/
  | authConf
deriving DecidableEq, Repr

namespace Qop

def all : List Qop := [.auth, .authInt, .authConf]

def name : Qop → String
  | .auth => "AUTH"
  | .authInt => "AUTH_INT"
  | .authConf => "AUTH_CONF"

def value : Qop → Text
  | .auth => "auth".toText
  | .authInt => "auth-int".toText
  | .authConf => "auth-conf".toText

/-- The level with exactly this value. -/
def ofValue? (t : Text) : Option Qop := all.find? (·.value = t)

/-- The level that a text names, whatever its case and the blanks around it. -/
def decode? (t : Text) : Option Qop := ofValue? t.strip.lower

/-- The levels that the items name, blank items skipped; an error is the first item that names none,
without the blanks around it. -/
def decodeItems : List Text → Except Text (List Qop)
  | [] => .ok []
  | item :: items =>
    if item.isBlank then decodeItems items
    else
      match decode? item with
      | none => .error item.strip
      | some q => (decodeItems items).map (q :: ·)

def decodeList (t : Text) : Except Text (List Qop) := decodeItems (t.split (CodePoint.ofChar ','))

/-- The levels of a list with commas between them. -/
def toText (levels : List Qop) : Text := Text.join ",".toText (levels.map value)

theorem mem_all (q : Qop) : q ∈ all := by cases q <;> decide

@[simp] theorem ofValue?_value (q : Qop) : ofValue? q.value = some q := by cases q <;> decide

end Qop

end SaslBind
