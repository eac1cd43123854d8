import SaslBind.Number.Numeral
import SaslBind.Qop
import SaslBind.Stamp
import SaslBind.Text.Quoted

/-!
# Values of any type

What callers hand in and what settings hold is not known to be of the right type before it is looked
at.  `Value` is the type of all of it.

* `Value.typeName` : the name of a value's type in messages;
* `Value.repr`, `Value.str` : the two texts of a value, one that shows its type and one that does not;
* `Value.text?` : the text that a value is;
* `Value.isVoid` : whether nothing is in a value;
* `Value.items?` : what comes out of a value that can be iterated.
-/

namespace SaslBind

/-- The three types of octets: fixed, changeable, or a view of those of another value. -/
inductive OctetKind where
  | fixed
  | changeable
  | view
deriving DecidableEq, Repr

/-- A value of any type. -/
inductive Value where
  | null
  | bool (b : Bool)
  | int (n : Int)
  | real (x : Binary64)
  | text (t : Text)
  | qop (q : Qop)
  | octets (kind : OctetKind) (bs : List UInt8)
  /-- Octets that no text shows. -/
  | secret (bs : List UInt8)
  /-- A text that no text shows. -/
  | secretText (t : Text)
  | list (items : List Value)
  | tuple (items : List Value)
  /-- What can be gone through once. -/
  | iterator (items : List Value)
  | dict (entries : List (Text × Value))
  /-- Names in no order. -/
  | names (ts : List Text)
  | stamp (s : Stamp)
deriving Repr, Inhabited

namespace Value

/-- The name of the value's type. -/
def typeName : Value → String
  | .null => "NoneType"
  | .bool _ => "bool"
  | .int _ => "int"
  | .real _ => "float"
  | .text _ => "str"
  | .qop _ => "SASLQualityOfProtection"
  | .octets .fixed _ => "bytes"
  | .octets .changeable _ => "bytearray"
  | .octets .view _ => "memoryview"
  | .secret _ => "SecretBytes"
  | .secretText _ => "SecretStr"
  | .list _ => "list"
  | .tuple _ => "tuple"
  | .iterator _ => "list_iterator"
  | .dict _ => "dict"
  | .names _ => "set"
  | .stamp s => s.typeName

/-- A word for a truth value. -/
def boolText (b : Bool) : Text := if b then "True".toText else "False".toText

/-- What stands for a secret: ten asterisks, or nothing when the secret is empty. -/
def mask (isEmpty : Bool) : Text := if isEmpty then [] else "**********".toText

mutual

/-- The text of a value that shows its type. -/
def repr : Value → Text
  | .null => "None".toText
  | .bool b => boolText b
  | .int n => Text.ofInt n
  | .real x => x.text
  | .text t => t.quoted
  | .qop q =>
    "<SASLQualityOfProtection.".toText ++ q.name.toText ++ ": ".toText ++ q.value.quoted ++ ">".toText
  | .octets .fixed bs => quotedOctets false bs
  | .octets .changeable bs => "bytearray(".toText ++ quotedOctets true bs ++ ")".toText
  | .octets .view _ => "<memory>".toText
  | .secret bs => "SecretBytes(b".toText ++ (mask bs.isEmpty).quoted ++ ")".toText
  | .secretText t => "SecretStr(".toText ++ (mask t.isEmpty).quoted ++ ")".toText
  | .list items => "[".toText ++ reprItems items ++ "]".toText
  | .tuple [item] => "(".toText ++ repr item ++ ",)".toText
  | .tuple items => "(".toText ++ reprItems items ++ ")".toText
  | .iterator _ => "<list_iterator>".toText
  | .dict entries => "\x7b".toText ++ reprEntries entries ++ "\x7d".toText
  | .names [] => "set()".toText
  | .names ts => "\x7b".toText ++ Text.join ", ".toText (ts.map Text.quoted) ++ "\x7d".toText
  | .stamp s => s.repr

/-- The items of a list with commas between them. -/
def reprItems : List Value → Text
  | [] => []
  | [v] => repr v
  | v :: w :: vs => repr v ++ ", ".toText ++ reprItems (w :: vs)

/-- The entries of a dictionary with commas between them. -/
def reprEntries : List (Text × Value) → Text
  | [] => []
  | [(k, v)] => k.quoted ++ ": ".toText ++ repr v
  | (k, v) :: e :: es => k.quoted ++ ": ".toText ++ repr v ++ ", ".toText ++ reprEntries (e :: es)

end

/-- The text of a value by itself. -/
def str : Value → Text
  | .text t => t
  | .qop q => q.value
  | .secret bs => if bs.isEmpty then "b''".toText else "b'**********'".toText
  | .secretText t => mask t.isEmpty
  | .stamp s => s.str
  | v => v.repr

mutual

/-- Whether a text of the value would have an integer in it with more digits than are converted. -/
def isTooLong : Value → Bool
  | .int n => decide (Nat.pow 10 Numeral.digitLimit ≤ n.natAbs)
  | .list items | .tuple items => anyTooLong items
  | .dict entries => anyEntryTooLong entries
  | _ => false

/-- Whether one of some items is too long. -/
def anyTooLong : List Value → Bool
  | [] => false
  | v :: vs => isTooLong v || anyTooLong vs

/-- Whether the value of an entry is too long. -/
def anyEntryTooLong : List (Text × Value) → Bool
  | [] => false
  | (_, v) :: es => isTooLong v || anyEntryTooLong es

end

theorem isTooLong_int {n : Nat} (h : Nat.pow 10 Numeral.digitLimit ≤ n) : (int n).isTooLong = true := by
  rw [isTooLong, Int.natAbs_natCast]
  exact decide_eq_true h

/-- The text that the value is; a level is the text of its value. -/
def text? : Value → Option Text
  | .text t => some t
  | .qop q => some q.value
  | _ => none

/-- What comes out of the value item by item; `none` if it can not be iterated. -/
def items? : Value → Option (List Value)
  | .text t => some (t.map fun c => .text [c])
  | .qop q => some (q.value.map fun c => .text [c])
  | .octets _ bs => some (bs.map fun b => .int b.toNat)
  | .list items | .tuple items | .iterator items => some items
  | .dict entries => some (entries.map fun e => .text e.1)
  | .names ts => some (ts.map .text)
  | _ => none

/-- Whether nothing is in the value: no, zero, no characters, no items. -/
def isVoid : Value → Bool
  | .null => true
  | .bool b => !b
  | .int n => n = 0
  | .real x => x.toInt? = some 0
  | .text t | .secretText t => t.isEmpty
  | .octets _ bs | .secret bs => bs.isEmpty
  | .list items | .tuple items => items.isEmpty
  | .dict entries => entries.isEmpty
  | .names ts => ts.isEmpty
  | .qop _ | .iterator _ | .stamp _ => false

/-- The integer that the value equals; truth values count as 0 and 1. -/
def toInt? : Value → Option Int
  | .bool b => some (if b then 1 else 0)
  | .int n => some n
  | .real x => x.toInt?
  | _ => none

/-- A constant text. -/
def word (s : String) : Value := .text s.toText

end Value

end SaslBind
