import SaslBind.Value

/-!
# Equal values

Values of different types can be equal: numbers by what they count, texts and octets by what is in them.
`Value.equals` decides it.

* a truth value counts as 0 or 1;
* a level equals the text of its value;
* lists equal only lists, and tables are equal whatever the order of their entries is.

Main statement: `Value.equals_text`, a text equals the values that are this text.
-/

namespace SaslBind

namespace Value

/-- The octets that a value shows. -/
def octets? : Value → Option (List UInt8)
  | .octets _ bs => some bs
  | _ => none

/-- The number that a value is, if it is no integer. -/
def fraction? : Value → Option Binary64
  | .real x => if x.toInt?.isSome || x = .nan then none else some x
  | _ => none

/-- Whether two things are there and equal. -/
def agree {α : Type} [BEq α] (a b : Option α) : Bool := a.isSome && a == b

/-- Whether values without items are equal. -/
def equalsPlain (v w : Value) : Bool :=
  match v, w with
  | .null, .null => true
  | .secret bs, .secret cs => bs == cs
  | .secretText t, .secretText u => t == u
  | .stamp s, .stamp t => s.str == t.str && s.typeName == t.typeName
  | .names ts, .names us => ts.all us.contains && us.all ts.contains
  | v, w =>
    agree v.toInt? w.toInt? || agree v.fraction? w.fraction? || agree v.text? w.text? ||
      agree v.octets? w.octets?

mutual

/-- Whether two values are equal. -/
def equals : Value → Value → Bool
  | .list vs, .list ws | .tuple vs, .tuple ws | .iterator vs, .iterator ws => equalsAll vs ws
  | .dict es, .dict fs => es.length = fs.length && equalsEntries fs es
  | v, w => equalsPlain v w

/-- Whether items are equal one by one. -/
def equalsAll : List Value → List Value → Bool
  | [], [] => true
  | v :: vs, w :: ws => equals v w && equalsAll vs ws
  | _, _ => false

/-- Whether a table has an equal value for each of some entries. -/
def equalsEntries (fs : List (Text × Value)) : List (Text × Value) → Bool
  | [] => true
  | (name, v) :: es =>
    (match fs.lookup name with
    | some w => equals v w
    | none => false) && equalsEntries fs es

end

theorem equals_text (t : Text) (v : Value) : (text t).equals v = (some t == v.text?) := by
  cases v <;> simp [equals, equalsPlain, agree, text?, toInt?, fraction?, octets?]

end Value

end SaslBind
