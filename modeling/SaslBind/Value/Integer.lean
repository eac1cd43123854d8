import SaslBind.Fault
import SaslBind.Text.Word

/-!
# Values as integers

An integer can be made of a number, whose fraction is dropped, and of a text or octets that write one in
decimal: blanks around it do not count, and single underscores may stand between its digits.

* `Value.toInteger` : the integer of a value, or why there is none;
* `Value.toText` : the text that a value is, or that it is none.
-/

namespace SaslBind

namespace Value

/-- Blanks around a numeral; of the controls only those that move the pen count. -/
def isMargin (c : CodePoint) : Bool := c.isBlank && !(0x1C ≤ c.value && c.value ≤ 0x1F)

/-- The text without its margins. -/
def trimmed (t : Text) : Text := ((t.dropWhile isMargin).reverse.dropWhile isMargin).reverse

/-- The digits in front of a text, and the text after them; single underscores between digits are left
out. -/
def integerDigits : Text → List Nat × Text
  | [] => ([], [])
  | c :: rest =>
    match c.decimal? with
    | none => ([], c :: rest)
    | some n =>
      match rest with
      | u :: d :: more =>
        if u = CodePoint.ofChar '_' ∧ d.isDecimal then
          let (ns, after) := integerDigits (d :: more)
          (n :: ns, after)
        else
          let (ns, after) := integerDigits (u :: d :: more)
          (n :: ns, after)
      | rest =>
        let (ns, after) := integerDigits rest
        (n :: ns, after)

/-- How many characters of a text are shown in a fault. -/
def shownLength : Nat := 200

/-- The integer that a text writes; `shown` is how the text is shown in a fault.  An underscore in the wrong
place is found before the digits are counted, anything else after them only then. -/
def integerOfText (shown t : Text) : Except Fault Int :=
  let (sign, rest) := Sign.read (trimmed t)
  let (digits, rest) := integerDigits rest
  let refused : Except Fault Int := .error (.notInteger (shown.take shownLength))
  if rest.head? = some (CodePoint.ofChar '_') then refused
  else if Numeral.digitLimit < digits.length then .error (.tooManyDigits (some digits.length))
  else if digits.isEmpty || !rest.isEmpty then refused
  else .ok (sign.apply (Text.positionalValue 10 digits))

/-- Octets as a text in which those beyond ASCII are no digits. -/
def asciiOf (bs : List UInt8) : Text :=
  bs.map fun b => (CodePoint.ofNat? (if b < 0x80 then b.toNat else 0x3F)).getD default

/-- The integer of a value. -/
def toInteger : Value → Except Fault Int
  | .bool b => .ok (if b then 1 else 0)
  | .int n => .ok n
  | .real .nan => .error .undefinedInteger
  | .real (.infinite _) => .error .infiniteInteger
  | .real (.finite negative m e) =>
    let (up, down) := Binary64.scaling 2 e
    let n : Int := (m * up / down : Nat)
    .ok (if negative then -n else n)
  | .text t => integerOfText t.quoted t
  | .qop q => integerOfText (Value.qop q).repr q.value
  | .octets _ bs => integerOfText (quotedOctets false (bs.take shownLength)) (asciiOf bs)
  | v => .error (.integerExpected v.typeName)

/-- The text that a value is, or the fault that it is none. -/
def toText (v : Value) : Except Fault Text :=
  match v.text? with
  | some t => .ok t
  | none => .error (.notText v.repr)

end Value

end SaslBind
