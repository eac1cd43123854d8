import SaslBind.Number.Binary64

/-!
# Numerals

`Numeral.read?` takes a decimal numeral apart: a sign, the digits before the point, those after it and
an exponent.  Which parts a format demands is for the format to say; `Numeral.toInt` and
`Numeral.toBinary64` give the number.
-/

namespace SaslBind

def CodePoint.digit? (c : CodePoint) : Option Nat :=
  if 0x30 ≤ c.value ∧ c.value ≤ 0x39 then some (c.value - 0x30) else none

def CodePoint.isDigit (c : CodePoint) : Bool := 0x30 ≤ c.value && c.value ≤ 0x39

/-- The number that digits write in a base. -/
def Text.positionalValue (base : Nat) (digits : List Nat) : Nat := digits.foldl (fun n d => n * base + d) 0

/-- The number that ASCII digits write. -/
def Text.digitsValue (t : Text) : Nat := Text.positionalValue 10 (t.filterMap CodePoint.digit?)

/-- An optional sign, then the rest. -/
inductive Sign where
  | none
  | plus
  | minus
deriving DecidableEq, Repr

namespace Sign

/-- The sign in front of a text, and the text after it. -/
def read : Text → Sign × Text
  | [] => (.none, [])
  | c :: t =>
    if c = CodePoint.ofChar '+' then (.plus, t)
    else if c = CodePoint.ofChar '-' then (.minus, t)
    else (.none, c :: t)

/-- The number with this sign. -/
def apply (s : Sign) (n : Nat) : Int := if s = .minus then -n else n

end Sign

/-- The parts of a decimal numeral; a part that is missing is `none`. -/
structure Numeral where
  sign : Sign
  whole : Text
  fraction : Option Text
  exponent : Option (Sign × Text)
deriving DecidableEq, Repr

namespace Numeral

/-- The digits in front of a text and what follows them. -/
def digitRun (t : Text) : Text × Text := (t.takeWhile CodePoint.isDigit, t.dropWhile CodePoint.isDigit)

/-- The exponent that makes up a text; no text is no exponent. -/
def readExponent? : Text → Option (Option (Sign × Text))
  | [] => some none
  | c :: t =>
    if c = CodePoint.ofChar 'e' ∨ c = CodePoint.ofChar 'E' then
      let (sign, t) := Sign.read t
      if t.all CodePoint.isDigit then some (some (sign, t)) else none
    else none

/-- The parts of a numeral that makes up the whole text. -/
def read? (t : Text) : Option Numeral :=
  let (sign, t) := Sign.read t
  let (whole, t) := digitRun t
  match t with
  | [] => some ⟨sign, whole, none, none⟩
  | c :: t =>
    if c = CodePoint.ofChar '.' then
      let (fraction, t) := digitRun t
      (readExponent? t).map fun exponent => ⟨sign, whole, some fraction, exponent⟩
    else
      (readExponent? (c :: t)).map fun exponent => ⟨sign, whole, none, exponent⟩

/-- Digits only, after the sign. -/
def isInteger (n : Numeral) : Bool := n.fraction.isNone && n.exponent.isNone

/-- Whether a digit stands before or after the point, and in the exponent if there is one. -/
def hasDigits (n : Numeral) : Bool :=
  (!n.whole.isEmpty || n.fraction.any (!·.isEmpty)) && n.exponent.all (!·.2.isEmpty)

/-- Whether digits stand in every part that is there. -/
def isComplete (n : Numeral) : Bool :=
  !n.whole.isEmpty && n.fraction.all (!·.isEmpty) && n.exponent.all (!·.2.isEmpty)

/-- A zero in front of another digit. -/
def hasLeadingZero (n : Numeral) : Bool :=
  match n.whole with
  | c :: _ :: _ => c = CodePoint.ofChar '0'
  | _ => false

/-- The most digits of a decimal integer that is converted to a text or from one. -/
def digitLimit : Nat := 4300

/-- The wording about an integer with more digits; their count is known if it is converted from a text. -/
def limitMessage (count : Option Nat) : Text :=
  let counted := match count with
    | some n => ": value has ".toText ++ Text.ofNat n ++ " digits".toText
    | none => []
  "Exceeds the limit (".toText ++ Text.ofNat digitLimit ++ " digits) for integer string conversion".toText ++
    counted ++ "; use sys.set_int_max_str_digits() to increase the limit".toText

/-- The number before the point, with its sign. -/
def toInt (n : Numeral) : Int := n.sign.apply n.whole.digitsValue

/-- The floating-point number nearest to the numeral. -/
def toBinary64 (n : Numeral) : Binary64 :=
  let fraction := n.fraction.getD []
  let exponent : Int := match n.exponent with
    | some (sign, digits) => sign.apply digits.digitsValue
    | none => 0
  .ofDecimal (n.sign = .minus) (n.whole ++ fraction).digitsValue (exponent - fraction.length)

end Numeral

end SaslBind
