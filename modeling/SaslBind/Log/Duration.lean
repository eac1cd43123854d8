import SaslBind.Fault
import SaslBind.Number.Arithmetic
import SaslBind.Text.Span
import SaslBind.Text.Word

/-!
# Durations

Sizes and durations are written with quantities: numbers of the decimal digits of any script, with signs,
points and exponents.  Case does not count in the letters around them.

A duration is a sequence of quantities with their units, and blanks and commas may stand between them.
Which texts look like durations is a matter of their letters only, and then the quantities are those that
a unit follows; so words between them do no harm where they can be read as a unit and an `e`.

* `Log.letter?` : the letter that a character is;
* `Log.number?` : the number that a quantity is;
* `Duration.looksLike` : whether a text looks like a duration;
* `Duration.parts` : its quantities and units;
* `Duration.read` : the duration that a text is, in microseconds.
-/

namespace SaslBind

namespace Log

/-- The ASCII letter that a character is when case does not count. -/
def letter? (c : CodePoint) : Option Char :=
  if 0x61 ≤ c.value ∧ c.value ≤ 0x7A then some (Char.ofNat c.value)
  else if 0x41 ≤ c.value ∧ c.value ≤ 0x5A then some (Char.ofNat (c.value + 0x20))
  else if c.value = 0x130 ∨ c.value = 0x131 then some 'i'
  else if c.value = 0x17F then some 's'
  else if c.value = 0x212A then some 'k'
  else none

/-- Whether a character is this letter when case does not count. -/
def isLetter (letter : Char) (c : CodePoint) : Bool := letter? c = some letter

/-- The characters of a quantity. -/
def isQuantity (c : CodePoint) : Bool :=
  isLetter 'e' c || c.isDecimal || "+-.".toText.contains c

/-- A decimal digit of any script as one of ASCII. -/
def asciiDigit (c : CodePoint) : CodePoint :=
  match decimalSpans.find? fun s => s.first ≤ c.value && c.value ≤ s.last with
  | some s => c.ofNatOr (0x30 + (c.value - s.first) % 10)
  | none => c

/-- The number that a quantity is. -/
def number? (t : Text) : Option Binary64 :=
  match Numeral.read? (t.map asciiDigit) with
  | some n => if n.hasDigits then some n.toBinary64 else none
  | none => none

/-- The text after blanks. -/
def skipBlanks (t : Text) : Text := t.dropWhile CodePoint.isBlank

/-- The text after a letter, or the text itself if another character comes. -/
def skipLetter (letters : List Char) (t : Text) : Text :=
  match t with
  | [] => []
  | c :: rest => if letters.any (isLetter · c) then rest else t

namespace Duration

/-- Whether a character may be part of a unit. -/
def isUnit (c : CodePoint) : Bool := (letter? c).isSome

/-- Whether a character may stand between a unit and the next quantity. -/
def isSeparator (c : CodePoint) : Bool := c.isBlank || c = CodePoint.ofChar ','

/-! ### What looks like a duration -/

/-- The parts of a duration in which a reading may be after some characters. -/
structure Reach where
  quantity : Bool
  /-- Between a quantity and its unit. -/
  blank : Bool
  unit : Bool
  separator : Bool
deriving DecidableEq, Repr

/-- Where a reading may be after one more character. -/
def Reach.step (r : Reach) (c : CodePoint) : Reach where
  quantity := isQuantity c && (r.quantity || r.unit || r.separator)
  blank := c.isBlank && (r.quantity || r.blank)
  unit := isUnit c && (r.quantity || r.blank || r.unit)
  separator := isSeparator c && (r.unit || r.separator)

/-- Whether a text looks like a duration. -/
def looksLike : Text → Bool
  | [] => false
  | c :: t =>
    let last := t.foldl Reach.step ⟨true, false, false, false⟩
    isQuantity c && (last.unit || last.separator)

/-! ### Parts -/

/-- A quantity with its unit. -/
structure Part where
  quantity : Text
  unit : Text
deriving DecidableEq, Repr

/-- A quantity of the first `n` characters with the unit after it, and how many characters both take. -/
def partAt? (t : Text) (n : Nat) : Option (Part × Nat) :=
  let rest := t.drop n
  let blanks := (rest.takeWhile CodePoint.isBlank).length
  let unit := (rest.drop blanks).takeWhile isUnit
  if unit.isEmpty then none else some (⟨t.take n, unit⟩, n + blanks + unit.length)

/-- The part that begins a text, with the longest quantity of at most `n` characters. -/
def longestPart? (t : Text) : Nat → Option (Part × Nat)
  | 0 => none
  | n + 1 => (partAt? t (n + 1)).or (longestPart? t n)

/-- The parts of a text from left to right; `skip` characters are still to pass. -/
def partsFrom (skip : Nat) : Text → List Part
  | [] => []
  | c :: t =>
    match skip with
    | skip + 1 => partsFrom skip t
    | 0 =>
      match longestPart? (c :: t) ((c :: t).takeWhile isQuantity).length with
      | some (part, length) => part :: partsFrom (length - 1) t
      | none => partsFrom 0 t

def parts (t : Text) : List Part := partsFrom 0 t

/-! ### Values -/

/-- The number of seconds in a unit, as a decimal: digits and the exponent of ten. -/
def units : List (List String × Nat × Int) :=
  [(["y", "year", "years"], 31536000, 0), (["month", "months"], 2628000, 0),
    (["w", "week", "weeks"], 604800, 0), (["d", "day", "days"], 86400, 0),
    (["h", "hour", "hours"], 3600, 0), (["min", "mins", "minute", "minutes"], 60, 0),
    (["s", "sec", "secs", "second", "seconds"], 1, 0), (["ms", "millisecond", "milliseconds"], 1, -3),
    (["us", "microsecond", "microseconds"], 1, -6)]

/-- The number of seconds in the unit of this name. -/
def unitSeconds? (t : Text) : Option Binary64 :=
  let isName (u : String) : Bool := t.map letter? = u.toList.map some
  (units.find? (·.1.any isName)).map fun (_, digits, exponent) => .ofDecimal false digits exponent

/-- The number of seconds of a part. -/
def Part.seconds (p : Part) : Except Fault Binary64 :=
  match number? p.quantity, unitSeconds? p.unit with
  | none, _ => .error (.durationNumeral p.quantity)
  | some _, none => .error (.durationUnit p.unit)
  | some n, some unit => .ok (n.mul unit)

/-- The number of seconds of parts, added to those so far. -/
def totalFrom (sum : Binary64) : List Part → Except Fault Binary64
  | [] => .ok sum
  | p :: ps => do totalFrom (sum.add (← p.seconds)) ps

def million : Nat := 1000000

/-- A fraction of a second `m · 2 ^ e` in microseconds, after whole ones: the product is taken to the
nearest number of the format first, and then to the nearest integer, a half to the even total. -/
def addFraction (whole m : Nat) (e : Int) : Nat :=
  match (Binary64.ofScaled false m e).mul (.ofNat million) with
  | .finite _ n f =>
    let (up, down) := Binary64.scaling 2 f
    Binary64.roundDiv (whole * down + n * up) down
  | _ => whole

/-- Seconds in whole microseconds. -/
def microseconds : Binary64 → Except Fault Int
  | .nan => .error .undefinedInteger
  | .infinite _ => .error .infiniteInteger
  | .finite negative m e =>
    let whole := Binary64.whole m e * million
    .ok (Binary64.signed negative (addFraction whole (Binary64.fraction m e) e))

/-- The most days of a duration, in either direction. -/
def mostDays : Int := 999999999

/-- The bound of the integers that days are counted with. -/
def dayBound : Int := Int.pow 2 31

/-- A duration in microseconds must not have too many days. -/
def checkDays (microseconds : Int) : Except Fault Unit :=
  let days := microseconds.fdiv (86400 * million)
  if days < -dayBound ∨ dayBound ≤ days then .error .integerTooLarge
  else if days < -mostDays ∨ mostDays < days then .error (.tooManyDays days)
  else .ok ()

/-- The duration that a text is, in microseconds; a fault if it looks like one and is none. -/
def read (t : Text) : Except Fault (Option Int) :=
  let t := t.strip
  if looksLike t then do
    let length ← microseconds (← totalFrom (Binary64.zero false) (parts t))
    checkDays length
    pure (some length)
  else .ok none

end Duration

end Log

end SaslBind
