import SaslBind.Text.Basic

/-!
# Binary floating-point numbers

The numbers of the 64-bit binary format, kept exactly as a sign, a significand and an exponent.

* `Binary64.ofDecimal` : the nearest number to a decimal one, a half going to the even significand;
* `Binary64.shortest` : the fewest decimal digits that read back as the number, and of those the
  nearest;
* `Binary64.text`, `Binary64.briefText` : those digits, positional from 10⁻⁴ or 10⁻⁵ up to 10¹⁶ and with an
  exponent elsewhere;
* `Binary64.toInt?` : the integer that the number is.
-/

namespace SaslBind

/-- A number `± significand · 2 ^ exponent`, an infinity, or no number. -/
inductive Binary64 where
  | nan
  | infinite (negative : Bool)
  | finite (negative : Bool) (significand : Nat) (exponent : Int)
deriving DecidableEq, Repr

namespace Binary64

/-- Whether a number is neither an infinity nor no number. -/
def isFinite : Binary64 → Bool
  | .finite .. => true
  | _ => false

/-- The number of binary digits of a significand. -/
def precision : Nat := 53

def leastExponent : Int := -1074

def greatestExponent : Int := 971

/-- The quotient to the nearest integer, a half to the even one. -/
def roundDiv (n d : Nat) : Nat :=
  let q := n / d
  let r := n % d
  if d < 2 * r ∨ (2 * r = d ∧ q % 2 = 1) then q + 1 else q

/-- The powers of a base that multiply a numerator and a denominator to scale by `base ^ e`. -/
def scaling (base : Nat) (e : Int) : Nat × Nat :=
  (Nat.pow base e.toNat, Nat.pow base (-e).toNat)

/-- The number nearest to a positive fraction. -/
def ofFraction (negative : Bool) (n d : Nat) : Binary64 :=
  let guess : Int := (n.log2 : Int) - d.log2
  let (up, down) := scaling 2 guess
  let top : Int := if n * down < d * up then guess else guess + 1
  let e := max (top - precision) leastExponent
  let (up, down) := scaling 2 e
  let m := roundDiv (n * down) (d * up)
  let (m, e) := if m = Nat.pow 2 precision then (Nat.pow 2 (precision - 1), e + 1) else (m, e)
  if greatestExponent < e then .infinite negative else .finite negative m e

/-- The number nearest to `digits · 10 ^ e`. -/
def ofDecimal (negative : Bool) (digits : Nat) (e : Int) : Binary64 :=
  let magnitude : Int := (Nat.toDigits 10 digits).length + e
  if digits = 0 ∨ magnitude < -400 then .finite negative 0 leastExponent
  else if 400 < magnitude then .infinite negative
  else
    let (up, down) := scaling 10 e
    ofFraction negative (digits * up) down

/-- The integer with this value; `none` for a fraction and for what is not finite. -/
def toInt? : Binary64 → Option Int
  | .finite negative m e =>
    let (up, down) := scaling 2 e
    if m * up % down = 0 then
      let n : Int := (m * up / down : Nat)
      some (if negative then -n else n)
    else none
  | _ => none

/-- The decimals of one grid, `10 ^ g` apart, that stand next to a fraction and lie between the two
bounds over the same denominator; the nearer one, of two equally near the even one. -/
def onGrid? (closed : Bool) (low value high d : Nat) (g : Int) : Option Nat :=
  let (up, down) := scaling 10 g
  let unit := d * up
  let below := value * down / unit
  let inside (k : Nat) : Bool :=
    if closed then low * down ≤ k * unit && k * unit ≤ high * down
    else low * down < k * unit && k * unit < high * down
  let nearBelow := 2 * (value * down % unit)
  match inside below, inside (below + 1) with
  | false, false => none
  | true, false => some below
  | false, true => some (below + 1)
  | true, true =>
    some (if nearBelow < unit ∨ (nearBelow = unit ∧ below % 2 = 0) then below else below + 1)

/-- The first grid with a decimal on it, from `digits` digits on; `digits · 10 ^ exponent`. -/
def shortestFrom (closed : Bool) (low value high d : Nat) (top : Int) : Nat → Nat → Nat × Int
  | 0, _ => (0, 0)
  | more + 1, digits =>
    match onGrid? closed low value high d (top - digits) with
    | some k => (k, top - digits)
    | none => shortestFrom closed low value high d top more (digits + 1)

/-- The shortest decimal `digits · 10 ^ exponent` that reads back as a positive significand and its
exponent. -/
def shortest (m : Nat) (e : Int) : Nat × Int :=
  let (up, down) := scaling 2 (e - 2)
  let gap := if m = Nat.pow 2 (precision - 1) ∧ leastExponent < e then 1 else 2
  let value := 4 * m * up
  let top : Int := (Nat.toDigits 10 (value * Nat.pow 10 400 / down)).length - 400
  shortestFrom (m % 2 = 0) ((4 * m - gap) * up) value ((4 * m + 2) * up) down top 17 1

/-- Decimal digits with the point after the first `point` of them, at least one digit on each side. -/
def positional (digits : Text) (point : Int) : Text :=
  let zero := CodePoint.ofChar '0'
  let dot := CodePoint.ofChar '.'
  if point ≤ 0 then zero :: dot :: List.replicate (-point).toNat zero ++ digits
  else
    let before := digits.take point.toNat
    let after := digits.drop point.toNat
    before ++ List.replicate (point.toNat - before.length) zero ++
      dot :: (if after.isEmpty then [zero] else after)

/-- One digit before the point, and the digits after it. -/
def mantissa (digits : Text) : Text :=
  digits.take 1 ++ (if digits.length ≤ 1 then [] else CodePoint.ofChar '.' :: digits.drop 1)

/-- One digit before the point, and an exponent with a sign and at least two digits. -/
def scientific (digits : Text) (e : Int) : Text :=
  let written := Text.ofNat e.natAbs
  mantissa digits ++ [CodePoint.ofChar 'e', CodePoint.ofChar (if e < 0 then '-' else '+')] ++
    List.replicate (2 - written.length) (CodePoint.ofChar '0') ++ written

/-- One digit before the point, and an exponent as an integer is written. -/
def briefScientific (digits : Text) (e : Int) : Text :=
  mantissa digits ++ CodePoint.ofChar 'e' :: Text.ofInt e

/-- The digits without the zeros at their end, and how many those were. -/
def trimZeros (digits : Text) : Text × Nat :=
  let zeros := (digits.reverse.takeWhile (· = CodePoint.ofChar '0')).length
  (digits.take (digits.length - zeros), zeros)

/-- The shortest text of a number: its digits as `write` puts them, given where the point is, after a sign. -/
def textWith (write : Text → Int → Text) : Binary64 → Text
  | .nan => "nan".toText
  | .infinite negative => if negative then "-inf".toText else "inf".toText
  | .finite negative m e =>
    let sign : Text := if negative then "-".toText else []
    if m = 0 then sign ++ "0.0".toText
    else
      let (k, g) := shortest m e
      let (digits, zeros) := trimZeros (Text.ofNat k)
      sign ++ write digits (digits.length + zeros + g)

/-- The shortest text that reads back as the number. -/
def text : Binary64 → Text :=
  textWith fun digits point =>
    if -4 < point ∧ point ≤ 16 then positional digits point else scientific digits (point - 1)

/-- The shortest text that reads back as the number, with the exponent as an integer. -/
def briefText : Binary64 → Text :=
  textWith fun digits point =>
    if -5 < point ∧ point ≤ 16 then positional digits point else briefScientific digits (point - 1)

end Binary64

end SaslBind
