import SaslBind.Number.Binary64

/-!
# Whole numbers with places after the point

A whole number can be written with a point and places after it, with an exponent, or in the shorter of
the two ways.  The digits before the point stand apart from all that comes after them.

* `Places.leading` : the first digits of a number, the last of them to the nearest, a half to the even one;
* `Places.fixed`, `Places.scientific`, `Places.general` : the three ways.
-/

namespace SaslBind

def Text.zeros (n : Nat) : Text := List.replicate n (CodePoint.ofChar '0')

/-- A number in at least so many digits. -/
def Text.padded (width n : Nat) : Text :=
  let digits := Text.ofNat n
  Text.zeros (width - digits.length) ++ digits

namespace Places

/-- The digits before the point, and what is written after them. -/
structure Written where
  whole : Text
  rest : Text
deriving DecidableEq, Repr

/-- The first digits of a number, zeros following the last one, and how many digits stand after the first
one in the number. -/
def leading (count n : Nat) : Text × Nat :=
  let digits := Text.ofNat n
  if digits.length ≤ count then (digits ++ Text.zeros (count - digits.length), digits.length - 1)
  else
    let rounded := Text.ofNat (Binary64.roundDiv n (Nat.pow 10 (digits.length - count)))
    (rounded.take count, digits.length - 1 + (rounded.length - count))

/-- A point and the places after it; without places it stands only if it is `kept`. -/
def point (kept : Bool) (places : Text) : Text :=
  if places.isEmpty && !kept then [] else CodePoint.ofChar '.' :: places

/-- An exponent after its letter. -/
def exponent (letter : CodePoint) (e : Nat) : Text := [letter, CodePoint.ofChar '+'] ++ Text.padded 2 e

/-- A number with so many places. -/
def fixed (kept : Bool) (places n : Nat) : Written := ⟨Text.ofNat n, point kept (Text.zeros places)⟩

/-- A number with an exponent and so many places. -/
def scientific (letter : CodePoint) (kept : Bool) (places n : Nat) : Written :=
  let (digits, e) := leading (places + 1) n
  ⟨digits.take 1, point kept (digits.drop 1) ++ exponent letter e⟩

/-- A number with so many digits in all, and an exponent only if they do not suffice.  Zeros at the end of
the places go with the point. -/
def general (letter : CodePoint) (kept : Bool) (count n : Nat) : Written :=
  let count := max count 1
  let (digits, e) := leading count n
  let shown := if kept then digits else (Binary64.trimZeros digits).1
  if e < count then ⟨digits.take (e + 1), point kept (shown.drop (e + 1))⟩
  else ⟨digits.take 1, point kept (shown.drop 1) ++ exponent letter e⟩

end Places

end SaslBind
