import SaslBind.Number.Binary64

/-!
# Arithmetic and order of binary floating-point numbers

Sums and products are those of the exact numbers, taken to the nearest number of the format; infinities
and what is no number go through as usual.

* `Binary64.add`, `Binary64.mul` : the two operations;
* `Binary64.whole`, `Binary64.fraction` : the parts before and after the point of a finite number;
* `Binary64.precedes` : the order of the numbers.
-/

namespace SaslBind

namespace Binary64

def zero (negative : Bool) : Binary64 := .finite negative 0 leastExponent

/-- The number nearest to `n · 2 ^ e`. -/
def ofScaled (negative : Bool) (n : Nat) (e : Int) : Binary64 :=
  if n = 0 then zero negative
  else
    let (up, down) := scaling 2 e
    ofFraction negative (n * up) down

/-- The number nearest to a natural one. -/
def ofNat (n : Nat) : Binary64 := ofScaled false n 0

/-- A significand with its sign. -/
def signed (negative : Bool) (m : Nat) : Int := if negative then -m else m

def add : Binary64 → Binary64 → Binary64
  | .nan, _ | _, .nan => .nan
  | .infinite p, .infinite q => if p = q then .infinite p else .nan
  | .infinite p, .finite .. | .finite .., .infinite p => .infinite p
  | .finite p m e, .finite q n f =>
    let least := min e f
    let sum := signed p m * Int.pow 2 (e - least).toNat + signed q n * Int.pow 2 (f - least).toNat
    if sum = 0 then zero (p && q) else ofScaled (sum < 0) sum.natAbs least

def mul : Binary64 → Binary64 → Binary64
  | .nan, _ | _, .nan => .nan
  | .infinite p, .infinite q => .infinite (p != q)
  | .infinite p, .finite q n _ | .finite q n _, .infinite p =>
    if n = 0 then .nan else .infinite (p != q)
  | .finite p m e, .finite q n f => ofScaled (p != q) (m * n) (e + f)

/-- The significand and the exponent of a finite number, without what stands after the point. -/
def whole (m : Nat) (e : Int) : Nat :=
  let (up, down) := scaling 2 e
  m * up / down

/-- What stands after the point of a finite number, as a significand to the same exponent. -/
def fraction (m : Nat) (e : Int) : Nat := m % (scaling 2 e).2

/-- Whether a number is less than another one. -/
def precedes : Binary64 → Binary64 → Bool
  | .nan, _ | _, .nan => false
  | .infinite negative, .infinite other => negative && !other
  | .infinite negative, .finite .. => negative
  | .finite .., .infinite negative => !negative
  | .finite negative m e, .finite negative' m' e' =>
    let least := min e e'
    let whole (negative : Bool) (m : Nat) (e : Int) : Int :=
      let n : Int := (m * Nat.pow 2 (e - least).toNat : Nat)
      if negative then -n else n
    whole negative m e < whole negative' m' e'

/-- A whole number, exactly; the significand may be larger than that of any other number. -/
def exactly (n : Int) : Binary64 := .finite (n < 0) n.natAbs 0

end Binary64

end SaslBind
