import SaslBind.Log.Template.Malformed
import SaslBind.Stamp.Calendar

/-!
# Times by letters

In such a layout letters stand for parts of a time, in rows of one letter; between brackets they stand
for themselves.

* `Letters.runLength` : how many letters of a row stand for one part;
* `Letters.shown` : a part of a time;
* `Letters.layOut` : a time in a layout.
-/

namespace SaslBind

namespace Log

namespace Template

namespace Letters

/-- The letters that stand for parts of a time, and how many of them may stand in a row. -/
def runs : List (Char × List Nat) :=
  [('H', [2, 1]), ('h', [2, 1]), ('m', [2, 1]), ('s', [2, 1]), ('Y', [4, 2]), ('M', [4, 3, 2, 1]),
    ('D', [4, 3, 2, 1]), ('Z', [2, 1]), ('z', [2]), ('A', [1]), ('X', [1]), ('x', [1]), ('E', [1]),
    ('Q', [1]), ('d', [4, 3, 1])]

/-- The letter for fractions of a second, of which any number may stand in a row. -/
def fractionLetter : CodePoint := CodePoint.ofChar 'S'

/-- How many of the first `n` letters of a row stand for one part; 0 if they stand for none. -/
def runLength (c : CodePoint) (n : Nat) : Nat :=
  if c = fractionLetter then n
  else
    match runs.find? (CodePoint.ofChar ·.1 = c) with
    | some (_, lengths) => (lengths.find? (· ≤ n)).getD 0
    | none => 0

/-- Whether a text stands for one part. -/
def isToken : Text → Bool
  | [] => false
  | c :: t => t.all (· = c) && runLength c (t.length + 1) = t.length + 1

/-- The part of a time that a letter stands for, written so many times. -/
def shown (m : Moment) (letter : CodePoint) (count : Nat) : Text :=
  let d := m.date
  let c := m.clock
  let number (n : Nat) : Text := Text.padded count n
  let short (t : Text) : Text := t.take Date.shortLength
  match letter.toChar?, count with
  | some 'Y', 4 => number d.year
  | some 'Y', _ => number (d.year % 100)
  | some 'Q', _ => number ((d.month - 1) / 3 + 1)
  | some 'M', 4 => d.monthName
  | some 'M', 3 => short d.monthName
  | some 'M', _ => number d.month
  | some 'D', 4 => Text.padded 3 d.dayOfYear
  | some 'D', 3 => Text.ofNat d.dayOfYear
  | some 'D', _ => number d.day
  | some 'd', 4 => d.dayName
  | some 'd', 3 => short d.dayName
  | some 'd', _ => number d.weekday
  | some 'E', _ => number (d.weekday + 1)
  | some 'H', _ => number c.hour
  | some 'h', _ => number c.hourOfTwelve
  | some 'm', _ => number c.minute
  | some 's', _ => number c.second
  | some 'S', _ => (Text.padded 6 c.microsecond).take count
  | some 'A', _ => c.half
  | some 'Z', 1 => (m.zone.getD .universal).offset ":"
  | some 'Z', _ => (m.zone.getD .universal).offset ""
  | some 'z', _ => (m.zone.map Zone.str).getD []
  | some 'X', _ => Text.ofInt m.seconds
  | some 'x', _ => Text.ofInt (m.seconds * 1000000 + c.microsecond)
  | _, _ => List.replicate count letter

/-- The mark for the universal time at the end of a layout. -/
def universalMark : Text := "!UTC".toText

/-- What brackets keep from being shown as a part. -/
def bracketed? (t : Text) : Option Text :=
  match t.cut? (CodePoint.ofChar ']') with
  | some (inner, _) => if inner.isEmpty || inner = universalMark || isToken inner then some inner else none
  | none => none

/-- A time by letters; `skip` characters are still to pass. -/
def layOutFrom (m : Moment) (skip : Nat) : Text → Text
  | [] => []
  | c :: t =>
    match skip with
    | skip + 1 => layOutFrom m skip t
    | 0 =>
      match if c = CodePoint.ofChar '[' then bracketed? t else none with
      | some inner => inner ++ layOutFrom m (inner.length + 1) t
      | none =>
        match runLength c ((t.takeWhile (· = c)).length + 1) with
        | 0 => c :: layOutFrom m 0 t
        | n + 1 => shown m c (n + 1) ++ layOutFrom m n t

/-- Six letters for fractions of a second are the most. -/
def hasTooManyFractions (run : Nat) : Text → Bool
  | [] => false
  | c :: t => if c = fractionLetter then 6 ≤ run || hasTooManyFractions (run + 1) t else hasTooManyFractions 0 t

/-- A time in a layout. -/
def layOut (m : Moment) (layout : Text) : Except Malformed Text :=
  if hasTooManyFractions 0 layout then .error .tooManyFractions else .ok (layOutFrom m 0 layout)

end Letters

end Template

end Log

end SaslBind
