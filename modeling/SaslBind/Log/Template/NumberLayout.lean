import SaslBind.Log.Template.Layout
import SaslBind.Number.Places

/-!
# Layouts of whole numbers

The type of a layout says in which base a number is written, whether it has places after the point, or
that it is the number of a character.  Digits before the point can stand in groups.

* `Layout.figure` : a number as the type of a layout writes it;
* `Layout.grouped` : digits in groups;
* `Layout.applyWhole` : a number in its layout;
* `layOutWhole` : the same for the text of a layout.
-/

namespace SaslBind

namespace Log

namespace Template

/-- What is written of a number besides its sign: a mark of its base, digits, and what follows these. -/
structure Figure where
  mark : Text
  digits : Text
  rest : Text
deriving DecidableEq, Repr

namespace Layout

/-- The bases other than ten, by their types. -/
def bases : List (Char × Nat) := [('b', 2), ('o', 8), ('x', 16), ('X', 16)]

/-- The base of a type, if it is one of those. -/
def base? (type : CodePoint) : Option Nat := (bases.find? (CodePoint.ofChar ·.1 = type)).map (·.2)

/-- The digits of a number in a base, in the case of the type. -/
def digitsIn (base : Nat) (type : CodePoint) (n : Nat) : Text :=
  (Nat.toDigits base n).map fun c => CodePoint.ofChar (if type = CodePoint.ofChar 'X' then c.toUpper else c)

/-- A number with a point, as the types for that write it. -/
def withPoint (l : Layout) (n : Nat) : Figure :=
  let places := l.precision.getD 6
  let ofWritten (w : Places.Written) : Figure := ⟨[], w.whole, w.rest⟩
  match l.type.toChar? with
  | some 'e' | some 'E' => ofWritten (Places.scientific l.type l.alternate places n)
  | some 'g' => ofWritten (Places.general (CodePoint.ofChar 'e') l.alternate places n)
  | some 'G' => ofWritten (Places.general (CodePoint.ofChar 'E') l.alternate places n)
  | some '%' =>
    let w := Places.fixed l.alternate places (n * 100)
    ⟨[], w.whole, w.rest ++ "%".toText⟩
  | _ => ofWritten (Places.fixed l.alternate places n)

def greatestPrecision : Nat := Nat.pow 2 31 - 1

/-- What a layout asks for that a number without a point has not. -/
def wholeRefusal? (l : Layout) : Option Malformed :=
  if l.precision.isSome then some .precision
  else if l.negativeZero then some .negativeZeroOfWhole
  else if l.type ≠ CodePoint.ofChar 'c' then none
  else if l.sign.isSome then some .signOfCharacter
  else if l.alternate then some .alternateOfCharacter
  else none

/-- A number without a point, as the types for that write it. -/
def withoutPoint (l : Layout) (n : Int) : Except Malformed Figure :=
  match l.wholeRefusal? with
  | some m => .error m
  | none =>
    if l.type = CodePoint.ofChar 'c' then
      match (if n < 0 then none else CodePoint.ofNat? n.toNat) with
      | some c => .ok ⟨[], [c], []⟩
      | none => .error .noCharacter
    else
      match base? l.type with
      | some base =>
        .ok ⟨if l.alternate then [CodePoint.ofChar '0', l.type] else [], digitsIn base l.type n.natAbs, []⟩
      | none => .ok ⟨[], Text.ofNat n.natAbs, []⟩

/-- A number as the type of a layout writes it. -/
def figure (l : Layout) (n : Int) : Except Malformed Figure :=
  if "bcdoxXn".toText.contains l.type then l.withoutPoint n
  else if !"eEfFgG%".toText.contains l.type then .error (.unknownType l.type Subject.whole.typeName)
  else if greatestPrecision < l.precision.getD 0 then .error .precisionTooBig
  else .ok (l.withPoint n.natAbs)

/-- The sign of a number; one that is not negative has it only if it is asked for. -/
def signOf (l : Layout) (n : Int) : Text :=
  if n < 0 then "-".toText else l.sign.toList.filter (· ≠ CodePoint.ofChar '-')

def groupSize (l : Layout) : Nat := if (base? l.type).isSome then 4 else 3

/-- Digits in groups, last ones first, with zeros up to a least number of characters. -/
def grouped (size : Nat) (separator : CodePoint) (digits : Text) (least : Nat) : Text :=
  let count := max 1 (min size (max digits.length least))
  let group := digits.take count ++ Text.zeros (count - digits.length)
  if digits.length ≤ count ∧ least ≤ count then group
  else group ++ separator :: grouped size separator (digits.drop count) (least - count - 1)
termination_by digits.length + least
decreasing_by
  simp only [List.length_drop]
  have := Nat.le_max_left 1 (min size (max digits.length least))
  omega

/-- The digits before the point, with at least so many characters. -/
def digitsFilled (l : Layout) (digits : Text) (least : Nat) : Text :=
  match l.separator with
  | some separator => (grouped l.groupSize separator digits.reverse least).reverse
  | none => Text.zeros (least - digits.length) ++ digits

/-- A number in its layout. -/
def applyWhole (l : Layout) (n : Int) (f : Figure) : Text :=
  let front := l.signOf n ++ f.mark
  let width := l.width.getD 0
  let isZeroFilled := l.side = .inner && l.fill = CodePoint.ofChar '0'
  let digits := l.digitsFilled f.digits (if isZeroFilled then width - (front.length + f.rest.length) else 0)
  let missing := width - (front.length + digits.length + f.rest.length)
  let filling (count : Nat) : Text := List.replicate count l.fill
  let shown := digits ++ f.rest
  match l.side with
  | .left => front ++ shown ++ filling missing
  | .right => filling missing ++ front ++ shown
  | .middle => filling (missing / 2) ++ front ++ shown ++ filling (missing - missing / 2)
  | .inner => front ++ filling missing ++ shown

end Layout

/-- A number as the layout says that a text writes. -/
def layOutWhole (layout : Text) (n : Int) : Except Malformed Text :=
  if layout.isEmpty then .ok (Text.ofInt n)
  else
    match Layout.read .whole layout with
    | .error m => .error m
    | .ok l => (l.figure n).map (l.applyWhole n)

end Template

end Log

end SaslBind
