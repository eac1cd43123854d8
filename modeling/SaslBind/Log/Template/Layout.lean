import SaslBind.Log.Template.Malformed
import SaslBind.Text.Word

/-!
# Layouts of texts and numbers

A layout says how many characters of a text are shown, to which width it is filled up, with which
character, and on which side.  It may also ask for what only numbers have; in texts that is refused.

* `Layout.read` : the layout that a text writes;
* `Layout.apply` : a text in its layout.
-/

namespace SaslBind

namespace Log

namespace Template

/-- Where a text stands in its width. -/
inductive Side where
  | left
  | right
  | middle
  /-- Padding goes between a sign and the digits. -/
  | inner
deriving DecidableEq, Repr

/-- The side that a mark stands for. -/
def Side.ofMark? (c : CodePoint) : Option Side :=
  if c = CodePoint.ofChar '<' then some .left
  else if c = CodePoint.ofChar '>' then some .right
  else if c = CodePoint.ofChar '^' then some .middle
  else if c = CodePoint.ofChar '=' then some .inner
  else none

/-- What a layout is for. -/
inductive Subject where
  | text
  | whole
deriving DecidableEq, Repr

namespace Subject

def typeName : Subject → String
  | .text => "str"
  | .whole => "int"

/-- The side on which a subject stands if the layout does not say. -/
def side : Subject → Side
  | .text => .left
  | .whole => .right

/-- The type of a layout that does not say it. -/
def letter : Subject → CodePoint
  | .text => CodePoint.ofChar 's'
  | .whole => CodePoint.ofChar 'd'

end Subject

/-- A layout. -/
structure Layout where
  fill : CodePoint
  side : Side
  sign : Option CodePoint
  negativeZero : Bool
  alternate : Bool
  width : Option Nat
  separator : Option CodePoint
  precision : Option Nat
  type : CodePoint
deriving DecidableEq, Repr

def greatestNumber : Nat := Nat.pow 2 63 - 1

/-- The number that goes on with the decimal digits of any script, and the text after them. -/
def numberFrom (n : Nat) : Text → Except Malformed (Nat × Text)
  | [] => .ok (n, [])
  | c :: t =>
    match c.decimal? with
    | none => .ok (n, c :: t)
    | some d => if greatestNumber < n * 10 + d then .error .tooManyDigits else numberFrom (n * 10 + d) t

/-- The number in front of a text, if a digit comes first. -/
def number? (t : Text) : Except Malformed (Option Nat × Text) :=
  if t.head?.any CodePoint.isDecimal then (numberFrom 0 t).map fun (n, rest) => (some n, rest)
  else .ok (none, t)

namespace Layout

/-- Whether one of some marks comes first, and the text after it. -/
def mark? (marks : String) (t : Text) : Option CodePoint × Text :=
  match t with
  | c :: rest => if marks.toText.contains c then (some c, rest) else (none, t)
  | [] => (none, [])

/-- The character to fill up with and the side, each if it is given. -/
def readSide (t : Text) : Option CodePoint × Option Side × Text :=
  let bySide (t : Text) : Option CodePoint × Option Side × Text :=
    match t with
    | c :: rest =>
      match Side.ofMark? c with
      | some side => (none, some side, rest)
      | none => (none, none, t)
    | [] => (none, none, [])
  match t with
  | c :: d :: rest =>
    match Side.ofMark? d with
    | some side => (some c, some side, rest)
    | none => bySide t
  | t => bySide t

/-- The mark that parts groups of digits; there is only one. -/
def readSeparator (t : Text) : Except Malformed (Option CodePoint × Text) :=
  let (comma, t) := mark? "," t
  let (underscore, t) := mark? "_" t
  if underscore.isSome && (comma.isSome || (mark? "," t).1.isSome) then .error .twoSeparators
  else .ok (underscore.or comma, t)

/-- The number of characters that are shown. -/
def readPrecision (t : Text) : Except Malformed (Option Nat × Text) :=
  match mark? "." t with
  | (none, t) => .ok (none, t)
  | (some _, t) => do
    let (precision, t) ← number? t
    if precision.isNone then throw .missingPrecision
    pure (precision, t)

/-- The type of numbers that groups of digits go with. -/
def isGrouped (separator type : CodePoint) : Bool :=
  "defgEG%F".toText.contains type ||
    (separator = CodePoint.ofChar '_' && "boxX".toText.contains type) || type.value = 0

/-- The layout that a text writes.  A zero in front of the width fills up numbers after their sign. -/
def read (subject : Subject) (t : Text) : Except Malformed Layout := do
  let (fill, side, rest) := readSide t
  let (sign, rest) := mark? " +-" rest
  let (negativeZero, rest) := mark? "z" rest
  let (alternate, rest) := mark? "#" rest
  let (zero, rest) := if fill.isSome then (none, rest) else mark? "0" rest
  let (width, rest) ← number? rest
  let (separator, rest) ← readSeparator rest
  let (precision, rest) ← readPrecision rest
  if 1 < rest.length then throw (.invalidLayout t subject.typeName)
  let type := rest.headD subject.letter
  match separator with
  | some mark => if !isGrouped mark type then throw (.separator mark type)
  | none => pure ()
  pure
    { fill := (fill.or zero).getD (CodePoint.ofChar ' ')
      side := side.getD (if zero.isSome && subject = .whole then .inner else subject.side), sign
      negativeZero := negativeZero.isSome, alternate := alternate.isSome, width, separator, precision, type }

/-- What a layout asks for that a text has not. -/
def refusal? (l : Layout) : Option Malformed :=
  if l.type ≠ CodePoint.ofChar 's' then some (.unknownType l.type Subject.text.typeName)
  else
    match l.sign with
    | some c => some (if c = CodePoint.ofChar ' ' then .space else .sign)
    | none =>
      if l.negativeZero then some .negativeZero
      else if l.alternate then some .alternate
      else if l.side = .inner then some .innerPadding
      else none

def apply (l : Layout) (t : Text) : Text :=
  let shown := match l.precision with
    | some n => t.take n
    | none => t
  let missing := l.width.getD 0 - shown.length
  let before := match l.side with
    | .right => missing
    | .middle => missing / 2
    | .left | .inner => 0
  List.replicate before l.fill ++ shown ++ List.replicate (missing - before) l.fill

end Layout

/-- A text as the layout says that another text writes. -/
def layOut (layout t : Text) : Except Malformed Text :=
  if layout.isEmpty then .ok t
  else
    match Layout.read .text layout with
    | .error m => .error m
    | .ok l =>
      match l.refusal? with
      | some m => .error m
      | none => .ok (l.apply t)

end Template

end Log

end SaslBind
