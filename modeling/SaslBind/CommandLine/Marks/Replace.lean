import SaslBind.Fault
import SaslBind.Number.Numeral

/-!
# Marks in descriptions

A description may show the name of its command.  A mark for it begins with a percent sign, then comes a
name between parentheses, then how the text is shown: flags, a width, a precision and a letter.  Two
percent signs stand for one.  A mark without a name shows all names there are with their texts, once.

* `Marks.replace` : the description with its marks replaced.
-/

namespace SaslBind

namespace CommandLine

namespace Marks

/-- What the next mark shows: all names with their texts, or one text. -/
inductive Argument where
  | names
  | text
deriving DecidableEq, Repr

/-- The name of the type of what a mark shows. -/
def Argument.typeName : Argument → String
  | .names => "dict"
  | .text => "str"

/-- How a text is shown. -/
structure Style where
  atLeft : Bool
  width : Option Nat
  precision : Option Nat
deriving DecidableEq, Repr

/-- Where a reading stands.  Names are held last character first. -/
inductive Place where
  | outside
  /-- After a percent sign. -/
  | percent
  /-- In a name, with some parentheses open in it. -/
  | name (codes : Text) (inner : Nat)
  | flags (s : Style)
  | width (s : Style)
  /-- After a point. -/
  | point (s : Style)
  | precision (s : Style)
  /-- Before the last letter. -/
  | letter (s : Style)
deriving DecidableEq, Repr

/-- The name of the command, and the text that is next to be shown. -/
structure State where
  program : Text
  next : Option Argument

/-- The only name that there is. -/
def programName : Text := "prog".toText

def percent : CodePoint := CodePoint.ofChar '%'

def greatestWidth : Nat := Nat.pow 2 63 - 1

def greatestPrecision : Nat := Nat.pow 2 31 - 1

def State.names (s : State) : Text :=
  "\x7b".toText ++ programName.quoted ++ ": ".toText ++ s.program.quoted ++ "\x7d".toText

/-- The text of what is shown, between quotes if `quotes` is set. -/
def State.shown (s : State) (quotes : Bool) : Argument → Text
  | .names => s.names
  | .text => if quotes then s.program.quoted else s.program

/-- A text in its width. -/
def Style.pad (s : Style) (t : Text) : Text :=
  let blanks := Text.spaces (s.width.getD 0 - t.length)
  if s.atLeft then t ++ blanks else blanks ++ t

/-- A text in its width and not longer than its precision. -/
def Style.apply (s : Style) (t : Text) : Text :=
  s.pad (match s.precision with
    | some n => t.take n
    | none => t)

/-- What a letter makes of what is shown. -/
def present (s : State) (style : Style) (a : Argument) (c : CodePoint) (index : Nat) : Except Fault Text :=
  if c = CodePoint.ofChar 's' then .ok (style.apply (s.shown false a))
  else if c = CodePoint.ofChar 'r' then .ok (style.apply (s.shown true a))
  else if c = CodePoint.ofChar 'a' then .ok (style.apply (Text.inAscii (s.shown true a)))
  else if c = CodePoint.ofChar 'c' then
    match a, s.program with
    | .text, [d] => .ok (style.pad [d])
    | _, _ => .error (.mismatch .character)
  else if "diu".toText.contains c then .error (.mismatch (.number c a.typeName))
  else if "oxX".toText.contains c then .error (.mismatch (.integer c a.typeName))
  else if "eEfFgG".toText.contains c then .error (.mismatch (.real a.typeName))
  else .error (.mark (.unsupported c index))

/-- What a step gives: some text, the place after it, and what is next to be shown. -/
abbrev Step := Text × Place × Option Argument

/-- The last letter of a mark. -/
def atLetter (s : State) (style : Style) (c : CodePoint) (index : Nat) : Except Fault Step :=
  match s.next with
  | none => .error (.mismatch .nothingLeft)
  | some a => (present s style a c index).map fun t => (t, .outside, none)

/-- The last letter of a mark, or one before it that has no meaning. -/
def atModifier (s : State) (style : Style) (c : CodePoint) (index : Nat) : Except Fault Step :=
  if "hlL".toText.contains c then .ok ([], .letter style, s.next) else atLetter s style c index

/-- A point, or what may come without one. -/
def atPoint (s : State) (style : Style) (c : CodePoint) (index : Nat) : Except Fault Step :=
  if c = CodePoint.ofChar '.' then .ok ([], .point { style with precision := some 0 }, s.next)
  else atModifier s style c index

/-- A width or a precision can not be taken from what is shown. -/
def atStar (s : State) : Except Fault Step :=
  .error (.mismatch (if s.next.isSome then .widthIsNumber else .nothingLeft))

/-- A flag, the beginning of a width, or what may come without them. -/
def atFlag (s : State) (style : Style) (c : CodePoint) (index : Nat) : Except Fault Step :=
  if c = CodePoint.ofChar '-' then .ok ([], .flags { style with atLeft := true }, s.next)
  else if "+ #0".toText.contains c then .ok ([], .flags style, s.next)
  else if c = CodePoint.ofChar '*' then atStar s
  else
    match c.digit? with
    | some d => .ok ([], .width { style with width := some d }, s.next)
    | none => atPoint s style c index

/-- A character of a name. -/
def atName (s : State) (codes : Text) (inner : Nat) (c : CodePoint) : Except Fault Step :=
  if c = CodePoint.ofChar ')' then
    match inner with
    | inner + 1 => .ok ([], .name (c :: codes) inner, s.next)
    | 0 =>
      if codes.reverse = programName then .ok ([], .flags ⟨false, none, none⟩, some .text)
      else .error (.unknownKey (Text.quoted codes.reverse))
  else .ok ([], .name (c :: codes) (if c = CodePoint.ofChar '(' then inner + 1 else inner), s.next)

/-- A number with one digit more, if it is not beyond the greatest one. -/
def grown (n : Option Nat) (d greatest : Nat) (fault : Malformed) : Except Fault Nat :=
  let n := n.getD 0 * 10 + d
  if greatest < n then .error (.mark fault) else .ok n

/-- One character more; `index` is its place. -/
def step (s : State) (place : Place) (c : CodePoint) (index : Nat) : Except Fault Step :=
  match place with
  | .outside => .ok (if c = percent then ([], .percent, s.next) else ([c], .outside, s.next))
  | .percent =>
    if c = percent then .ok ([c], .outside, s.next)
    else if c = CodePoint.ofChar '(' then .ok ([], .name [] 0, s.next)
    else atFlag s ⟨false, none, none⟩ c index
  | .name codes inner => atName s codes inner c
  | .flags style => atFlag s style c index
  | .width style =>
    match c.digit? with
    | some d => (grown style.width d greatestWidth .widthTooBig).map fun n =>
      ([], .width { style with width := some n }, s.next)
    | none => atPoint s style c index
  | .point style =>
    if c = CodePoint.ofChar '*' then atStar s
    else
      match c.digit? with
      | some d => .ok ([], .precision { style with precision := some d }, s.next)
      | none => atModifier s style c index
  | .precision style =>
    match c.digit? with
    | some d => (grown style.precision d greatestPrecision .precisionTooBig).map fun n =>
      ([], .precision { style with precision := some n }, s.next)
    | none => atModifier s style c index
  | .letter style => atLetter s style c index

/-- The rest of a description with its marks replaced; it begins at `index`. -/
def replaceFrom (s : State) (place : Place) (index : Nat) : Text → Except Fault Text
  | [] =>
    match place with
    | .outside => .ok []
    | .name .. => .error (.mark .unclosedName)
    | _ => .error (.mark .incomplete)
  | c :: t =>
    match step s place c index with
    | .error f => .error f
    | .ok (shown, place, next) => (replaceFrom { s with next } place (index + 1) t).map (shown ++ ·)

/-- A description with its marks replaced. -/
def replace (program t : Text) : Except Fault Text := replaceFrom ⟨program, some .names⟩ .outside 0 t

end Marks

end CommandLine

end SaslBind
