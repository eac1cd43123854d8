import SaslBind.Number.Numeral
import SaslBind.Stamp.Calendar
import SaslBind.Text.Lower
import SaslBind.Text.Upper

/-!
# Times by percent signs

In such a layout a percent sign and a letter stand for a part of a time.  Between the two there may be
flags, a width, and a wish for another way of writing, which some letters refuse.

* `Percent.Manner` : what stands between a percent sign and its letter;
* `Percent.part?` : the part that a letter stands for;
* `Percent.layOut` : a time in a layout.

What a letter stands for in vain is left as it is written, filled up to its width.
-/

namespace SaslBind

namespace Log

namespace Template

namespace Percent

def sign : CodePoint := CodePoint.ofChar '%'

/-- What stands between a percent sign and its letter. -/
structure Manner where
  pad : Option CodePoint
  upper : Bool
  swapped : Bool
  width : Nat
  other : Option CodePoint
deriving DecidableEq, Repr

/-- What is padded: so many characters to fill up come before a text. -/
structure Padded where
  fill : CodePoint
  count : Nat
  text : Text

/-- A part of a time. -/
inductive Part where
  /-- A number in at least so many digits, filled up with blanks if it is `spaced`. -/
  | number (digits : Nat) (spaced : Bool) (n : Nat)
  /-- A name, and what it becomes if its case is swapped. -/
  | name (t swapped : Text)
  | fixed (t : Text)
  /-- Nothing, which is not even filled up. -/
  | absent

/-- The letters that refuse another way of writing. -/
def refusing (other : CodePoint) : Text :=
  if other = CodePoint.ofChar 'E' then "abdeghjklmwABDFGHIMSUVW".toText else "acxADFXY".toText

/-- The part that a letter stands for. -/
def part? (m : Moment) (letter : Char) : Option Part :=
  let d := m.date
  let c := m.clock
  let named (t : Text) : Part := .name t t.upper
  let short (t : Text) : Text := t.take Date.shortLength
  match letter with
  | 'a' => some (named (short d.dayName))
  | 'A' => some (named d.dayName)
  | 'b' | 'h' => some (named (short d.monthName))
  | 'B' => some (named d.monthName)
  | 'C' => some (.number 1 false (d.year / 100))
  | 'd' => some (.number 2 false d.day)
  | 'e' => some (.number 2 true d.day)
  | 'g' => some (.number 2 false (d.isoWeek.1 % 100))
  | 'G' => some (.number 1 false d.isoWeek.1)
  | 'H' => some (.number 2 false c.hour)
  | 'I' => some (.number 2 false c.hourOfTwelve)
  | 'j' => some (.number 3 false d.dayOfYear)
  | 'k' => some (.number 2 true c.hour)
  | 'l' => some (.number 2 true c.hourOfTwelve)
  | 'm' => some (.number 2 false d.month)
  | 'M' => some (.number 2 false c.minute)
  | 'n' => some (.fixed "\n".toText)
  | 'p' => some (.name c.half c.half.lower)
  | 'P' => some (.fixed c.half.lower)
  | 's' => some (.fixed (Text.ofInt m.seconds))
  | 'S' => some (.number 2 false c.second)
  | 't' => some (.fixed "\t".toText)
  | 'u' => some (.number 1 false (d.weekday + 1))
  | 'U' => some (.number 2 false (d.weekFrom 6))
  | 'V' => some (.number 2 false d.isoWeek.2)
  | 'w' => some (.number 1 false ((d.weekday + 1) % 7))
  | 'W' => some (.number 2 false (d.weekFrom 0))
  | 'y' => some (.number 2 false (d.year % 100))
  | 'Y' => some (.number 1 false d.year)
  | 'z' => some .absent
  | 'Z' => some (.fixed [])
  | '%' => some (.fixed [sign])
  | _ => none

/-- The layout that a letter stands for. -/
def compound? : Char → Option String
  | 'c' => some "%a %b %e %H:%M:%S %Y"
  | 'D' | 'x' => some "%m/%d/%y"
  | 'F' => some "%Y-%m-%d"
  | 'r' => some "%I:%M:%S %p"
  | 'R' => some "%H:%M"
  | 'T' | 'X' => some "%H:%M:%S"
  | _ => none

namespace Manner

/-- Nothing between a percent sign and its letter. -/
def usual : Manner := ⟨none, false, false, 0, none⟩

/-- Whether this is the way to fill up. -/
def padsWith (m : Manner) (c : Char) : Bool := m.pad = some (CodePoint.ofChar c)

/-- A text in its case; a character that would become several stays. -/
def inCase (m : Manner) (t : Text) : Text :=
  if m.upper then t.map fun c => if c.upper.length = 1 then c.upper.headD c else c else t

/-- A text filled up to its width. -/
def fit (m : Manner) (t : Text) : Padded :=
  ⟨CodePoint.ofChar (if m.padsWith '0' then '0' else ' '), m.width - t.length, t⟩

/-- A part in its manner. -/
def present (m : Manner) : Part → Padded
  | .number digits spaced n =>
    let t := Text.ofNat n
    let missing := max digits m.width - t.length
    if m.padsWith '-' then m.fit t
    else if m.padsWith '_' || (spaced && !m.padsWith '0') then ⟨CodePoint.ofChar ' ', missing, t⟩
    else ⟨CodePoint.ofChar '0', missing, t⟩
  | .name t swapped => m.fit (if m.swapped then swapped else m.inCase t)
  | .fixed t => m.fit t
  | .absent => ⟨sign, 0, []⟩

end Manner

/-- The flags in front of a text, the last one to fill up with being the one that counts. -/
def flags (m : Manner) : Text → Manner × Text
  | [] => (m, [])
  | c :: t =>
    if "_-0".toText.contains c then flags { m with pad := some c } t
    else if c = CodePoint.ofChar '^' then flags { m with upper := true } t
    else if c = CodePoint.ofChar '#' then flags { m with swapped := true } t
    else (m, c :: t)

def greatestWidth : Nat := Nat.pow 2 31 - 1

/-- What stands between a percent sign and its letter, and the text from the letter on. -/
def manner (t : Text) : Manner × Text :=
  let (m, t) := flags .usual t
  let digits := t.takeWhile CodePoint.isDigit
  let m := { m with width := min (Text.digitsValue digits) greatestWidth }
  match t.drop digits.length with
  | [] => (m, [])
  | c :: rest => if "EO".toText.contains c then ({ m with other := some c }, rest) else (m, c :: rest)

/-- Letters that stand for parts alone: what each comes to, one after the other. -/
def plainly (moment : Moment) (t : Text) : Text :=
  match t with
  | c :: d :: rest =>
    if c = sign then
      match d.toChar?.bind (part? moment) with
      | some p =>
        let padded := Manner.usual.present p
        List.replicate padded.count padded.fill ++ padded.text ++ plainly moment rest
      | none => plainly moment rest
    else c :: plainly moment (d :: rest)
  | t => t

/-- What a letter comes to in its manner; `none` if it stands for nothing. -/
def shown? (moment : Moment) (m : Manner) (c : CodePoint) : Option Padded :=
  if m.other.any fun other => (refusing other).contains c then none
  else
    c.toChar?.bind fun letter =>
      match compound? letter with
      | some layout => some (m.fit (m.inCase (plainly moment layout.toText)))
      | none => (part? moment letter).map m.present

/-- What is written in vain.  The short name of a month may swap its case before it refuses. -/
def inVain (m : Manner) (t : Text) (letter : Option CodePoint) : Padded :=
  let swaps := m.swapped && m.other = some (CodePoint.ofChar 'E') && letter.any "bh".toText.contains
  m.fit ({ m with upper := m.upper || swaps }.inCase t)

/-- The pieces of a layout; `fuel` bounds their number. -/
def pieces (moment : Moment) : Nat → Text → List Padded
  | 0, _ | _, [] => []
  | fuel + 1, c :: t =>
    if c ≠ sign then ⟨c, 0, [c]⟩ :: pieces moment fuel t
    else
      let (m, rest) := manner t
      let vain := inVain m (c :: t.take (t.length - rest.length + 1)) rest.head?
      match rest with
      | [] => [vain]
      | letter :: rest => (shown? moment m letter).getD vain :: pieces moment fuel rest

/-- The name of a zone, with percent signs that stand for themselves. -/
def escapedName (z : Zone) : Text := z.str.flatMap fun c => if c = sign then [sign, sign] else [c]

/-- What depends on the zone, and the fraction of the second, are put in before all else. -/
def zoned (m : Moment) : Text → Text
  | c :: d :: t =>
    if c ≠ sign then c :: zoned m (d :: t)
    else if d = CodePoint.ofChar 'z' then (m.zone.map (Zone.offset "")).getD [] ++ zoned m t
    else if d = CodePoint.ofChar 'Z' then (m.zone.map escapedName).getD [] ++ zoned m t
    else if d = CodePoint.ofChar 'f' then Text.padded 6 m.clock.microsecond ++ zoned m t
    else c :: d :: zoned m t
  | t => t

/-- How much room there is for what a layout of some length comes to. -/
def room (length : Nat) : Nat := 1024 * ((length + 3) / 4).nextPowerOfTwo

/-- A time in a layout, which ends before the first null; what is too long for the room is lost. -/
def layOut (m : Moment) (layout : Text) : Text :=
  let layout := (zoned m layout).takeWhile (·.value ≠ 0)
  let ps := pieces m (layout.length + 1) layout
  if ps.foldl (fun n p => n + p.count + p.text.length) 0 < room layout.length then
    ps.flatMap fun p => List.replicate p.count p.fill ++ p.text
  else []

end Percent

end Template

end Log

end SaslBind
