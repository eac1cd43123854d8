import SaslBind.Toml.Strings
import SaslBind.Value

/-!
# Numbers and dates in configuration documents

Each reader takes what it can from the beginning of a text and leaves the rest; `none` says that
nothing of its kind begins there.

* `Toml.stamp?` : a date, a time, or both with an offset;
* `Toml.number?` : an integer in one of four bases, or a number with a fraction or an exponent.
-/

namespace SaslBind

namespace Toml

/-- Exactly so many digits, as a number. -/
def digits? (count : Nat) (t : Text) : Option (Nat × Text) :=
  let head := t.take count
  if head.length = count ∧ head.all CodePoint.isDigit then some (Text.digitsValue head, t.drop count) else none

/-- The text after a character that must come. -/
def after? (c : Char) : Text → Option Text
  | [] => none
  | d :: rest => if d = CodePoint.ofChar c then some rest else none

/-- Two digits with a value between bounds. -/
def two? (least greatest : Nat) (t : Text) : Option (Nat × Text) :=
  match digits? 2 t with
  | some (n, rest) => if least ≤ n ∧ n ≤ greatest then some (n, rest) else none
  | none => none

/-- A fraction of a second, of which six digits count. -/
def microseconds (t : Text) : Nat × Text :=
  match after? '.' t with
  | none => (0, t)
  | some rest =>
    let digits := rest.takeWhile CodePoint.isDigit
    if digits.isEmpty then (0, t)
    else
      let six := digits.take 6
      (Text.digitsValue six * Nat.pow 10 (6 - six.length), rest.drop digits.length)

/-- A time of the day. -/
def clockTime? (t : Text) : Option (ClockTime × Text) := do
  let (hour, t) ← two? 0 23 t
  let t ← after? ':' t
  let (minute, t) ← two? 0 59 t
  let t ← after? ':' t
  let (second, t) ← two? 0 59 t
  let (microsecond, t) := microseconds t
  some (⟨hour, minute, second, microsecond⟩, t)

/-- An offset from the universal time, in minutes. -/
def offset? (t : Text) : Option (Int × Text) :=
  match t with
  | [] => none
  | c :: rest =>
    if c = CodePoint.ofChar 'Z' ∨ c = CodePoint.ofChar 'z' then some (0, rest)
    else if c = CodePoint.ofChar '+' ∨ c = CodePoint.ofChar '-' then do
      let (hour, rest) ← two? 0 23 rest
      let rest ← after? ':' rest
      let (minute, rest) ← two? 0 59 rest
      let minutes : Int := hour * 60 + minute
      some (if c = CodePoint.ofChar '-' then -minutes else minutes, rest)
    else none

/-- A time after a date, perhaps with an offset. -/
def timeAfterDate? (t : Text) : Option ((ClockTime × Option Int) × Text) :=
  match t with
  | [] => none
  | c :: rest =>
    if c = CodePoint.ofChar 'T' ∨ c = CodePoint.ofChar 't' ∨ c = CodePoint.ofChar ' ' then do
      let (clock, rest) ← clockTime? rest
      match offset? rest with
      | some (offset, rest) => some ((clock, some offset), rest)
      | none => some ((clock, none), rest)
    else none

/-- A year, a month and a day. -/
def date? (t : Text) : Option (Date × Text) := do
  let (year, t) ← digits? 4 t
  let t ← after? '-' t
  let (month, t) ← two? 1 12 t
  let t ← after? '-' t
  let (day, t) ← two? 1 31 t
  some (⟨year, month, day⟩, t)

/-- A date or a time. -/
def stamp? (t : Text) : Option (Result Value) :=
  match date? t with
  | some (date, rest) =>
    some <|
      if date.year = 0 ∨ Date.daysIn date.year date.month < date.day then .error (.invalidDate, t)
      else
        match timeAfterDate? rest with
        | some ((clock, offset), rest) => .ok (.stamp (.moment ⟨date, clock, offset.map fun minutes => ⟨minutes, none⟩⟩), rest)
        | none => .ok (.stamp (.date date), rest)
  | none =>
    match clockTime? t with
    | some (clock, rest) => some (.ok (.stamp (.time clock), rest))
    | none => none

/-- Digits of a base, single underscores allowed between them, and the text after them. -/
def digitRun (isDigit : CodePoint → Bool) : Text → Text × Text
  | [] => ([], [])
  | c :: rest =>
    if isDigit c then
      match rest with
      | d :: e :: rest' =>
        if d = CodePoint.ofChar '_' ∧ isDigit e then
          let (digits, rest) := digitRun isDigit (e :: rest')
          (c :: digits, rest)
        else
          let (digits, rest) := digitRun isDigit (d :: e :: rest')
          (c :: digits, rest)
      | rest =>
        let (digits, rest) := digitRun isDigit rest
        (c :: digits, rest)
    else ([], c :: rest)

/-- An integer in base 16, 2 or 8, after its mark. -/
def inBase? (mark : String) (base : Nat) (t : Text) : Option (Value × Text) :=
  if t.startsWith mark.toText then
    let isDigit (c : CodePoint) : Bool := (hexDigit? c).any (· < base)
    let (digits, rest) := digitRun isDigit (t.drop 2)
    if digits.isEmpty then none
    else some (.int (Text.positionalValue base (digits.filterMap hexDigit?)), rest)
  else none

/-- Digits after a point. -/
def fraction (t : Text) : Option Text × Text :=
  match after? '.' t with
  | none => (none, t)
  | some rest =>
    let (digits, rest) := digitRun CodePoint.isDigit rest
    if digits.isEmpty then (none, t) else (some digits, rest)

/-- An exponent. -/
def exponent (t : Text) : Option (Sign × Text) × Text :=
  match t with
  | c :: rest =>
    if c = CodePoint.ofChar 'e' ∨ c = CodePoint.ofChar 'E' then
      let (sign, rest) := Sign.read rest
      let (digits, rest) := digitRun CodePoint.isDigit rest
      if digits.isEmpty then (none, t) else (some (sign, digits), rest)
    else (none, t)
  | [] => (none, t)

/-- A decimal number; a zero comes first only alone, and integers are not longer than can be converted. -/
def decimal? (t : Text) : Option (Result Value) :=
  let (sign, rest) := Sign.read t
  let (whole, rest) :=
    if rest.head? = some (CodePoint.ofChar '0') then (rest.take 1, rest.drop 1)
    else digitRun CodePoint.isDigit rest
  if whole.isEmpty then none
  else
    let (fraction, rest) := fraction rest
    let (exponent, rest) := exponent rest
    let n : Numeral := ⟨sign, whole, fraction, exponent⟩
    some <|
      if !n.isInteger then .ok (.real n.toBinary64, rest)
      else if Numeral.digitLimit < whole.length then .error (.tooManyDigits whole.length, t)
      else .ok (.int n.toInt, rest)

/-- An infinity or no number. -/
def special? (t : Text) : Option (Value × Text) :=
  let (sign, rest) := Sign.read t
  if rest.startsWith "inf".toText then some (.real (.infinite (sign = .minus)), rest.drop 3)
  else if rest.startsWith "nan".toText then some (.real .nan, rest.drop 3)
  else none

/-- A number of any kind. -/
def number? (t : Text) : Option (Result Value) :=
  let inOtherBase := inBase? "0x" 16 t <|> inBase? "0b" 2 t <|> inBase? "0o" 8 t
  inOtherBase.map .ok <|> decimal? t <|> (special? t).map .ok

end Toml

end SaslBind
