import SaslBind.Log.Duration
import SaslBind.Text.Lower

/-!
# Rotation and retention of log files

When a log file is replaced by a new one, and how long old ones are kept, is written as a text: a size,
a duration, a frequency, or a day and a time.

* `Log.readRotation` : any of the four; of those that are not sizes, when the time has come is for a clock to say;
* `Log.readRetention` : a duration.
-/

namespace SaslBind

namespace Log

/-! ### Sizes -/

/-- A size: a number, perhaps a multiple, of a thousand or of 1024, and the unit, bits or octets. -/
structure Size where
  quantity : Text
  /-- How many times the multiple is taken. -/
  power : Nat
  isBinary : Bool
  isBits : Bool
deriving DecidableEq, Repr

/-- The letters of the multiples, each a thousand times the one before. -/
def multiples : List Char := "kmgtpezy".toList

/-- The parts of a size. -/
def sizeParts? (t : Text) : Option Size :=
  let quantity := t.takeWhile isQuantity
  let rest := skipBlanks (t.dropWhile isQuantity)
  let power := rest.head?.bind fun c => multiples.findIdx? (isLetter · c)
  let rest := skipLetter multiples rest
  match skipLetter ['i'] rest with
  | [c] =>
    if isLetter 'b' c && !quantity.isEmpty then
      some ⟨quantity, (power.map (· + 1)).getD 0, rest.length = 2, c = CodePoint.ofChar 'b'⟩
    else none
  | _ => none

/-- The number of octets of a size with this number in front. -/
def Size.octets (s : Size) (n : Binary64) : Binary64 :=
  let whole := n.mul (.ofNat (Nat.pow (if s.isBinary then 1024 else 1000) s.power))
  -- there are eight bits to an octet
  if s.isBits then whole.mul (.ofScaled false 1 (-3)) else whole

/-- The number of octets that a text is as a size; a fault if it looks like one and is none. -/
def readSize (t : Text) : Except Fault (Option Binary64) :=
  match sizeParts? t.strip with
  | none => .ok none
  | some size =>
    match number? size.quantity with
    | some n => .ok (some (size.octets n))
    | none => .error (.sizeNumeral size.quantity)

/-! ### Frequencies, days and times -/

def frequencies : List Text := ["hourly", "daily", "weekly", "monthly", "yearly"].map String.toText

def isFrequency (t : Text) : Bool := frequencies.contains t.strip.lower

def weekdays : List Text :=
  ["monday", "tuesday", "wednesday", "thursday", "friday", "saturday", "sunday"].map String.toText

/-- The day that digits number, if there is one; digits of all kinds are taken for a number. -/
def dayNumber? (t : Text) : Option Nat :=
  if t.all CodePoint.isDecimal && t.length ≤ Numeral.digitLimit then
    let n := Text.digitsValue (t.map asciiDigit)
    if n < weekdays.length then some n else none
  else none

/-- Whether a text is a day; a fault if it is the number of a day that there is not. -/
def readDay (t : Text) : Except Fault Bool :=
  let day := t.strip.lower
  if weekdays.contains day then .ok true
  else
    match day with
    | c :: d :: ds =>
      if c = CodePoint.ofChar 'w' ∧ (d :: ds).all CodePoint.isAnyDigit then
        if (dayNumber? (d :: ds)).isSome then .ok true else .error (.day t)
      else .ok false
    | _ => .ok false

/-- The text after a number of one or two digits, of two when the first is one of `tens`. -/
def skipNumber? (tens : List Char) (t : Text) : Option Text :=
  match t with
  | c :: d :: rest =>
    if tens.any (CodePoint.ofChar · = c) && d.isDecimal then some rest
    else if c.isDecimal then some (d :: rest) else none
  | [c] => if c.isDecimal then some [] else none
  | [] => none

/-- The text after an hour of twenty-four. -/
def skipHour? (t : Text) : Option Text :=
  match t with
  | c :: d :: rest =>
    if c = CodePoint.ofChar '2' ∧ 0x30 ≤ d.value ∧ d.value ≤ 0x33 then some rest
    else skipNumber? ['0', '1'] t
  | t => skipNumber? [] t

/-- The text after an hour of twelve. -/
def skipHalfDayHour? (t : Text) : Option Text :=
  let isFrom (least greatest : Nat) (c : CodePoint) : Bool := least ≤ c.value && c.value ≤ greatest
  match t with
  | c :: d :: rest =>
    if (c = CodePoint.ofChar '1' ∧ isFrom 0x30 0x32 d) ∨ (c = CodePoint.ofChar '0' ∧ isFrom 0x31 0x39 d) then
      some rest
    else if isFrom 0x31 0x39 c then some (d :: rest) else none
  | [c] => if isFrom 0x31 0x39 c then some [] else none
  | [] => none

/-- The text after a minute or a second. -/
def skipSixtieth? (t : Text) : Option Text :=
  if t.head? = some (CodePoint.ofChar '6') ∧ (t.drop 1).head?.any CodePoint.isDecimal then none
  else skipNumber? ['0', '1', '2', '3', '4', '5'] t

/-- The text after a fraction of a second. -/
def skipFraction? (t : Text) : Option Text :=
  let count := min 6 (t.takeWhile CodePoint.isDigit).length
  if count = 0 then none else some (t.drop count)

/-- The text after a character that has to come. -/
def skip? (mark : Char) (t : Text) : Option Text :=
  match t with
  | [] => none
  | c :: rest => if c = CodePoint.ofChar mark then some rest else none

/-- The text after the word for a half of the day and the blanks before it. -/
def skipHalf? (t : Text) : Option Text :=
  if t.head?.any CodePoint.isBlank then
    match skipBlanks t with
    | c :: d :: rest =>
      if (isLetter 'a' c || isLetter 'p' c) && isLetter 'm' d then some rest else none
    | _ => none
  else none

/-- A time with the hour in front, with minutes, seconds and a fraction as far as `parts` says, and with
a half of the day at the end if `half` is set. -/
def isTimeOf (half : Bool) (parts : Nat) (t : Text) : Bool :=
  let hour := if half then skipHalfDayHour? t else skipHour? t
  let minute := if 1 ≤ parts then hour.bind (skip? ':') |>.bind skipSixtieth? else hour
  let second := if 2 ≤ parts then minute.bind (skip? ':') |>.bind skipSixtieth? else minute
  let fraction := if 3 ≤ parts then second.bind (skip? '.') |>.bind skipFraction? else second
  let last := if half then fraction.bind skipHalf? else fraction
  last = some []

def looksLikeTime (t : Text) : Bool :=
  let isMark (c : CodePoint) : Bool := c.isDecimal || c = CodePoint.ofChar '.' || c = CodePoint.ofChar ':'
  match t with
  | [] => false
  | c :: _ =>
    isMark c &&
      match skipBlanks (t.dropWhile isMark) with
      | [] => true
      | [d, e] => (isLetter 'a' d || isLetter 'p' d) && isLetter 'm' e
      | _ => false

/-- Whether a text is a time; a fault if it looks like one and is none. -/
def readTime (t : Text) : Except Fault Bool :=
  let time := t.strip
  if !looksLikeTime time then .ok false
  else if [0, 1, 2, 3].any (isTimeOf false · time) || [0, 2, 3].any (isTimeOf true · time) then .ok true
  else .error (.time t)

/-- The parts around the word that joins a day and a time, the first on one line. -/
def splitDaytime? (before : Text) : Text → Option (Text × Text)
  | [] => none
  | c :: rest =>
    let next := if c.value = 0xA then none else splitDaytime? (c :: before) rest
    if c.isBlank then
      match skipBlanks rest with
      | a :: t :: after =>
        let time := skipBlanks after
        if isLetter 'a' a && isLetter 't' t && time.length < after.length && !time.any (·.value = 0xA) then
          some (before.reverse, time)
        else next
      | _ => next
    else next

/-- Whether a text is a day, a time or both; a fault if it looks like one of them and is none. -/
def readDaytime (t : Text) : Except Fault Bool :=
  let daytime := t.strip
  match splitDaytime? [] daytime with
  | some (day, time) =>
    match readDay day, readTime time with
    | .ok true, .ok true => .ok true
    | .ok true, .ok false => .error (.time time)
    | .ok true, .error f => .error f
    | .ok false, _ => .error (.day day)
    | .error f, _ => .error f
  | none =>
    match readDay daytime, readTime daytime with
    | .ok isDay, .ok isTime => .ok (isDay || isTime)
    | .error f, _ => .error f
    | .ok _, .error f => .error f

/-! ### Rotation and retention -/

/-- When a log file is replaced: before it would have more than some number of octets, or when some time has come. -/
inductive Rotation where
  | size (limit : Binary64)
  | time
deriving DecidableEq, Repr

/-- When a log file is replaced. -/
def readRotation (t : Text) : Except Fault Rotation := do
  if let some limit ← readSize t then return .size limit
  if (← Duration.read t).isSome then return .time
  if isFrequency t then return .time
  if ← readDaytime t then return .time
  throw (.rotation t)

/-- How long old log files are kept, in microseconds. -/
def readRetention (t : Text) : Except Fault Int := do
  match ← Duration.read t with
  | some length => pure length
  | none => throw (.retention t)

end Log

end SaslBind
