import SaslBind.Number.Places
import SaslBind.Text.Quoted

/-!
# Spans of time and time zones

A span is a number of days, which may be negative, and a part of a day that is not.  A time zone is an
offset from the universal time, perhaps with a name.

* `TimeSpan.str`, `TimeSpan.repr` : a span as it is usually written, and with its type;
* `Zone.str`, `Zone.repr` : the same of a time zone.
-/

namespace SaslBind

/-- Numbers with commas between them. -/
def Text.numbers (ns : List Nat) : Text := Text.join ", ".toText (ns.map Text.ofNat)

/-- A time of the day. -/
structure ClockTime where
  hour : Nat
  minute : Nat
  second : Nat
  microsecond : Nat
deriving DecidableEq, Repr

namespace ClockTime

/-- The fraction of the second, if there is one. -/
def fraction (c : ClockTime) : Text :=
  if c.microsecond = 0 then [] else ".".toText ++ Text.padded 6 c.microsecond

/-- A time of the day as it is usually written. -/
def str (c : ClockTime) : Text :=
  Text.padded 2 c.hour ++ ":".toText ++ Text.padded 2 c.minute ++ ":".toText ++ Text.padded 2 c.second ++ c.fraction

/-- The parts of a time of the day, without those at the end that are zero; minutes are always there. -/
def parts (c : ClockTime) : List Nat :=
  if c.microsecond ≠ 0 then [c.hour, c.minute, c.second, c.microsecond]
  else if c.second ≠ 0 then [c.hour, c.minute, c.second]
  else [c.hour, c.minute]

/-- The time of the day after so many seconds of it. -/
def ofSeconds (seconds microsecond : Nat) : ClockTime :=
  ⟨seconds / 3600, seconds / 60 % 60, seconds % 60, microsecond⟩

end ClockTime

/-- A span of time. -/
structure TimeSpan where
  days : Int
  seconds : Nat
  microseconds : Nat
deriving DecidableEq, Repr

namespace TimeSpan

/-- How many seconds a day has. -/
def daySeconds : Nat := 86400

/-- How many days a span has at most. -/
def greatestDays : Int := 999999999

/-- The span of so many minutes. -/
def ofMinutes (minutes : Int) : TimeSpan :=
  let seconds := minutes * 60
  ⟨seconds.fdiv daySeconds, (seconds.fmod daySeconds).toNat, 0⟩

/-- The shortest span. -/
def least : TimeSpan := ⟨-greatestDays, 0, 0⟩

/-- The longest span. -/
def greatest : TimeSpan := ⟨greatestDays, daySeconds - 1, 999999⟩

/-- The shortest step between two times. -/
def step : TimeSpan := ⟨0, 0, 1⟩

/-- A span as it is usually written. -/
def str (s : TimeSpan) : Text :=
  let days := Text.ofInt s.days ++ (if s.days.natAbs = 1 then " day, ".toText else " days, ".toText)
  let c := ClockTime.ofSeconds s.seconds s.microseconds
  (if s.days = 0 then [] else days) ++ Text.ofNat c.hour ++ ":".toText ++ Text.padded 2 c.minute ++ ":".toText ++
    Text.padded 2 c.second ++ c.fraction

/-- A part of a span with its name, unless it is zero. -/
def named (name : String) (n : Int) : List Text := if n = 0 then [] else [name.toText ++ "=".toText ++ Text.ofInt n]

/-- A span with its type and its parts. -/
def repr (s : TimeSpan) : Text :=
  let parts := named "days" s.days ++ named "seconds" s.seconds ++ named "microseconds" s.microseconds
  let shown := if parts.isEmpty then ["0".toText] else parts
  "datetime.timedelta(".toText ++ Text.join ", ".toText shown ++ ")".toText

end TimeSpan

/-- A time zone: its offset in minutes, and its name. -/
structure Zone where
  minutes : Int
  name : Option Text
deriving DecidableEq, Repr

namespace Zone

/-- The universal time. -/
def universal : Zone := ⟨0, none⟩

/-- The universal time by its name. -/
def named : Zone := ⟨0, some "UTC".toText⟩

/-- The greatest offset. -/
def greatestMinutes : Int := 1439

/-- The zone farthest behind the universal time. -/
def least : Zone := ⟨-greatestMinutes, none⟩

/-- The zone farthest ahead of the universal time. -/
def greatest : Zone := ⟨greatestMinutes, none⟩

/-- An offset, with something between hours and minutes. -/
def offset (separator : String) (z : Zone) : Text :=
  (if z.minutes < 0 then "-".toText else "+".toText) ++ Text.padded 2 (z.minutes.natAbs / 60) ++
    separator.toText ++ Text.padded 2 (z.minutes.natAbs % 60)

/-- The name of a zone, or its distance to the universal time. -/
def str (z : Zone) : Text :=
  match z.name with
  | some name => name
  | none => if z.minutes = 0 then "UTC".toText else "UTC".toText ++ z.offset ":"

/-- A zone with its type and its parts. -/
def repr (z : Zone) : Text :=
  let name := match z.name with
    | some name => ", ".toText ++ Text.quoted name
    | none => []
  if z = universal then "datetime.timezone.utc".toText
  else "datetime.timezone(".toText ++ (TimeSpan.ofMinutes z.minutes).repr ++ name ++ ")".toText

end Zone

end SaslBind
