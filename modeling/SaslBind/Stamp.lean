import SaslBind.Stamp.TimeSpan

/-!
# Dates and times

A stamp is a date, a time of the day, or both, and then perhaps with a time zone.

* `Stamp.str` : a stamp as it is usually written;
* `Stamp.repr` : a stamp with its type and its parts.
-/

namespace SaslBind

/-- A day of the calendar. -/
structure Date where
  year : Nat
  month : Nat
  day : Nat
deriving DecidableEq, Repr

/-- A date and a time of the day, perhaps in a time zone. -/
structure Moment where
  date : Date
  clock : ClockTime
  zone : Option Zone
deriving DecidableEq, Repr

/-- A date, a time, or both. -/
inductive Stamp where
  | date (d : Date)
  | time (c : ClockTime)
  | moment (m : Moment)
deriving DecidableEq, Repr

namespace Date

/-- A date as it is usually written. -/
def str (d : Date) : Text :=
  Text.padded 4 d.year ++ "-".toText ++ Text.padded 2 d.month ++ "-".toText ++ Text.padded 2 d.day

/-- The parts of a date. -/
def parts (d : Date) : List Nat := [d.year, d.month, d.day]

/-- Whether a year has a day more. -/
def isLeap (year : Nat) : Bool := year % 4 = 0 && (year % 100 ≠ 0 || year % 400 = 0)

def daysIn (year month : Nat) : Nat :=
  if month = 2 then (if isLeap year then 29 else 28)
  else if month = 4 ∨ month = 6 ∨ month = 9 ∨ month = 11 then 30
  else 31

end Date

namespace Moment

/-- The first moment that can be written. -/
def least : Moment := ⟨⟨1, 1, 1⟩, ⟨0, 0, 0, 0⟩, none⟩

/-- The last moment that can be written. -/
def greatest : Moment := ⟨⟨9999, 12, 31⟩, ⟨23, 59, 59, 999999⟩, none⟩

/-- A moment of the universal time, in its zone without a name. -/
def universal (m : Moment) : Moment := { m with zone := some .universal }

/-- A moment as it is usually written. -/
def str (m : Moment) : Text :=
  m.date.str ++ " ".toText ++ m.clock.str ++ (m.zone.map (Zone.offset ":")).getD []

/-- The parts of a moment, with their type in front. -/
def typed (type : String) (m : Moment) : Text :=
  let zone := match m.zone with
    | some z => ", tzinfo=".toText ++ z.repr
    | none => []
  type.toText ++ "(".toText ++ Text.numbers (m.date.parts ++ m.clock.parts) ++ zone ++ ")".toText

end Moment

namespace Stamp

def typeName : Stamp → String
  | .date _ => "datetime.date"
  | .time _ => "datetime.time"
  | .moment _ => "datetime.datetime"

/-- A stamp as it is usually written. -/
def str : Stamp → Text
  | .date d => d.str
  | .time c => c.str
  | .moment m => m.str

/-- A stamp with its type and its parts. -/
def repr (s : Stamp) : Text :=
  let typed (parts : List Nat) : Text := s.typeName.toText ++ "(".toText ++ Text.numbers parts ++ ")".toText
  match s with
  | .date d => typed d.parts
  | .time c => typed c.parts
  | .moment m => m.typed s.typeName

end Stamp

end SaslBind
