import SaslBind.Stamp

/-!
# The calendar

Where a date stands in its year, in its week, and among all days.

* `Date.dayOfYear`, `Date.ordinal`, `Date.weekday` : days, counted from the first of the year, from the
  first of all days, and from Monday;
* `Date.weekFrom` : weeks of the year, from a first day of the week on;
* `Date.isoWeek` : the week that belongs to the year with most of its days, and that year;
* `Moment.seconds` : the seconds of a moment since the beginning of the year 1970.
-/

namespace SaslBind

namespace Date

/-- The days of a year before a month. -/
def daysBefore (year month : Nat) : Nat :=
  (List.range (month - 1)).foldl (fun days m => days + daysIn year (m + 1)) 0

/-- The day of the year, from 1. -/
def dayOfYear (d : Date) : Nat := daysBefore d.year d.month + d.day

/-- The number of a day among all days, from 1. -/
def ordinal (d : Date) : Nat :=
  let years := d.year - 1
  years * 365 + years / 4 - years / 100 + years / 400 + d.dayOfYear

/-- The day of the week, from 0 on Monday. -/
def weekday (d : Date) : Nat := (d.ordinal + 6) % 7

/-- The week of the year, if weeks begin on a day of the week; days before the first of them are in week 0. -/
def weekFrom (first : Nat) (d : Date) : Nat := (d.dayOfYear + 6 - (d.weekday + 7 - first) % 7) / 7

/-- How many weeks belong to a year. -/
def weeksIn (year : Nat) : Nat :=
  let first := weekday ⟨year, 1, 1⟩
  if first = 3 ∨ (first = 2 ∧ isLeap year) then 53 else 52

/-- The year that the week of a date belongs to, and the number of the week in it. -/
def isoWeek (d : Date) : Nat × Nat :=
  match (d.dayOfYear + 9 - d.weekday) / 7 with
  | 0 => (d.year - 1, weeksIn (d.year - 1))
  | week + 1 => if weeksIn d.year < week + 1 then (d.year + 1, 1) else (d.year, week + 1)

def dayNames : List String := ["Monday", "Tuesday", "Wednesday", "Thursday", "Friday", "Saturday", "Sunday"]

def monthNames : List String :=
  ["January", "February", "March", "April", "May", "June", "July", "August", "September", "October", "November",
    "December"]

def dayName (d : Date) : Text := (dayNames.getD d.weekday "").toText

def monthName (d : Date) : Text := (monthNames.getD (d.month - 1) "").toText

/-- How many letters of a name are kept to shorten it. -/
def shortLength : Nat := 3

end Date

namespace ClockTime

/-- The hour on a clock with twelve of them. -/
def hourOfTwelve (c : ClockTime) : Nat := (c.hour + 11) % 12 + 1

/-- The half of the day. -/
def half (c : ClockTime) : Text := if c.hour < 12 then "AM".toText else "PM".toText

end ClockTime

/-- The number of the first day of the year 1970. -/
def Moment.epoch : Int := 719163

/-- The seconds since the beginning of the year 1970, the zone left out of account. -/
def Moment.seconds (m : Moment) : Int :=
  (m.date.ordinal - epoch) * TimeSpan.daySeconds + (m.clock.hour * 3600 + m.clock.minute * 60 + m.clock.second : Nat)

end SaslBind
