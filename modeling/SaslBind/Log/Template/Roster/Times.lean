import SaslBind.Log.Template.Roster.Types

/-!
# Methods of times

What can be done with times, dates, zones and spans.
-/

namespace SaslBind

namespace Log

namespace Template

/-- The methods that times and what belongs to them have of their own. -/
def timeMethods : Kind → List Method
  | .fileTime =>
    [⟨"__init__", .written, none, none⟩,
      ⟨"__format__", .written, none, none⟩]
  | .logTime =>
    [⟨"__format__", .written, none, none⟩]
  | .moment =>
    [⟨"now", .onType, some "($type, /, tz=None)",
        some ("Returns new datetime object representing current time local to tz.\n\n  tz\n    Timezone " ++
              "object.\n\nIf no tz is specified, uses local timezone.")⟩,
      ⟨"utcnow", .onType, none, some "Return a new datetime representing UTC day and time."⟩,
      ⟨"fromtimestamp", .onType, none, some "timestamp[, tz] -> tz's local time from POSIX timestamp."⟩,
      ⟨"utcfromtimestamp", .onType, none, some "Construct a naive UTC datetime from a POSIX timestamp."⟩,
      ⟨"strptime", .onType, none,
        some "string, format -> new datetime parsed from a string (like time.strptime())."⟩,
      ⟨"combine", .onType, none, some "date, time -> datetime with same date and time fields"⟩,
      ⟨"fromisoformat", .onType, none, some "string -> datetime from a string in most ISO 8601 formats"⟩,
      ⟨"date", .onThing, none, some "Return date object with same year, month and day."⟩,
      ⟨"time", .onThing, none, some "Return time object with same time but with tzinfo=None."⟩,
      ⟨"timetz", .onThing, none, some "Return time object with same time and tzinfo."⟩,
      ⟨"ctime", .onThing, none, some "Return ctime() style string."⟩,
      ⟨"timetuple", .onThing, none, some "Return time tuple, compatible with time.localtime()."⟩,
      ⟨"timestamp", .onThing, none, some "Return POSIX timestamp as float."⟩,
      ⟨"utctimetuple", .onThing, none, some "Return UTC time tuple, compatible with time.localtime()."⟩,
      ⟨"isoformat", .onThing, none,
        some ("[sep] -> string in ISO 8601 format, YYYY-MM-DDT[HH[:MM[:SS[.mmm[uuu]]]]][+HH:MM].\nsep is " ++
              "used to separate the year from the time, and defaults to 'T'.\nThe optional argument " ++
              "timespec specifies the number of additional terms\nof the time to include. Valid options " ++
              "are 'auto', 'hours', 'minutes',\n'seconds', 'milliseconds' and 'microseconds'.\n")⟩,
      ⟨"utcoffset", .onThing, none, some "Return self.tzinfo.utcoffset(self)."⟩,
      ⟨"tzname", .onThing, none, some "Return self.tzinfo.tzname(self)."⟩,
      ⟨"dst", .onThing, none, some "Return self.tzinfo.dst(self)."⟩,
      ⟨"replace", .onThing, none, some "Return datetime with new specified fields."⟩,
      ⟨"astimezone", .onThing, none, some "tz -> convert to local time in new timezone tz\n"⟩,
      ⟨"__reduce_ex__", .onThing, none, some "__reduce_ex__(proto) -> (cls, state)"⟩,
      ⟨"__reduce__", .onThing, none, some "__reduce__() -> (cls, state)"⟩]
  | .date =>
    [⟨"fromtimestamp", .onType, some "($type, timestamp, /)",
        some ("Create a date from a POSIX timestamp.\n\nThe timestamp is a number, e.g. created via " ++
              "time.time(), that is interpreted\nas local time.")⟩,
      ⟨"fromordinal", .onType, none, some "int -> date corresponding to a proleptic Gregorian ordinal."⟩,
      ⟨"fromisoformat", .onType, none, some "str -> Construct a date from a string in ISO 8601 format."⟩,
      ⟨"fromisocalendar", .onType, none,
        some ("int, int, int -> Construct a date from the ISO year, week number and weekday.\n\nThis is " ++
              "the inverse of the date.isocalendar() function")⟩,
      ⟨"today", .onType, none,
        some "Current date or datetime:  same as self.__class__.fromtimestamp(time.time())."⟩,
      ⟨"ctime", .onThing, none, some "Return ctime() style string."⟩,
      ⟨"strftime", .onThing, none, some "format -> strftime() style string."⟩,
      ⟨"__format__", .onThing, none, some "Formats self with strftime."⟩,
      ⟨"timetuple", .onThing, none, some "Return time tuple, compatible with time.localtime()."⟩,
      ⟨"isocalendar", .onThing, none, some "Return a named tuple containing ISO year, week number, and weekday."⟩,
      ⟨"isoformat", .onThing, none, some "Return string in ISO 8601 format, YYYY-MM-DD."⟩,
      ⟨"isoweekday", .onThing, none,
        some "Return the day of the week represented by the date.\nMonday == 1 ... Sunday == 7"⟩,
      ⟨"toordinal", .onThing, none, some "Return proleptic Gregorian ordinal.  January 1 of year 1 is day 1."⟩,
      ⟨"weekday", .onThing, none,
        some "Return the day of the week represented by the date.\nMonday == 0 ... Sunday == 6"⟩,
      ⟨"replace", .onThing, none, some "Return date with new specified fields."⟩,
      ⟨"__reduce__", .onThing, none, some "__reduce__() -> (cls, state)"⟩]
  | .zone =>
    [⟨"tzname", .onThing, none,
        some ("If name is specified when timezone is created, returns the name.  Otherwise returns offset " ++
              "as 'UTC(+|-)HH:MM'.")⟩,
      ⟨"utcoffset", .onThing, none, some "Return fixed offset."⟩,
      ⟨"dst", .onThing, none, some "Return None."⟩,
      ⟨"fromutc", .onThing, none, some "datetime in UTC -> datetime in local time."⟩,
      ⟨"__getinitargs__", .onThing, none, some "pickle support"⟩]
  | .anyZone =>
    [⟨"tzname", .onThing, none, some "datetime -> string name of time zone."⟩,
      ⟨"utcoffset", .onThing, none,
        some "datetime -> timedelta showing offset from UTC, negative values indicating West of UTC"⟩,
      ⟨"dst", .onThing, none, some "datetime -> DST offset as timedelta positive east of UTC."⟩,
      ⟨"fromutc", .onThing, none, some "datetime in UTC -> datetime in local time."⟩,
      ⟨"__reduce__", .onThing, none, some "-> (cls, state)"⟩]
  | .span =>
    [⟨"total_seconds", .onThing, none, some "Total seconds in the duration."⟩,
      ⟨"__reduce__", .onThing, none, some "__reduce__() -> (cls, state)"⟩]
  | _ => []

end Template

end Log

end SaslBind
