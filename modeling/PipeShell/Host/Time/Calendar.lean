/-! # The calendar

Days, and the times of a day, as numbers of seconds since the beginning of 1970. The calendar is the
Gregorian one at all times. -/

namespace PipeShell.Host

/-- A day and a time. Parts beyond their bounds are carried over: the thirteenth month is the first
one of the next year. -/
structure Calendar where
  year : Int
  month : Int
  day : Int
  hour : Int := 0
  minute : Int := 0
  second : Int := 0
  deriving Repr, DecidableEq, BEq

namespace Calendar

def secondsOfDay : Int := 86400

/-- The days from the beginning of 1970 to a day. Years begin in March, so that the day that only
some years have is the last. -/
def days (c : Calendar) : Int :=
  let months := c.year * 12 + (c.month - 1)
  let year := months.fdiv 12
  let month := months.fmod 12 + 1
  let year := if month ≤ 2 then year - 1 else year
  let era := year.fdiv 400
  let ofEra := year - era * 400
  let month := if month > 2 then month - 3 else month + 9
  let ofYear := (153 * month + 2) / 5 + c.day - 1
  era * 146097 + (ofEra * 365 + ofEra / 4 - ofEra / 100 + ofYear) - 719468

def seconds (c : Calendar) : Int :=
  c.days * secondsOfDay + c.hour * 3600 + c.minute * 60 + c.second

/-- The parts of a number of seconds since the beginning of 1970. -/
def ofSeconds (seconds : Int) : Calendar :=
  let days := seconds.fdiv secondsOfDay + 719468
  let rest := seconds.fmod secondsOfDay
  let era := days.fdiv 146097
  let ofEra := days - era * 146097
  let yearOfEra := (ofEra - ofEra / 1460 + ofEra / 36524 - ofEra / 146096) / 365
  let ofYear := ofEra - (365 * yearOfEra + yearOfEra / 4 - yearOfEra / 100)
  let month := (5 * ofYear + 2) / 153
  let day := ofYear - (153 * month + 2) / 5 + 1
  let month := if month < 10 then month + 3 else month - 9
  { year := yearOfEra + era * 400 + (if month ≤ 2 then 1 else 0), month, day
    hour := rest / 3600, minute := rest / 60 % 60, second := rest % 60 }

/-- Whether there is such a day and such a time. -/
def isValid (c : Calendar) : Bool := ofSeconds c.seconds == c

/-- The day of the week, from Sunday. -/
def weekday (c : Calendar) : Nat := ((c.days + 4).fmod 7).toNat

/-- The day of the year, from one. -/
def dayOfYear (c : Calendar) : Nat :=
  (c.days - days { year := c.year, month := 1, day := 1 } + 1).toNat

/-- The week of the year, and the year that it belongs to: the one that has its Thursday. -/
def week (c : Calendar) : Int × Nat :=
  let weekday := (c.weekday + 6) % 7
  let thursday := ofSeconds ((c.days + 3 - weekday) * secondsOfDay)
  (thursday.year, (thursday.dayOfYear - 1) / 7 + 1)

def weekdays : List String :=
  ["Sunday", "Monday", "Tuesday", "Wednesday", "Thursday", "Friday", "Saturday"]

def months : List String := ["January", "February", "March", "April", "May", "June", "July",
  "August", "September", "October", "November", "December"]

end Calendar
end PipeShell.Host
