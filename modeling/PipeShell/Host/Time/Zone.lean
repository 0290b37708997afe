import PipeShell.Host.Time.Calendar

/-! # Time zones

How local time differs from universal time, and how it is called. Many zones have a summer time that
begins and ends on a day of each year. -/

namespace PipeShell.Host

/-- A time that is kept somewhere: what it is called, and how many seconds it is ahead of universal
time. -/
structure LocalTime where
  name : String
  ahead : Int
  isSummer : Bool := false
  deriving Repr, DecidableEq

/-- A day of each year. -/
inductive YearDay where
  /-- The day of a week of a month; the fifth week is the last one. -/
  | weekday (month week day : Nat)
  /-- The day of the year, from one, as if there were no leap years. -/
  | common (n : Nat)
  /-- The day of the year, from zero. -/
  | counted (n : Nat)
  deriving Repr, DecidableEq

/-- When summer time begins or ends: a day of each year and a number of seconds on it. -/
structure Change where
  day : YearDay
  time : Int := 7200
  deriving Repr, DecidableEq

structure Summer where
  time : LocalTime
  start : Change
  stop : Change
  deriving Repr, DecidableEq

structure Zone where
  standard : LocalTime
  summer : Option Summer := none
  deriving Repr, DecidableEq

namespace Change

def isLeap (year : Int) : Bool :=
  year.fmod 4 == 0 && (year.fmod 100 != 0 || year.fmod 400 == 0)

/-- The seconds of a change by the clock that is valid before it. -/
def secondsIn (year : Int) (c : Change) : Int :=
  let dayStart : Int := match c.day with
    | .counted n => (Calendar.days { year, month := 1, day := 1 }) + n
    | .common n =>
      let first := Calendar.days { year, month := 1, day := 1 }
      first + n - 1 + (if isLeap year && 60 ≤ n then 1 else 0)
    | .weekday month week day =>
      let first : Calendar := { year, month, day := 1 }
      let toFirst := (day + 7 - first.weekday) % 7
      let next := Calendar.days { year, month := month + 1, day := 1 }
      let wanted := first.days + toFirst + 7 * ((week - 1 : Nat) : Int)
      if next ≤ wanted then wanted - 7 else wanted
  dayStart * Calendar.secondsOfDay + c.time

end Change

namespace Zone

def universal : Zone := { standard := ⟨"UTC", 0, false⟩ }

/-- A zone that is so many seconds ahead at all times. -/
def fixed (ahead : Int) : Zone := { standard := ⟨"", ahead, false⟩ }

/-- The local time at a moment. -/
def localTime (z : Zone) (seconds : Int) : LocalTime :=
  match z.summer with
  | none => z.standard
  | some s =>
    let year := (Calendar.ofSeconds seconds).year
    let start := s.start.secondsIn year - z.standard.ahead
    let stop := s.stop.secondsIn year - s.time.ahead
    let isSummer :=
      if start ≤ stop then start ≤ seconds && seconds < stop
      else !(stop ≤ seconds && seconds < start)
    if isSummer then s.time else z.standard

/-- What the clocks show at a moment. -/
def calendar (z : Zone) (seconds : Int) : Calendar := .ofSeconds (seconds + (z.localTime seconds).ahead)

/-- The moment at which the clocks show a time. Where they do so twice, or never, it can be said
whether summer time is meant; else it is the earlier moment, or the one that the time before the
change leads to. -/
def moment (z : Zone) (isSummer : Option Bool) (c : Calendar) : Int :=
  let early := c.seconds - z.standard.ahead
  match z.summer with
  | none => early
  | some s =>
    let late := c.seconds - s.time.ahead
    match isSummer with
    | some true => late
    | some false => early
    | none =>
      if z.localTime late == s.time then late
      else early

/-! ## Reading -/

section

def isLetter (c : Char) : Bool := c.isAlpha

/-- The name in front of a description. -/
def name? (cs : List Char) : Option (String × List Char) :=
  let letters := cs.takeWhile isLetter
  if 3 ≤ letters.length then some (String.ofList letters, cs.drop letters.length)
  else match cs with
    | '<' :: rest =>
      let inside := rest.takeWhile fun c => c.isAlphanum || c == '+' || c == '-'
      match rest.drop inside.length with
      | '>' :: rest => if 3 ≤ inside.length then some (String.ofList inside, rest) else none
      | _ => none
    | _ => none

/-- A number in front of other characters. -/
def number? (cs : List Char) : Option (Nat × List Char) :=
  let digits := cs.takeWhile Char.isDigit
  if digits.isEmpty then none
  else some (digits.foldl (fun n c => 10 * n + (c.toNat - '0'.toNat)) 0, cs.drop digits.length)

/-- Hours, and perhaps minutes and seconds, as seconds. -/
def clock? (cs : List Char) : Option (Int × List Char) := do
  let (h, cs) ← number? cs
  let hours : Int := h * 3600
  match cs with
  | ':' :: rest => match number? rest with
    | none => some (hours, cs)
    | some (m, cs) =>
      let minutes : Int := hours + (min m 59 : Nat) * 60
      match cs with
      | ':' :: rest => match number? rest with
        | none => some (minutes, cs)
        | some (s, cs) => some (minutes + (min s 59 : Nat), cs)
      | _ => some (minutes, cs)
  | _ => some (hours, cs)

/-- A sign and a clock; a plus sign means to be behind. -/
def ahead? (cs : List Char) : Option (Int × List Char) :=
  let (sign, cs) : Int × List Char := match cs with
    | '-' :: rest => (1, rest)
    | '+' :: rest => (-1, rest)
    | cs => (-1, cs)
  (clock? cs).map fun (n, rest) => (sign * n, rest)

/-- The day and the time of a change, behind a comma. -/
def change? (cs : List Char) : Option (Change × List Char) := do
  let cs ← match cs with
    | ',' :: rest => some rest
    | _ => none
  let (day, cs) ← match cs with
    | 'J' :: rest => do
      let (n, rest) ← number? rest
      if 1 ≤ n && n ≤ 365 then some (YearDay.common n, rest) else none
    | 'M' :: rest => do
      let (month, rest) ← number? rest
      let (week, rest) ← number? (← behind '.' rest)
      let (day, rest) ← number? (← behind '.' rest)
      if 1 ≤ month && month ≤ 12 && 1 ≤ week && week ≤ 5 && day ≤ 6 then
        some (YearDay.weekday month week day, rest)
      else none
    | rest => do
      let (n, rest) ← number? rest
      if n ≤ 365 then some (YearDay.counted n, rest) else none
  match cs with
  | '/' :: rest =>
    let (sign, rest) : Int × List Char := match rest with
      | '-' :: rest => (-1, rest)
      | '+' :: rest => (1, rest)
      | rest => (1, rest)
    match clock? rest with
    | some (n, rest) => some ({ day, time := sign * n }, rest)
    | none => some ({ day }, rest)
  | cs => some ({ day }, cs)
where
  behind (c : Char) : List Char → Option (List Char)
    | d :: rest => if c == d then some rest else none
    | [] => none

/-- When summer time begins and ends where nothing is said of that. -/
def usualChanges : Change × Change :=
  ({ day := .weekday 3 2 0 }, { day := .weekday 11 1 0 })

/-- A zone by a description such as `CET-1CEST,M3.5.0,M10.5.0/3`. What cannot be read of it is left
out. -/
def ofDescription (text : String) : Zone :=
  match name? text.toList with
  | none => { standard := ⟨"", 0, false⟩ }
  | some (name, cs) => match ahead? cs with
    | none => { standard := ⟨name, 0, false⟩ }
    | some (ahead, cs) =>
      let standard : LocalTime := ⟨name, ahead, false⟩
      match name? cs with
      | none => { standard }
      | some (summer, cs) =>
        let (summerAhead, cs) := (ahead? cs).getD (ahead + 3600, cs)
        let time : LocalTime := ⟨summer, summerAhead, true⟩
        match change? cs with
        | none => { standard, summer := some { time, start := usualChanges.1, stop := usualChanges.2 } }
        | some (start, cs) =>
          let stop := ((change? cs).map (·.1)).getD usualChanges.2
          { standard, summer := some { time, start, stop } }

end

/-- Zones by the names of places, with their descriptions. -/
def places : List (String × String) := [
  ("UTC", "UTC0"), ("Etc/UTC", "UTC0"), ("UCT", "UTC0"), ("Etc/UCT", "UTC0"), ("Universal", "UTC0"),
  ("Zulu", "UTC0"), ("GMT", "GMT0"), ("Etc/GMT", "GMT0"), ("GMT0", "GMT0"), ("Greenwich", "GMT0"),
  ("EST", "EST5"), ("MST", "MST7"), ("HST", "HST10"), ("CET", "CET-1CEST,M3.5.0,M10.5.0/3"),
  ("MET", "MET-1MEST,M3.5.0,M10.5.0/3"), ("EET", "EET-2EEST,M3.5.0/3,M10.5.0/4"),
  ("WET", "WET0WEST,M3.5.0/1,M10.5.0"), ("EST5EDT", "EST5EDT"), ("CST6CDT", "CST6CDT"),
  ("MST7MDT", "MST7MDT"), ("PST8PDT", "PST8PDT"), ("America/New_York", "EST5EDT"),
  ("US/Eastern", "EST5EDT"), ("America/Toronto", "EST5EDT"), ("America/Chicago", "CST6CDT"),
  ("US/Central", "CST6CDT"), ("America/Denver", "MST7MDT"), ("US/Mountain", "MST7MDT"),
  ("America/Phoenix", "MST7"), ("America/Los_Angeles", "PST8PDT"), ("US/Pacific", "PST8PDT"),
  ("America/Anchorage", "AKST9AKDT"), ("Pacific/Honolulu", "HST10"),
  ("America/Sao_Paulo", "<-03>3"), ("America/Argentina/Buenos_Aires", "<-03>3"),
  ("America/Bogota", "<-05>5"), ("Europe/London", "GMT0BST,M3.5.0/1,M10.5.0"),
  ("Europe/Dublin", "GMT0IST,M3.5.0/1,M10.5.0"), ("Europe/Lisbon", "WET0WEST,M3.5.0/1,M10.5.0"),
  ("Europe/Paris", "CET-1CEST,M3.5.0,M10.5.0/3"), ("Europe/Berlin", "CET-1CEST,M3.5.0,M10.5.0/3"),
  ("Europe/Madrid", "CET-1CEST,M3.5.0,M10.5.0/3"), ("Europe/Rome", "CET-1CEST,M3.5.0,M10.5.0/3"),
  ("Europe/Vienna", "CET-1CEST,M3.5.0,M10.5.0/3"), ("Europe/Zurich", "CET-1CEST,M3.5.0,M10.5.0/3"),
  ("Europe/Amsterdam", "CET-1CEST,M3.5.0,M10.5.0/3"),
  ("Europe/Brussels", "CET-1CEST,M3.5.0,M10.5.0/3"),
  ("Europe/Stockholm", "CET-1CEST,M3.5.0,M10.5.0/3"), ("Europe/Oslo", "CET-1CEST,M3.5.0,M10.5.0/3"),
  ("Europe/Copenhagen", "CET-1CEST,M3.5.0,M10.5.0/3"),
  ("Europe/Prague", "CET-1CEST,M3.5.0,M10.5.0/3"), ("Europe/Warsaw", "CET-1CEST,M3.5.0,M10.5.0/3"),
  ("Europe/Athens", "EET-2EEST,M3.5.0/3,M10.5.0/4"),
  ("Europe/Helsinki", "EET-2EEST,M3.5.0/3,M10.5.0/4"),
  ("Europe/Kiev", "EET-2EEST,M3.5.0/3,M10.5.0/4"), ("Europe/Moscow", "MSK-3"),
  ("Europe/Istanbul", "<+03>-3"), ("Africa/Cairo", "EET-2EEST,M4.5.5/0,M10.5.4/24"),
  ("Africa/Johannesburg", "SAST-2"), ("Africa/Lagos", "WAT-1"), ("Africa/Nairobi", "EAT-3"),
  ("Asia/Dubai", "<+04>-4"), ("Asia/Karachi", "PKT-5"), ("Asia/Kolkata", "IST-5:30"),
  ("Asia/Calcutta", "IST-5:30"), ("Asia/Kathmandu", "<+0545>-5:45"), ("Asia/Dhaka", "<+06>-6"),
  ("Asia/Bangkok", "<+07>-7"), ("Asia/Jakarta", "WIB-7"), ("Asia/Shanghai", "CST-8"),
  ("Asia/Hong_Kong", "HKT-8"), ("Asia/Singapore", "<+08>-8"), ("Asia/Taipei", "CST-8"),
  ("Asia/Manila", "PST-8"), ("Asia/Tokyo", "JST-9"), ("Japan", "JST-9"), ("Asia/Seoul", "KST-9"),
  ("Australia/Perth", "AWST-8"), ("Australia/Darwin", "ACST-9:30"),
  ("Australia/Adelaide", "ACST-9:30ACDT,M10.1.0,M4.1.0/3"), ("Australia/Brisbane", "AEST-10"),
  ("Australia/Sydney", "AEST-10AEDT,M10.1.0,M4.1.0/3"),
  ("Australia/Melbourne", "AEST-10AEDT,M10.1.0,M4.1.0/3"),
  ("Pacific/Auckland", "NZST-12NZDT,M9.5.0,M4.1.0/3")]

/-- The zone that a variable names. Without a name the time is universal. -/
def ofName (name : Option String) : Zone :=
  match name with
  | none => universal
  | some name =>
    let name := if name.startsWith ":" then String.ofList (name.toList.drop 1) else name
    if name.isEmpty then universal
    else ofDescription ((places.lookup name).getD name)

end Zone
end PipeShell.Host
