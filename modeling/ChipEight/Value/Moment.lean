/-!
# Dates and times of day

A moment is a date, alone or with a time of day to the microsecond and perhaps an
offset from universal time.  Only moments of the proleptic Gregorian calendar can be
built.
-/

namespace ChipEight

/-- A time of day, with the offset from universal time in seconds where it is
known. -/
structure TimeOfDay where
  hour : Nat
  minute : Nat
  second : Nat
  microsecond : Nat
  offset : Option Int
  deriving DecidableEq, Repr, Inhabited

/-- A date, alone or with a time of day. -/
structure Moment where
  year : Nat
  month : Nat
  day : Nat
  time : Option TimeOfDay
  deriving DecidableEq, Repr, Inhabited

namespace Moment

/-- Whether a year has a twenty-ninth of February. -/
def isLeap (year : Nat) : Bool :=
  year % 4 == 0 && (year % 100 != 0 || year % 400 == 0)

/-- The number of days of a month. -/
def daysIn (year month : Nat) : Nat :=
  if month = 2 then (if isLeap year then 29 else 28)
  else if month = 4 ∨ month = 6 ∨ month = 9 ∨ month = 11 then 30
  else 31

/-- The number of days from the first of March of the year zero to a date. -/
def dayNumber (moment : Moment) : Int :=
  let late := 2 < moment.month
  let year : Int := if late then moment.year else moment.year - 1
  let month : Int := if late then moment.month - 3 else moment.month + 9
  365 * year + year / 4 - year / 100 + year / 400 + (153 * month + 2) / 5 + moment.day

/-- The microseconds of universal time up to a moment, if it has an offset. -/
def instant? (moment : Moment) : Option Int :=
  moment.time.bind fun time => time.offset.map fun offset =>
    1000000 * (86400 * moment.dayNumber + 3600 * time.hour + 60 * time.minute + time.second -
      offset) + time.microsecond

/-- Whether two moments are the same.  With offsets that is a question of universal time
alone. -/
def same (a b : Moment) : Bool :=
  match a.instant?, b.instant? with
  | some s, some t => s == t
  | _, _ => a == b

/-- The first part of a moment that lies outside the calendar, in words. -/
def complaint? (moment : Moment) : Option String :=
  if moment.year = 0 ∨ 9999 < moment.year then
    some ("year " ++ toString moment.year ++ " is out of range")
  else if moment.month = 0 ∨ 12 < moment.month then some "month must be in 1..12"
  else if moment.day = 0 ∨ daysIn moment.year moment.month < moment.day then
    some "day is out of range for month"
  else
    match moment.time with
    | none => none
    | some time =>
        if 23 < time.hour then some "hour must be in 0..23"
        else if 59 < time.minute then some "minute must be in 0..59"
        else if 59 < time.second then some "second must be in 0..59"
        else none

/-- A number with leading zeros up to `width` digits. -/
def padded (width n : Nat) : String :=
  let digits := toString n
  String.ofList (List.replicate (width - digits.length) '0') ++ digits

/-- An offset as a sign, hours and minutes. -/
def offsetText (offset : Int) : String :=
  let minutes := offset.natAbs / 60
  (if offset < 0 then "-" else "+") ++ padded 2 (minutes / 60) ++ ":" ++ padded 2 (minutes % 60)

/-- The moment in the order year, month, day and time. -/
def plain (moment : Moment) : String :=
  let date := padded 4 moment.year ++ "-" ++ padded 2 moment.month ++ "-" ++ padded 2 moment.day
  match moment.time with
  | none => date
  | some time =>
      let fraction := if time.microsecond = 0 then "" else "." ++ padded 6 time.microsecond
      let zone := (time.offset.map offsetText).getD ""
      date ++ " " ++ padded 2 time.hour ++ ":" ++ padded 2 time.minute ++ ":" ++
        padded 2 time.second ++ fraction ++ zone

/-- An offset as a whole number of days and seconds of a day. -/
def offsetDisplay (offset : Int) : String :=
  if offset = 0 then "datetime.timezone.utc"
  else
    let days := if offset < 0 then "days=-1, " else ""
    "datetime.timezone(datetime.timedelta(" ++ days ++ "seconds=" ++
      toString (offset.emod 86400) ++ "))"

/-- So many values stand inside each other in the display form of a moment: the moment itself,
its zone, and how far the zone is from universal time unless it is that. -/
def layers (moment : Moment) : Nat :=
  match moment.time.bind TimeOfDay.offset with
  | none => 1
  | some offset => if offset = 0 then 2 else 3

/-- The moment as a listing of its parts.  Zero seconds and microseconds at the end
of the list are left out. -/
def display (moment : Moment) : String :=
  let date := [moment.year, moment.month, moment.day]
  match moment.time with
  | none => "datetime.date(" ++ ", ".intercalate (date.map toString) ++ ")"
  | some time =>
      let rest :=
        if time.microsecond ≠ 0 then [time.second, time.microsecond]
        else if time.second ≠ 0 then [time.second]
        else []
      let parts := (date ++ [time.hour, time.minute] ++ rest).map toString
      let zone := (time.offset.map fun offset => "tzinfo=" ++ offsetDisplay offset).toList
      "datetime.datetime(" ++ ", ".intercalate (parts ++ zone) ++ ")"

end Moment

end ChipEight
