namespace TokenScopes

/-- Why numbers do not make a date or a time. -/
inductive CalendarFault where
  | year (value : Nat)
  | month
  | day
  | hour
  | minute
  | second
  /-- An offset of a day or more, in minutes. -/
  | offset (minutes : Int)

/-- A date of the proleptic Gregorian calendar, in a year from 1 to 9999. -/
structure Date where
  year : Nat
  month : Nat
  day : Nat
  deriving DecidableEq

structure TimeOfDay where
  hour : Nat
  minute : Nat
  second : Nat
  microsecond : Nat
  deriving DecidableEq

/-- A date and a time, with an offset from universal time in minutes if it is known. -/
structure DateTime where
  date : Date
  time : TimeOfDay
  offset : Option Int
  deriving DecidableEq

def zeroPadded (width n : Nat) : String :=
  let ds := Nat.toDigits 10 n
  String.ofList (List.replicate (width - ds.length) '0' ++ ds)

namespace Date

def isLeap (year : Nat) : Bool :=
  year % 4 == 0 && (year % 100 != 0 || year % 400 == 0)

def daysInMonth (year month : Nat) : Nat :=
  if month = 2 then (if isLeap year then 29 else 28)
  else if month = 4 ∨ month = 6 ∨ month = 9 ∨ month = 11 then 30
  else 31

def of (year month day : Nat) : Except CalendarFault Date :=
  if year < 1 ∨ 9999 < year then .error (.year year)
  else if month < 1 ∨ 12 < month then .error .month
  else if day < 1 ∨ daysInMonth year month < day then .error .day
  else .ok ⟨year, month, day⟩

def iso (d : Date) : String :=
  zeroPadded 4 d.year ++ "-" ++ zeroPadded 2 d.month ++ "-" ++ zeroPadded 2 d.day

def dayNumber (d : Date) : Nat :=
  let y := d.year - 1
  let months := (List.range (d.month - 1)).map fun m => daysInMonth d.year (m + 1)
  y * 365 + y / 4 - y / 100 + y / 400 + months.foldl (· + ·) 0 + (d.day - 1)

end Date

namespace TimeOfDay

def of (hour minute second microsecond : Nat) : Except CalendarFault TimeOfDay :=
  if 23 < hour then .error .hour
  else if 59 < minute then .error .minute
  else if 59 < second then .error .second
  else .ok ⟨hour, minute, second, microsecond⟩

def iso (t : TimeOfDay) : String :=
  let clock := zeroPadded 2 t.hour ++ ":" ++ zeroPadded 2 t.minute ++ ":" ++ zeroPadded 2 t.second
  if t.microsecond = 0 then clock else clock ++ "." ++ zeroPadded 6 t.microsecond

end TimeOfDay

namespace DateTime

def checkOffset (minutes : Int) : Except CalendarFault Int :=
  if minutes.natAbs < 1440 then .ok minutes else .error (.offset minutes)

def isoOffset (minutes : Int) : String :=
  (if minutes < 0 then "-" else "+") ++ zeroPadded 2 (minutes.natAbs / 60) ++ ":" ++
    zeroPadded 2 (minutes.natAbs % 60)

/-- The ISO text with a separator between date and time. -/
def iso (separator : String) (t : DateTime) : String :=
  t.date.iso ++ separator ++ t.time.iso ++ (t.offset.map isoOffset).getD ""

/-- Microseconds since the first day of year 1, in universal time if the offset is known. -/
def instant (t : DateTime) : Int :=
  let minutes : Int := t.date.dayNumber * 1440 + t.time.hour * 60 + t.time.minute
  (minutes - t.offset.getD 0) * 60000000 + t.time.second * 1000000 + t.time.microsecond

/-- The same moment; a moment with a known offset never equals one without. -/
def sameMoment (a b : DateTime) : Bool :=
  a.offset.isSome == b.offset.isSome && a.instant == b.instant

end DateTime

/-- A length of time in minutes, written by its days and the seconds left over. -/
def durationText (minutes : Int) : String :=
  let days := minutes.fdiv 1440
  let seconds := minutes.fmod 1440 * 60
  let parts := (if days = 0 then [] else ["days=" ++ toString days]) ++
    (if seconds = 0 then [] else ["seconds=" ++ toString seconds])
  "datetime.timedelta(" ++ (if parts.isEmpty then "0" else ", ".intercalate parts) ++ ")"

def CalendarFault.message : CalendarFault → String
  | .year value => "year " ++ toString value ++ " is out of range"
  | .month => "month must be in 1..12"
  | .day => "day is out of range for month"
  | .hour => "hour must be in 0..23"
  | .minute => "minute must be in 0..59"
  | .second => "second must be in 0..59"
  | .offset minutes =>
    "offset must be a timedelta strictly between -timedelta(hours=24) and timedelta(hours=24), " ++
      "not " ++ durationText minutes ++ "."

end TokenScopes
