import SqlText.Text.Integer

/-!
# Dates and times — their ISO texts

    (DateTime.mk ⟨2024, 1, 31⟩ 9 5 0 0 none).isoText  =  "2024-01-31 09:05:00"

A date is a day of the proleptic Gregorian calendar; a time of day may carry its distance
from universal time in seconds. The ISO text shows microseconds and the seconds of an
offset only where they are not zero.
-/

namespace SqlText

/-- A calendar day. -/
structure Date where
  year : Nat
  month : Nat
  day : Nat
deriving DecidableEq, Inhabited

/-- A day and a time of day, with the distance from universal time in seconds if it is
known. -/
structure DateTime where
  date : Date
  hour : Nat
  minute : Nat
  second : Nat
  microsecond : Nat
  offset : Option Int
deriving DecidableEq, Inhabited

namespace Calendar

/-- A number in at least `width` decimal digits. -/
def padded (width n : Nat) : String :=
  let digits := Nat.toDigits 10 n
  String.ofList (List.replicate (width - digits.length) '0' ++ digits)

/-- A distance from universal time: sign, hours and minutes, and seconds if there are any. -/
def offsetText (seconds : Int) : String :=
  let n := seconds.natAbs
  let tail := if n % 60 = 0 then "" else ":" ++ padded 2 (n % 60)
  (if seconds < 0 then "-" else "+") ++ padded 2 (n / 3600) ++ ":" ++
    padded 2 (n / 60 % 60) ++ tail

/-- Arguments in a call, separated by commas. -/
def arguments (ns : List Nat) : String := ", ".intercalate (ns.map Nat.repr)

/-- A time span as whole days and a rest that is not negative; days of zero are left out. -/
def spanText (seconds : Int) : String :=
  let days := seconds.fdiv 86400
  let rest := (seconds.fmod 86400).toNat
  let dayPart := if days = 0 then [] else ["days=" ++ Text.integerText days]
  let restPart := if rest = 0 then [] else ["seconds=" ++ rest.repr]
  "datetime.timedelta(" ++ ", ".intercalate (dayPart ++ restPart) ++ ")"

/-- A time zone of fixed offset in inspected form. -/
def zoneText (seconds : Int) : String :=
  if seconds = 0 then "datetime.timezone.utc"
  else "datetime.timezone(" ++ spanText seconds ++ ")"

end Calendar

open Calendar

namespace Date

/-- Year, month and day with hyphens between. -/
def isoText (d : Date) : String :=
  padded 4 d.year ++ "-" ++ padded 2 d.month ++ "-" ++ padded 2 d.day

/-- The inspected form of a date. -/
def inspect (d : Date) : String :=
  "datetime.date(" ++ arguments [d.year, d.month, d.day] ++ ")"

/-- The days since the beginning of year one, by the Gregorian leap rule. -/
def dayNumber (d : Date) : Int :=
  let y := d.year - 1
  let leap := d.year % 4 = 0 && (d.year % 100 ≠ 0 || d.year % 400 = 0)
  let before := [0, 31, 59, 90, 120, 151, 181, 212, 243, 273, 304, 334].getD (d.month - 1) 0
  let leapDay := if leap && 2 < d.month then 1 else 0
  y * 365 + y / 4 - y / 100 + y / 400 + before + leapDay + d.day

end Date

namespace DateTime

/-- The ISO text with a space between day and time. -/
def isoText (t : DateTime) : String :=
  let fraction := if t.microsecond = 0 then "" else "." ++ padded 6 t.microsecond
  let zone := match t.offset with
    | none         => ""
    | some seconds => offsetText seconds
  t.date.isoText ++ " " ++ padded 2 t.hour ++ ":" ++ padded 2 t.minute ++ ":" ++
    padded 2 t.second ++ fraction ++ zone

/-- The inspected form of a point in time: trailing zeros of seconds and microseconds are
left out, hours and minutes never. -/
def inspect (t : DateTime) : String :=
  let clock :=
    if t.microsecond ≠ 0 then [t.hour, t.minute, t.second, t.microsecond]
    else if t.second ≠ 0 then [t.hour, t.minute, t.second]
    else [t.hour, t.minute]
  let zone := match t.offset with
    | none         => ""
    | some seconds => ", tzinfo=" ++ zoneText seconds
  "datetime.datetime(" ++ arguments ([t.date.year, t.date.month, t.date.day] ++ clock) ++
    zone ++ ")"

/-- Microseconds since the beginning of year one, in universal time if the offset is known. -/
def instant (t : DateTime) : Int :=
  let clock : Int := t.hour * 3600 + t.minute * 60 + t.second
  (t.date.dayNumber * 86400 + clock - t.offset.getD 0) * 1000000 + t.microsecond

end DateTime

end SqlText
