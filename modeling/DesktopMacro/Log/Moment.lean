/-
Moments as the calendar and the clock give them, and the forms in which a log shows them.
-/
import DesktopMacro.Cause

set_option autoImplicit false

namespace DesktopMacro

/-- A moment: a date, a time of day, and millionths of a second. -/
structure Moment where
  year : Nat
  month : Nat
  day : Nat
  hour : Nat
  minute : Nat
  second : Nat
  micro : Nat
deriving DecidableEq, Repr

namespace Moment

/-! ## The calendar -/

def isLeapYear (year : Nat) : Bool := year % 4 == 0 && (year % 100 != 0 || year % 400 == 0)

/-- The number of days of a month. -/
def daysIn (year month : Nat) : Nat :=
  match month with
  | 2 => if isLeapYear year then 29 else 28
  | 4 | 6 | 9 | 11 => 30
  | _ => 31

/-- The largest number that is taken for a part of a moment. -/
def largestPart : Int := 2147483647

/-- A part of a moment that has to be below a limit. -/
def readPart (name : String) (limit : Nat) (n : Int) : Except Cause Nat :=
  if 0 ≤ n && n < Int.ofNat limit then .ok n.toNat
  else .error (.badValue s!"{name} must be in 0..{limit - 1}")

/-- Reads a moment from its parts, year first; the time may be cut short. -/
def read (parts : List Int) : Except Cause Moment := do
  if parts.any (fun n => largestPart < n || n < -largestPart - 1) then
    throw (.tooLarge "integer too large for a part of a moment")
  match parts with
  | year :: month :: day :: time =>
    if year < 1 || 9999 < year then
      throw (.badValue s!"year {Integer.toText year} is out of range")
    if month < 1 || 12 < month then throw (.badValue "month must be in 1..12")
    if day < 1 || Int.ofNat (daysIn year.toNat month.toNat) < day then
      throw (.badValue "day is out of range for month")
    let hour ← readPart "hour" 24 (time.getD 0 0)
    let minute ← readPart "minute" 60 (time.getD 1 0)
    let second ← readPart "second" 60 (time.getD 2 0)
    let micro ← readPart "microsecond" 1000000 (time.getD 3 0)
    return ⟨year.toNat, month.toNat, day.toNat, hour, minute, second, micro⟩
  | _ => throw (.wrongType "function missing required argument 'day' (pos 3)")

/-! ## Forms -/

/-- A number with at least so many digits. -/
def padded (width n : Nat) : String :=
  let digits := Integer.digits n
  String.ofList (List.replicate (width - digits.length) '0' ++ digits)

/-- The time of day to the second. -/
def clock (moment : Moment) : String :=
  s!"{padded 2 moment.hour}:{padded 2 moment.minute}:{padded 2 moment.second}"

/-- The date, with a year of so many digits at least. -/
def dateWith (width : Nat) (moment : Moment) : String :=
  s!"{padded width moment.year}-{padded 2 moment.month}-{padded 2 moment.day}"

/-- The date as it stands in the lines and the names of log files, the year as it is. -/
def date (moment : Moment) : String := moment.dateWith 1

/-- The moment as it stands in the lines of log files, to the millisecond, cut off. -/
def stamp (moment : Moment) : String :=
  s!"{moment.date} {moment.clock}.{padded 3 (moment.micro / 1000)}"

/-- The moment in full; millionths are left out when there are none. -/
def full (moment : Moment) : String :=
  moment.dateWith 4 ++ " " ++ moment.clock
    ++ (if moment.micro = 0 then "" else "." ++ padded 6 moment.micro)

end Moment
end DesktopMacro
