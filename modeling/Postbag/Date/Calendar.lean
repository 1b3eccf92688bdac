/-!
# Calendar — the days of the Gregorian calendar, extended to every year

The weekday of a date is counted from the number of days since the first of January of year 0, a Saturday.
-/
namespace Postbag
namespace Calendar

def isLeap (year : Nat) : Bool := (year % 4 == 0 && year % 100 != 0) || year % 400 == 0

/-- The length of a month; 0 where there is no such month. -/
def monthLength (year : Nat) : (month : Nat) → Nat
  | 1 | 3 | 5 | 7 | 8 | 10 | 12 => 31
  | 4 | 6 | 9 | 11 => 30
  | 2 => if isLeap year then 29 else 28
  | _ => 0

def dayExists (year month day : Nat) : Bool := 1 ≤ day && day ≤ monthLength year month

def daysBeforeMonth (year : Nat) : (month : Nat) → Nat
  | 0 => 0
  | month + 1 => daysBeforeMonth year month + monthLength year month

def daysBeforeYear (year : Nat) : Nat :=
  if year = 0 then 0
  else
    let y := year - 1
    year * 365 + y / 4 + 1 - y / 100 + y / 400

/-- The days from the first of January of year 0. -/
def dayNumber (year month day : Nat) : Nat := daysBeforeYear year + daysBeforeMonth year month + (day - 1)

/-- The weekday of a date, counted from Monday as 0. -/
def weekday (year month day : Nat) : Nat := (dayNumber year month day + 5) % 7

end Calendar
end Postbag
