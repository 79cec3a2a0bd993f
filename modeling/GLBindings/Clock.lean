/-
# Times of day

A moment in UTC, to the second, and how file headers show it.
-/
namespace GLBindings

set_option autoImplicit false

/-- A moment in UTC. -/
structure Moment where
  year : Nat
  month : Nat
  day : Nat
  hour : Nat := 0
  minute : Nat := 0
  second : Nat := 0
  deriving DecidableEq

def twoDigits (n : Nat) : String := if n < 10 then "0" ++ toString n else toString n

/-- The moment as `year-month-day hour:minute:second`. -/
def Moment.stamp (m : Moment) : String :=
  toString m.year ++ "-" ++ twoDigits m.month ++ "-" ++ twoDigits m.day ++ " " ++
    twoDigits m.hour ++ ":" ++ twoDigits m.minute ++ ":" ++ twoDigits m.second

/-- The moment that many seconds after the start of 1970.  Days are counted from the first of March
of the year 0, so that a leap day ends its year, in eras of 400 years. -/
def Moment.ofEpochSeconds (seconds : Nat) : Moment :=
  let days := seconds / 86400 + 719468
  let dayOfEra := days % 146097
  let yearOfEra := (dayOfEra - dayOfEra / 1460 + dayOfEra / 36524 - dayOfEra / 146096) / 365
  let dayOfYear := dayOfEra - (365 * yearOfEra + yearOfEra / 4 - yearOfEra / 100)
  let monthFromMarch := (5 * dayOfYear + 2) / 153
  let month := if monthFromMarch < 10 then monthFromMarch + 3 else monthFromMarch - 9
  { year := days / 146097 * 400 + yearOfEra + (if month ≤ 2 then 1 else 0)
    month
    day := dayOfYear - (153 * monthFromMarch + 2) / 5 + 1
    hour := seconds % 86400 / 3600
    minute := seconds % 3600 / 60
    second := seconds % 60 }

end GLBindings
