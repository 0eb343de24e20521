/-!
# Civil dates

Days are counted from 1 January 1970 in the proleptic Gregorian calendar.
A date is found by counting years from 1 March, so that the leap day ends
its year: a cycle of 400 years splits into centuries of 36524 days, those into
spans of four years of 1461 days, those into years of 365 days, and the last
part of each may be a day longer.
-/

set_option autoImplicit false

namespace Presentation.Calendar

structure Date where
  year : Int
  month : Nat
  day : Nat
  deriving DecidableEq

/-- Days from 1 March of year 0 to 1 January 1970. -/
def epochOffset : Int := 719468

/-- Month and day of the `n`-th day of a year that begins on 1 March. -/
def monthDay (n : Nat) : Nat × Nat :=
  let shifted := (5 * n + 2) / 153
  (if shifted < 10 then shifted + 3 else shifted - 9, n - (153 * shifted + 2) / 5 + 1)

/-- The date of a day in a cycle of 400 years that begins on 1 March of year 0. -/
def dateInCycle (n : Nat) : Date :=
  let century := min (n / 36524) 3
  let inCentury := n - 36524 * century
  let span := inCentury / 1461
  let inSpan := inCentury - 1461 * span
  let year := min (inSpan / 365) 3
  let (month, day) := monthDay (inSpan - 365 * year)
  ⟨100 * century + 4 * span + year + (if month ≤ 2 then 1 else 0), month, day⟩

def Date.ofDays (days : Int) : Date :=
  let shifted := days + epochOffset
  let date := dateInCycle (shifted % 146097).toNat
  { date with year := date.year + 400 * (shifted / 146097) }

end Presentation.Calendar
