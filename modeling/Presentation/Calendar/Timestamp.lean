import Presentation.Calendar.Civil

/-!
# Timestamps

A moment is a count of seconds and nanoseconds from the beginning of 1970 in
UTC. Its text is exact to the millisecond; what is finer is cut off towards
the past.
-/

set_option autoImplicit false

namespace Presentation.Calendar

structure Timestamp where
  seconds : Int
  nanoseconds : Nat
  deriving DecidableEq

/-- A moment in calendar and clock fields. -/
structure DateTime where
  date : Date
  hour : Nat
  minute : Nat
  second : Nat
  millisecond : Nat
  deriving DecidableEq

/-- Whole milliseconds from the epoch, rounded down. -/
def Timestamp.milliseconds (t : Timestamp) : Int :=
  t.seconds * 1000 + (t.nanoseconds / 1000000 : Nat)

def DateTime.ofMilliseconds (ms : Int) : DateTime :=
  let inDay := (ms % 86400000).toNat
  { date := Date.ofDays (ms / 86400000)
    hour := inDay / 3600000
    minute := inDay / 60000 % 60
    second := inDay / 1000 % 60
    millisecond := inDay % 1000 }

/-- A number in decimal, with zeros in front up to a width. -/
def padded (width n : Nat) : String :=
  let digits := Nat.toDigits 10 n
  String.ofList (List.replicate (width - digits.length) '0' ++ digits)

/-- A year has at least four digits. A minus precedes a year before year 0, and a plus a year
that needs a fifth digit. -/
def yearText (year : Int) : String :=
  if year < 0 then "-" ++ padded 4 year.natAbs
  else if year < 10000 then padded 4 year.natAbs
  else "+" ++ padded 4 year.natAbs

def DateTime.text (t : DateTime) : String :=
  yearText t.date.year ++ "-" ++ padded 2 t.date.month ++ "-" ++ padded 2 t.date.day ++ " " ++
    padded 2 t.hour ++ ":" ++ padded 2 t.minute ++ ":" ++ padded 2 t.second ++ "." ++
    padded 3 t.millisecond

def Timestamp.text (t : Timestamp) : String := (DateTime.ofMilliseconds t.milliseconds).text

end Presentation.Calendar
