import EventMesh.Decimal.Digits
import EventMesh.Time.Duration

/-!
Time of day: seconds since the start of 1970 with nanoseconds. Nanoseconds from one billion on
belong to a leap second. Times are shown by the proleptic Gregorian calendar, in universal time.
-/

namespace EventMesh.Time

/-- An instant of the calendar. -/
structure Wall where
  seconds : Int
  nanos : Nat
  deriving DecidableEq

/-- A day of the calendar. -/
structure Date where
  year : Int
  month : Nat
  day : Nat
  deriving DecidableEq

namespace Date

/-- The day that lies so many days after the first of January 1970. Years are counted from March in
cycles of 400, so that a leap day ends its year. -/
def ofDayNumber (n : Int) : Date :=
  let shifted := n + 719468
  let cycle := Int.fdiv shifted 146097
  let dayOfCycle := (Int.fmod shifted 146097).toNat
  let yearOfCycle :=
    (dayOfCycle - dayOfCycle / 1460 + dayOfCycle / 36524 - dayOfCycle / 146096) / 365
  let dayOfYear := dayOfCycle - (365 * yearOfCycle + yearOfCycle / 4 - yearOfCycle / 100)
  let monthFromMarch := (5 * dayOfYear + 2) / 153
  let day := dayOfYear - (153 * monthFromMarch + 2) / 5 + 1
  let month := if monthFromMarch < 10 then monthFromMarch + 3 else monthFromMarch - 9
  ⟨yearOfCycle + cycle * 400 + (if month ≤ 2 then 1 else 0), month, day⟩

/-- Four digits, or a sign and at least four digits outside the years 0 to 9999. -/
def yearText (y : Int) : String :=
  if 0 ≤ y ∧ y ≤ 9999 then Decimal.padded 4 y.toNat
  else (if y < 0 then "-" else "+") ++ Decimal.padded 4 y.natAbs

def text (d : Date) : String :=
  yearText d.year ++ "-" ++ Decimal.padded 2 d.month ++ "-" ++ Decimal.padded 2 d.day

end Date

namespace Wall

/-- The first instant of the year 2024. -/
def newYear2024 : Wall := ⟨1704067200, 0⟩

/-- The instant so many nanoseconds later, or earlier if the number is negative. -/
def shift (w : Wall) (delta : Int) : Wall :=
  let total := w.seconds * nanosPerSecond + w.nanos + delta
  ⟨Int.fdiv total nanosPerSecond, (Int.fmod total nanosPerSecond).toNat⟩

/-- Whether the instant lies in a leap second. -/
def inLeapSecond (w : Wall) : Bool := w.nanos ≥ nanosPerSecond

/-- Nanoseconds within the second shown. -/
def shownNanos (w : Wall) : Nat := if w.inLeapSecond then w.nanos - nanosPerSecond else w.nanos

/-- The date, and the time of day to the second. -/
def textToSecond (w : Wall) : String :=
  let s := (Int.fmod w.seconds 86400).toNat
  let second := s % 60 + (if w.inLeapSecond then 1 else 0)
  (Date.ofDayNumber (Int.fdiv w.seconds 86400)).text ++ "T" ++ Decimal.padded 2 (s / 3600) ++ ":" ++
    Decimal.padded 2 (s / 60 % 60) ++ ":" ++ Decimal.padded 2 second

/-- RFC 3339 with microseconds, cut and not rounded. -/
def rfc3339 (w : Wall) : String :=
  w.textToSecond ++ "." ++ Decimal.padded 6 (w.shownNanos / 1000) ++ "Z"

/-- As many of nothing, milli-, micro- and nanoseconds as are needed to show the instant exactly. -/
def inspect (w : Wall) : String :=
  let n := w.shownNanos
  let fraction :=
    if n = 0 then ""
    else if n % 1000000 = 0 then "." ++ Decimal.padded 3 (n / 1000000)
    else if n % 1000 = 0 then "." ++ Decimal.padded 6 (n / 1000)
    else "." ++ Decimal.padded 9 n
  w.textToSecond ++ fraction ++ "Z"

end Wall

end EventMesh.Time
