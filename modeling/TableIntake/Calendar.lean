/-! # Calendar

Dates of the Gregorian calendar, extended to all years, and times of day.
-/

namespace TableIntake.Calendar

structure Date where
  year : Int
  month : Nat
  day : Nat
deriving DecidableEq, Repr

def padded (width value : Nat) : String :=
  let digits := Nat.toDigits 10 value
  String.ofList (List.replicate (width - digits.length) '0' ++ digits)

example : padded 2 7 = "07" := by decide +kernel

/-- The date that lies `days` days after 1970-01-01. Years are taken to begin in March,
so that a leap day ends one, and are counted within a cycle of 400 years, which has
146097 days. -/
def dateOfDays (days : Int) : Date :=
  let shifted := days + 719468
  let cycle := shifted.fdiv 146097
  let dayOfCycle := (shifted.fmod 146097).toNat
  let yearOfCycle :=
    (dayOfCycle - dayOfCycle / 1460 + dayOfCycle / 36524 - dayOfCycle / 146096) / 365
  let dayOfYear := dayOfCycle - (365 * yearOfCycle + yearOfCycle / 4 - yearOfCycle / 100)
  let monthFromMarch := (5 * dayOfYear + 2) / 153
  let day := dayOfYear - (153 * monthFromMarch + 2) / 5 + 1
  let month := if monthFromMarch < 10 then monthFromMarch + 3 else monthFromMarch - 9
  let year := cycle * 400 + yearOfCycle
  ⟨if month ≤ 2 then year + 1 else year, month, day⟩

example : dateOfDays 0 = ⟨1970, 1, 1⟩ := by decide +kernel

example : dateOfDays 11016 = ⟨2000, 2, 29⟩ := by decide +kernel

example : dateOfDays (-719529) = ⟨-1, 12, 31⟩ := by decide +kernel

def Date.isKept (date : Date) : Bool :=
  decide (-262143 ≤ date.year ∧ date.year ≤ 262142)

def keptDate? (days : Int) : Option Date :=
  (some (dateOfDays days)).filter Date.isKept

def yearText (year : Int) : String :=
  if 0 ≤ year ∧ year ≤ 9999 then padded 4 year.toNat
  else if year < 0 then "-" ++ padded 4 year.natAbs
  else "+" ++ padded 4 year.natAbs

def Date.text (date : Date) : String :=
  yearText date.year ++ "-" ++ padded 2 date.month ++ "-" ++ padded 2 date.day

example : (dateOfDays 2932897).text = "+10000-01-01" := by decide +kernel

/-- The billionths of a second, in as few groups of three digits as are exact. -/
def fractionText (nanoseconds : Nat) : String :=
  if nanoseconds = 0 then ""
  else if nanoseconds % 1000000 = 0 then "." ++ padded 3 (nanoseconds / 1000000)
  else if nanoseconds % 1000 = 0 then "." ++ padded 6 (nanoseconds / 1000)
  else "." ++ padded 9 nanoseconds

/-- The time of day after whole seconds since midnight. A second that is past its end
belongs to a minute of 61 seconds. -/
def timeText (seconds nanoseconds : Nat) : String :=
  let leap := nanoseconds / 1000000000
  padded 2 (seconds / 3600) ++ ":" ++ padded 2 (seconds / 60 % 60) ++ ":" ++
    padded 2 (seconds % 60 + leap) ++ fractionText (nanoseconds % 1000000000)

example : timeText 1 500000000 = "00:00:01.500" := by decide +kernel

structure Moment where
  seconds : Int
  nanoseconds : Nat

def momentOfTicks (perSecond : Nat) (count : Int) : Moment :=
  ⟨count.fdiv perSecond, (count.fmod perSecond).toNat * (1000000000 / perSecond)⟩

def Moment.days (moment : Moment) : Int :=
  moment.seconds.fdiv 86400

def Moment.isKept (moment : Moment) : Bool :=
  (dateOfDays moment.days).isKept

def Moment.later (seconds : Int) (moment : Moment) : Moment :=
  { moment with seconds := moment.seconds + seconds }

def Moment.text (moment : Moment) : String :=
  (dateOfDays moment.days).text ++ "T" ++
    timeText (moment.seconds.fmod 86400).toNat moment.nanoseconds

/-- An offset from universal time in hours and minutes. Seconds are rounded away. -/
def offsetText (offset : Int) : String :=
  if offset = 0 then
    "Z"
  else
    let minutes := (offset.natAbs + 30) / 60
    (if offset < 0 then "-" else "+") ++ padded 2 (minutes / 60) ++ ":" ++ padded 2 (minutes % 60)

end TableIntake.Calendar
