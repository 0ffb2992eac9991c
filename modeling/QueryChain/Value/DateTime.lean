/-!
# Dates with a time of day

A date-time has a day of the proleptic Gregorian calendar and a time with nanoseconds, and no zone.
A leap second is held as second 59 with nanoseconds from one billion on, and written as second 60.
-/

namespace QueryChain

/-- The year has a twenty-ninth of February. -/
def isLeapYear (year : Int) : Bool :=
  (year % 4 == 0 && year % 100 != 0) || year % 400 == 0

/-- The number of days of a month of the Gregorian calendar. -/
def daysInMonth (year : Int) (month : Nat) : Nat :=
  if month = 2 then (if isLeapYear year then 29 else 28)
  else if month = 4 ∨ month = 6 ∨ month = 9 ∨ month = 11 then 30
  else 31

/-- A day and a time of day. -/
structure DateTime where
  year : Int
  month : Nat
  day : Nat
  hour : Nat
  minute : Nat
  second : Nat
  nanosecond : Nat
  month_mem : 1 ≤ month ∧ month ≤ 12 := by decide
  day_mem : 1 ≤ day ∧ day ≤ daysInMonth year month := by decide
  hour_lt : hour < 24 := by decide
  minute_lt : minute < 60 := by decide
  second_lt : second < 60 := by decide
  nanosecond_lt : nanosecond < if second = 59 then 2000000000 else 1000000000 := by decide
deriving DecidableEq

namespace DateTime

/-- The date-time with the given fields, if they name one. -/
def make? (year : Int) (month day hour minute second nanosecond : Nat) : Option DateTime :=
  if h : (1 ≤ month ∧ month ≤ 12) ∧ (1 ≤ day ∧ day ≤ daysInMonth year month) ∧ hour < 24 ∧
      minute < 60 ∧ second < 60 ∧ nanosecond < if second = 59 then 2000000000 else 1000000000 then
    some ⟨year, month, day, hour, minute, second, nanosecond,
      h.1, h.2.1, h.2.2.1, h.2.2.2.1, h.2.2.2.2.1, h.2.2.2.2.2⟩
  else none

/-- A number with zeros in front up to the given width. -/
def padded (width n : Nat) : String :=
  let ds := (toString n).toList
  String.ofList (List.replicate (width - ds.length) '0' ++ ds)

/-- Years 0 to 9999 have four digits; others have a sign and four digits at least. -/
def yearText (year : Int) : String :=
  if 0 ≤ year ∧ year ≤ 9999 then padded 4 year.toNat
  else (if year < 0 then "-" else "+") ++ padded 4 year.natAbs

/-- Nothing, or a point and three, six or nine digits: the fewest that lose nothing. -/
def fractionText (nanosecond : Nat) : String :=
  if nanosecond = 0 then ""
  else if nanosecond % 1000000 = 0 then "." ++ padded 3 (nanosecond / 1000000)
  else if nanosecond % 1000 = 0 then "." ++ padded 6 (nanosecond / 1000)
  else "." ++ padded 9 nanosecond

/-- The text `YYYY-MM-DD HH:MM:SS` and the fraction. -/
def text (t : DateTime) : String :=
  let leap := t.nanosecond / 1000000000
  yearText t.year ++ "-" ++ padded 2 t.month ++ "-" ++ padded 2 t.day ++ " " ++
    padded 2 t.hour ++ ":" ++ padded 2 t.minute ++ ":" ++ padded 2 (t.second + leap) ++
    fractionText (t.nanosecond % 1000000000)

end DateTime

end QueryChain
