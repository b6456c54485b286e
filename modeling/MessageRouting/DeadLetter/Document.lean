import MessageRouting.DeadLetter.Queue

/-!
# Dead letters as documents

How dead letters are written down, and the readings of the calendar with them.
-/

namespace MessageRouting

namespace Calendar

/-- A date of the Gregorian calendar; month and day count from 1. -/
structure Date where
  year : Nat
  month : Nat
  day : Nat
deriving DecidableEq, Repr

/-- The date of a day, counted from the first day of 1970. Years are counted from March, so that a
leap day is the last day of its year, and in periods of 400 years, which are 146097 days long. -/
def dateOf (day : Nat) : Date :=
  let shifted := day + 719468
  let period := shifted / 146097
  let dayOfPeriod := shifted % 146097
  let yearOfPeriod :=
    (dayOfPeriod - dayOfPeriod / 1460 + dayOfPeriod / 36524 - dayOfPeriod / 146096) / 365
  let dayOfYear := dayOfPeriod - (365 * yearOfPeriod + yearOfPeriod / 4 - yearOfPeriod / 100)
  let monthFromMarch := (5 * dayOfYear + 2) / 153
  let month := if monthFromMarch < 10 then monthFromMarch + 3 else monthFromMarch - 9
  { year := yearOfPeriod + period * 400 + (if month ≤ 2 then 1 else 0)
    month := month
    day := dayOfYear - (153 * monthFromMarch + 2) / 5 + 1 }

/-- A number with at least the given number of digits. -/
def padded (width n : Nat) : String :=
  let digits := Text.decimalDigits n
  String.ofList (List.replicate (width - digits.length) '0' ++ digits)

/-- The fraction of a second, in as few groups of three digits as it takes. -/
def fraction (nanoseconds : Nat) : String :=
  if nanoseconds = 0 then ""
  else if nanoseconds % 1000000 = 0 then "." ++ padded 3 (nanoseconds / 1000000)
  else if nanoseconds % 1000 = 0 then "." ++ padded 6 (nanoseconds / 1000)
  else "." ++ padded 9 nanoseconds

/-- A reading of the calendar as date and time; a year of more than four digits has a sign. -/
def format (reading : Nat) : String :=
  let seconds := reading / 1000000000
  let date := dateOf (seconds / 86400)
  let time := seconds % 86400
  (if 9999 < date.year then "+" else "") ++ padded 4 date.year ++ "-" ++ padded 2 date.month ++
    "-" ++ padded 2 date.day ++ "T" ++ padded 2 (time / 3600) ++ ":" ++
    padded 2 (time / 60 % 60) ++ ":" ++ padded 2 (time % 60) ++
    fraction (reading % 1000000000) ++ "Z"

end Calendar

def DeadLetter.toDocument (letter : DeadLetter) : Json :=
  .object
    [("exchange_id", .string letter.exchange.text),
      ("message", letter.message.toDocument),
      ("from_endpoint", (letter.fromEndpoint.map Json.string).getD .null),
      ("failure_reason", .string letter.reason),
      ("redeliveries", .int letter.redeliveries.toInt),
      ("added_at", .string (Calendar.format letter.addedAt)),
      ("expires_at", .string (Calendar.format letter.expiresAt))]

end MessageRouting
