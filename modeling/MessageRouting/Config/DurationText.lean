import MessageRouting.Duration
import MessageRouting.Text.Blank
import MessageRouting.Text.Numeral

/-!
# Written durations

A duration is written as a list of amounts with units, as in `1h 30m`. An
amount may have a decimal fraction. A month has 30.44 days and a year 365.25
days. No intermediate number may exceed 64 bits.
-/

namespace MessageRouting.DurationText

/-- A unit of time. -/
inductive TimeUnit where
  | nanosecond
  | microsecond
  | millisecond
  | second
  | minute
  | hour
  | day
  | week
  | month
  | year
deriving DecidableEq, Repr

namespace TimeUnit

def ofName? : String → Option TimeUnit
  | "nanos" | "nsec" | "ns" => some nanosecond
  | "usec" | "us" | "µs" => some microsecond
  | "millis" | "msec" | "ms" => some millisecond
  | "seconds" | "second" | "secs" | "sec" | "s" => some second
  | "minutes" | "minute" | "min" | "mins" | "m" => some minute
  | "hours" | "hour" | "hr" | "hrs" | "h" => some hour
  | "days" | "day" | "d" => some day
  | "weeks" | "week" | "wk" | "wks" | "w" => some week
  | "months" | "month" | "M" => some month
  | "years" | "year" | "yr" | "yrs" | "y" => some year
  | _ => none

def seconds? : TimeUnit → Option Nat
  | nanosecond | microsecond | millisecond => none
  | second => some 1
  | minute => some 60
  | hour => some 3600
  | day => some 86400
  | week => some 604800
  | month => some 2630016
  | year => some 31557600

/-- The nanoseconds by which a fraction of the unit is measured. Fractions of an hour and more are
measured in seconds, and a nanosecond has no fraction. -/
def fractionNanos? : TimeUnit → Option Nat
  | microsecond => some 1000
  | millisecond => some 1000000
  | second => some 1000000000
  | minute => some 60000000000
  | _ => none

end TimeUnit

/-- A number that fits 64 bits. -/
def fit (n : Nat) : Option Nat :=
  if n ≤ Text.maxU64 then some n else none

/-- The fraction `numerator / denominator`; the denominator is a power of ten. -/
structure Fraction where
  numerator : Nat
  denominator : Nat

def addTo (total : Duration) (seconds nanos : Nat) : Option Duration := do
  let nanos ← fit (total.subsecondNanos + nanos)
  let seconds ← fit (seconds + nanos / 1000000000)
  let seconds ← fit (total.seconds + seconds)
  return ⟨seconds * 1000000000 + nanos % 1000000000⟩

def addWhole (total : Duration) (amount : Nat) (unit : TimeUnit) : Option Duration :=
  match unit with
  | .nanosecond => addTo total 0 amount
  | .microsecond => do addTo total 0 (← fit (amount * 1000))
  | .millisecond => do addTo total 0 (← fit (amount * 1000000))
  | unit => do addTo total (← fit (amount * unit.seconds?.getD 0)) 0

/-- Adds a fraction of a unit, cut to its measure. -/
def addFraction (total : Duration) (fraction : Fraction) (unit : TimeUnit) : Option Duration :=
  match unit.fractionNanos?, unit.seconds? with
  | some nanos, _ => do addTo total 0 ((← fit (fraction.numerator * nanos)) / fraction.denominator)
  | none, some seconds => do
      addTo total ((← fit (fraction.numerator * seconds)) / fraction.denominator) 0
  | none, none => none

def addAmount (total : Duration) (whole : Nat) (fraction : Option Fraction) (unit : TimeUnit) :
    Option Duration := do
  let total ← addWhole total whole unit
  match fraction with
  | none => return total
  | some fraction => addFraction total fraction unit

def isUnitLetter (c : Char) : Bool :=
  ('a' ≤ c && c ≤ 'z') || ('A' ≤ c && c ≤ 'Z') || c == 'µ'

/-- The digits behind a decimal point, up to the name of a unit. Blanks between them are skipped. -/
def readFraction (fraction : Fraction) : List Char → Option (Fraction × List Char)
  | [] => some (fraction, [])
  | c :: rest =>
      match Text.digitValue? c with
      | some digit => do
          let denominator ← fit (fraction.denominator * 10)
          let numerator ← fit (fraction.numerator * 10 + digit)
          readFraction ⟨numerator, denominator⟩ rest
      | none =>
          if Text.isBlank c then readFraction fraction rest
          else if isUnitLetter c then some (fraction, c :: rest)
          else none

/-- The further digits of an amount and its fraction, up to the name of a unit. Blanks between the
digits are skipped. -/
def readAmount (whole : Nat) : List Char → Option (Nat × Option Fraction × List Char)
  | [] => some (whole, none, [])
  | c :: rest =>
      match Text.digitValue? c with
      | some digit => do readAmount (← fit (whole * 10 + digit)) rest
      | none =>
          if Text.isBlank c then readAmount whole rest
          else if isUnitLetter c then some (whole, none, c :: rest)
          else if c = '.' then do
            let (fraction, after) ← readFraction ⟨0, 1⟩ rest
            if fraction.denominator = 1 then none else return (whole, some fraction, after)
          else none

/-- Amounts with units up to the end, each beginning with a digit; blanks may stand before it.
`fuel` bounds the number of amounts. -/
def readAmounts : Nat → Duration → List Char → Option Duration
  | 0, _, _ => none
  | fuel + 1, total, chars =>
      match chars.dropWhile Text.isBlank with
      | [] => some total
      | c :: rest => do
          let first ← Text.digitValue? c
          let (whole, fraction, afterAmount) ← readAmount first rest
          let unit ← TimeUnit.ofName? (String.ofList (afterAmount.takeWhile isUnitLetter))
          let total ← addAmount total whole fraction unit
          match afterAmount.dropWhile isUnitLetter with
          | [] => some total
          | next :: after =>
              if Text.isBlank next || (Text.digitValue? next).isSome then
                readAmounts fuel total (next :: after)
              else none

/-- Reads a duration between blanks. Zero needs no unit. -/
def read? (text : String) : Option Duration :=
  match Text.trimChars text.toList with
  | ['0'] => some ⟨0⟩
  | [] => none
  | chars => readAmounts (chars.length + 1) ⟨0⟩ chars

/-- An amount of a unit whose name takes a plural, left out when it is zero. -/
def showPlural (amount : Nat) (name : String) : List String :=
  if amount = 0 then []
  else [Text.showNat amount ++ name ++ (if 1 < amount then "s" else "")]

/-- An amount of an abbreviated unit, left out when it is zero. -/
def showShort (amount : Nat) (name : String) : List String :=
  if amount = 0 then [] else [Text.showNat amount ++ name]

/-- A duration as amounts of units, the largest unit first. -/
def display (span : Duration) : String :=
  if span.isZero then "0s"
  else
    let inYear := span.seconds % 31557600
    let inMonth := inYear % 2630016
    let inDay := inMonth % 86400
    let nanos := span.subsecondNanos
    " ".intercalate
      (showPlural (span.seconds / 31557600) "year" ++ showPlural (inYear / 2630016) "month" ++
        showPlural (inMonth / 86400) "day" ++ showShort (inDay / 3600) "h" ++
        showShort (inDay / 60 % 60) "m" ++ showShort (inDay % 60) "s" ++
        showShort (nanos / 1000000) "ms" ++ showShort (nanos / 1000 % 1000) "us" ++
        showShort (nanos % 1000) "ns")

end MessageRouting.DurationText
