import MessageRouting.Number.Binary64
import MessageRouting.Text.Blank
import MessageRouting.Text.Numeral

/-!
# Reading decimal numbers

A decimal text stands for the floating-point number nearest to it.
-/

namespace MessageRouting

/-- The longest run of decimal digits at the front, and the rest. -/
def Text.spanDigits (chars : List Char) : List Char × List Char :=
  (chars.takeWhile fun c => '0' ≤ c ∧ c ≤ '9', chars.dropWhile fun c => '0' ≤ c ∧ c ≤ '9')

/-- The natural number written by a run of digits; no digits stand for zero. -/
def Text.digitsValue (digits : List Char) : Nat :=
  digits.foldl (fun value c => 10 * value + (c.toNat - '0'.toNat)) 0

namespace Binary64

def ofDecimal (negative : Bool) (digits : Nat) (exponent : Int) : Binary64 :=
  if digits = 0 then zero negative
  else
    let leading := exponent + (Text.decimalDigits digits).length
    -- beyond these bounds the exact quotient is not needed
    if 400 < leading then infinity negative
    else if leading < -400 then zero negative
    else if exponent < 0 then ofQuotient negative digits (Nat.pow 10 exponent.natAbs)
    else ofQuotient negative (digits * Nat.pow 10 exponent.natAbs) 1

def readExponent : List Char → Option Int
  | [] => some 0
  | mark :: rest =>
      if mark = 'e' ∨ mark = 'E' then
        match rest with
        | '-' :: digits => (Text.readDigits digits).map fun n => -(n : Int)
        | digits => (Text.readDigits (Text.dropPlus digits)).map Int.ofNat
      else none

/-- Digits with an optional point and an optional exponent; at least one digit stands before or
after the point. -/
def readUnsignedDecimal (negative : Bool) (chars : List Char) : Option Binary64 :=
  let (whole, afterWhole) := Text.spanDigits chars
  let (fraction, afterFraction) := match afterWhole with
    | '.' :: rest => Text.spanDigits rest
    | rest => ([], rest)
  if whole.isEmpty && fraction.isEmpty then none
  else do
    let exponent ← readExponent afterFraction
    return ofDecimal negative (Text.digitsValue (whole ++ fraction)) (exponent - fraction.length)

def read (chars : List Char) : Option Binary64 :=
  let (negative, rest) := match chars with
    | '-' :: rest => (true, rest)
    | '+' :: rest => (false, rest)
    | rest => (false, rest)
  let name := Text.lowerAscii (String.ofList rest)
  if name = "inf" ∨ name = "infinity" then some (infinity negative)
  else if name = "nan" then some nan
  else readUnsignedDecimal negative rest

end Binary64

end MessageRouting
