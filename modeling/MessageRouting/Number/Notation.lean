import MessageRouting.Number.Shortest
import MessageRouting.Text.Numeral

/-!
# Written forms of floating-point numbers

A float inside a text is always written positionally; a float inside JSON is
positional for middling exponents and otherwise has a signed exponent.
-/

namespace MessageRouting

namespace Decimal

def leadingExponent (d : Decimal) : Int :=
  d.exponent + (Text.decimalDigits d.digits).length - 1

/-- All digits around a decimal point, the point left out when no digit follows it. -/
def positional (d : Decimal) : List Char :=
  let digits := Text.decimalDigits d.digits
  if 0 ≤ d.exponent then digits ++ List.replicate d.exponent.toNat '0'
  else
    let places := d.exponent.natAbs
    let padded := List.replicate (places + 1 - digits.length) '0' ++ digits
    padded.take (padded.length - places) ++ '.' :: padded.drop (padded.length - places)

/-- One digit, a point before the others if there are any, and the exponent with a plus sign when
it is positive. -/
def scientific (d : Decimal) : List Char :=
  let exponent := d.leadingExponent
  let fraction := match Text.decimalDigits d.digits with
    | [] => []
    | [only] => [only]
    | first :: others => first :: '.' :: others
  fraction ++ 'e' :: (if exponent < 0 then [] else ['+']) ++ Text.intChars exponent

end Decimal

namespace Binary64

def signChars (x : Binary64) : List Char :=
  if x.isNegative then ['-'] else []

/-- A number inside a text: always positional, whole numbers without a point. Of two equally
near shortest decimals the larger one is written. -/
def showPlain (x : Binary64) : String :=
  if x.isNaN then "NaN"
  else if x.isInfinite then String.ofList (x.signChars ++ "inf".toList)
  else String.ofList (x.signChars ++ (x.shortest .upward).positional)

/-- A finite number inside JSON: positional with at least one place for exponents of the leading
digit from -5 to 15, else scientific. -/
def jsonChars (x : Binary64) : List Char :=
  let d := x.shortest .toEven
  let exponent := d.leadingExponent
  x.signChars ++
    (if x.magnitude = 0 then "0.0".toList
    else if -5 ≤ exponent ∧ exponent ≤ 15 then
      if 0 ≤ d.exponent then d.positional ++ ['.', '0'] else d.positional
    else d.scientific)

end Binary64

end MessageRouting
