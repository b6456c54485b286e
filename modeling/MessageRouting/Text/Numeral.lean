/-!
# Decimal numerals

Integers are written without leading zeros and read back with a bound: a
numeral outside the bound is refused, never wrapped or cut.
-/

namespace MessageRouting.Text

def digitValue? (c : Char) : Option Nat :=
  if '0' ≤ c ∧ c ≤ '9' then some (c.toNat - '0'.toNat) else none

/-- Extends the number `value` by the digits that follow; any other character refuses the whole. -/
def extendNumeral (value : Nat) : List Char → Option Nat
  | [] => some value
  | c :: rest => do
      let digit ← digitValue? c
      extendNumeral (10 * value + digit) rest

/-- A non-empty run of decimal digits and nothing else; leading zeros are allowed. -/
def readDigits : List Char → Option Nat
  | [] => none
  | chars => extendNumeral 0 chars

/-- The text after one leading plus sign, if there is one. -/
def dropPlus : List Char → List Char
  | '+' :: rest => rest
  | chars => chars

def readUnsigned (bound : Nat) (chars : List Char) : Option Nat := do
  let value ← readDigits (dropPlus chars)
  if value ≤ bound then some value else none

def readSigned (low high : Int) (chars : List Char) : Option Int := do
  let value ← match chars with
    | '-' :: rest => (readDigits rest).map fun n => -(n : Int)
    | _ => (readDigits (dropPlus chars)).map Int.ofNat
  if low ≤ value ∧ value ≤ high then some value else none

/-- Decimal digits of a natural number, most significant first, without leading zeros. -/
def decimalDigits (n : Nat) : List Char :=
  if n < 10 then [Char.ofNat ('0'.toNat + n)]
  else decimalDigits (n / 10) ++ [Char.ofNat ('0'.toNat + n % 10)]
termination_by n

/-- A natural number in decimal. -/
def showNat (n : Nat) : String :=
  String.ofList (decimalDigits n)

/-- An integer in decimal, with a minus sign when it is negative. -/
def intChars (i : Int) : List Char :=
  if i < 0 then '-' :: decimalDigits i.natAbs else decimalDigits i.natAbs

/-- An integer in decimal. -/
def showInt (i : Int) : String :=
  String.ofList (intChars i)

/-- The bounds of the machine integers that appear in messages and configurations. -/
def maxU32 : Nat := 4294967295

/-- The largest unsigned 64-bit integer. -/
def maxU64 : Nat := 18446744073709551615

/-- The smallest signed 64-bit integer. -/
def minI64 : Int := -9223372036854775808

/-- The largest signed 64-bit integer. -/
def maxI64 : Int := 9223372036854775807

/-- The smallest signed 32-bit integer. -/
def minI32 : Int := -2147483648

/-- The largest signed 32-bit integer. -/
def maxI32 : Int := 2147483647

end MessageRouting.Text
