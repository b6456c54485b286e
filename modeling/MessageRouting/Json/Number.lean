import MessageRouting.Json.SyntaxError
import MessageRouting.Number.Reading

/-!
# Reading JSON numbers

A number without point and exponent that fits 64 bits is an integer. Any other
number is a float: its significand keeps the leading digits that fit 64 bits,
drops the others, and is then moved by its power of ten. A number whose
magnitude exceeds every finite float is refused.
-/

namespace MessageRouting.Json

/-- The digits of a significand that 64 bits hold, and the power of ten their value is multiplied
with. -/
structure Significand where
  value : Nat
  exponent : Int
deriving DecidableEq, Repr

namespace Significand

/-- Appends a digit if the value still fits 64 bits. -/
def push? (value : Nat) (c : Char) : Option Nat :=
  let extended := 10 * value + (c.toNat - '0'.toNat)
  if extended ≤ Text.maxU64 then some extended else none

/-- Digits before the point. From the first one that does not fit, each digit counts as a power of
ten instead. -/
def addWhole (value : Nat) : List Char → Significand
  | [] => ⟨value, 0⟩
  | c :: rest =>
      match push? value c with
      | some extended => addWhole extended rest
      | none => ⟨value, rest.length + 1⟩

/-- Digits after the point. From the first one that does not fit, the digits are dropped. -/
def addFraction (significand : Significand) : List Char → Significand
  | [] => significand
  | c :: rest =>
      match push? significand.value c with
      | some extended => addFraction ⟨extended, significand.exponent - 1⟩ rest
      | none => significand

/-- Moves a number by a power of ten, in steps of at most `10 ^ 308`, each rounded. Nothing if the
result is beyond the finite range. The steps that `fuel` allows are enough to reach zero. -/
def moveByTens : Nat → Binary64 → Int → Option Binary64
  | 0, x, _ => some x
  | fuel + 1, x, exponent =>
      if exponent.natAbs ≤ 308 then
        let power := Binary64.ofNat (Nat.pow 10 exponent.natAbs)
        let moved := if exponent < 0 then x.div power else x.mul power
        if moved.isFinite then some moved else none
      else if x.magnitude = 0 then some x
      else if 0 ≤ exponent then none
      else moveByTens fuel (x.div (Binary64.ofNat (Nat.pow 10 308))) (exponent + 308)

def toFloat? (negative : Bool) (significand : Significand) : Option Binary64 :=
  (moveByTens 4 (Binary64.ofNat significand.value) significand.exponent).map fun x =>
    if negative then x.neg else x

end Significand

/-- Digits without a leading zero, unless zero is the only digit; and the rest. -/
def readWhole (chars : List Char) : Except SyntaxError (List Char × List Char) :=
  match Text.spanDigits chars with
  | ([], rest) => .error (.atNext (if rest.isEmpty then .endInValue else .invalidNumber) rest)
  | ('0' :: next :: digits, rest) => .error (.atNext .invalidNumber (next :: digits ++ rest))
  | found => .ok found

def readFraction : List Char → Except SyntaxError (List Char × List Char)
  | '.' :: rest =>
      match Text.spanDigits rest with
      | ([], after) =>
          .error (.atNext (if after.isEmpty then .endInValue else .invalidNumber) after)
      | found => .ok found
  | chars => .ok ([], chars)

def readExponentSign : List Char → Bool × List Char
  | '-' :: rest => (true, rest)
  | '+' :: rest => (false, rest)
  | chars => (false, chars)

def readExponent : List Char → Except SyntaxError (Int × List Char)
  | [] => .ok (0, [])
  | mark :: rest =>
      if mark = 'e' ∨ mark = 'E' then
        let (negative, body) := readExponentSign rest
        match Text.spanDigits body with
        | ([], after) =>
            .error (.atNext (if after.isEmpty then .endInValue else .invalidNumber) after)
        | (digits, after) =>
            let value : Int := Text.digitsValue digits
            .ok (if negative then -value else value, after)
      else .ok (0, mark :: rest)

/-- The document for a significand without fraction and exponent: an integer where it fits. A
negative zero is a float. -/
def ofWhole (negative : Bool) (significand : Significand) : Option Json :=
  if significand.exponent = 0 ∧ negative = false then some (.int significand.value)
  else if significand.exponent = 0 ∧ 0 < significand.value ∧
      significand.value ≤ 0x8000000000000000 then
    some (.int (-(significand.value : Int)))
  else (significand.toFloat? negative).map .float

def readMagnitude (negative : Bool) (chars : List Char) :
    Except SyntaxError (Json × List Char) := do
  let (whole, afterWhole) ← readWhole chars
  let (fraction, afterFraction) ← readFraction afterWhole
  let (exponent, rest) ← readExponent afterFraction
  let significand := Significand.addWhole 0 whole
  let document? :=
    if rest.length = afterWhole.length then ofWhole negative significand
    else
      let scaled := significand.addFraction fraction
      (Significand.toFloat? negative ⟨scaled.value, scaled.exponent + exponent⟩).map .float
  match document? with
  | some document => .ok (document, rest)
  | none => .error (.before .numberOutOfRange rest)

def readNumber : List Char → Except SyntaxError (Json × List Char)
  | '-' :: rest => readMagnitude true rest
  | chars => readMagnitude false chars

end MessageRouting.Json
