/-!
# Binary floating-point numbers

A `Binary64` is the 64-bit pattern of a binary floating-point number. What a
pattern means is an exact rational number; every operation computes that exact
result and rounds it once, to nearest with ties to the even significand.
-/

namespace MessageRouting

/-- The 64-bit pattern of a floating-point number: a sign bit, 11 exponent bits
and 52 fraction bits. -/
structure Binary64 where
  bits : UInt64
deriving DecidableEq, Inhabited, Repr

namespace Binary64

/-! ## Fields and classes -/

/-- The exponent field and the fraction field together, as one number. -/
def magnitude (x : Binary64) : Nat :=
  x.bits.toNat % 0x8000000000000000

/-- The sign bit, the first of 64. -/
def isNegative (x : Binary64) : Bool :=
  0x8000000000000000 ≤ x.bits.toNat

/-- The pattern of the infinities, without the sign. -/
def infinityMagnitude : Nat := 0x7FF0000000000000

/-- Neither an infinity nor a NaN. -/
def isFinite (x : Binary64) : Bool :=
  x.magnitude < infinityMagnitude

/-- A pattern that stands for no number. -/
def isNaN (x : Binary64) : Bool :=
  infinityMagnitude < x.magnitude

/-- An infinity of either sign. -/
def isInfinite (x : Binary64) : Bool :=
  x.magnitude = infinityMagnitude

/-- The pattern with the given sign and magnitude. -/
def ofMagnitude (negative : Bool) (magnitude : Nat) : Binary64 :=
  ⟨UInt64.ofNat (if negative then 0x8000000000000000 + magnitude else magnitude)⟩

/-- Zero with the given sign. -/
def zero (negative : Bool) : Binary64 :=
  ofMagnitude negative 0

/-- Infinity with the given sign. -/
def infinity (negative : Bool) : Binary64 :=
  ofMagnitude negative infinityMagnitude

def nan : Binary64 :=
  ⟨0x7FF8000000000000⟩

/-! ## Exact value -/

/-- The significand `m` of a finite number `± m * 2 ^ q`. -/
def significand (x : Binary64) : Nat :=
  if x.magnitude < 0x10000000000000 then x.magnitude
  else 0x10000000000000 + x.magnitude % 0x10000000000000

/-- The exponent `q` of a finite number `± m * 2 ^ q`. -/
def scale (x : Binary64) : Int :=
  if x.magnitude < 0x10000000000000 then -1074 else (x.magnitude / 0x10000000000000 : Nat) - 1075

def scaled (m : Nat) (q : Int) : Rat :=
  if q < 0 then mkRat m (Nat.pow 2 q.natAbs) else ((m * Nat.pow 2 q.natAbs : Nat) : Rat)

/-- The exact value of a finite number. -/
def toRat (x : Binary64) : Rat :=
  if x.isNegative then -scaled x.significand x.scale else scaled x.significand x.scale

/-- A finite number whose exact value is an integer, and that integer. -/
def toInt? (x : Binary64) : Option Int :=
  if x.isFinite && x.toRat.den == 1 then some x.toRat.num else none

/-! ## Rounding -/

/-- `num / den` rounded to the nearest natural number, a tie to the even one. -/
def roundQuotient (num den : Nat) : Nat :=
  let quotient := num / den
  let remainder := num % den
  if 2 * remainder < den ∨ (2 * remainder = den ∧ quotient % 2 = 0) then quotient else quotient + 1

def leadingExponent (num den : Nat) : Int :=
  let estimate : Int := (num.log2 : Int) - den.log2
  let reaches :=
    if estimate < 0 then den ≤ num * Nat.pow 2 estimate.natAbs
    else den * Nat.pow 2 estimate.natAbs ≤ num
  if reaches then estimate else estimate - 1

/-- The magnitude of the number nearest to `num / den`; an infinity if it is out of range. -/
def roundMagnitude (num den : Nat) : Nat :=
  if num = 0 then 0
  else
    let q := max (leadingExponent num den - 52) (-1074)
    let m :=
      if q < 0 then roundQuotient (num * Nat.pow 2 q.natAbs) den
      else roundQuotient num (den * Nat.pow 2 q.natAbs)
    min ((q + 1074).toNat * 0x10000000000000 + m) infinityMagnitude

def ofQuotient (negative : Bool) (num den : Nat) : Binary64 :=
  ofMagnitude negative (roundMagnitude num den)

/-- The number nearest to a rational number; zero is positive. -/
def ofRat (r : Rat) : Binary64 :=
  ofQuotient (r.num < 0) r.num.natAbs r.den

/-- The number nearest to an integer. -/
def ofInt (i : Int) : Binary64 :=
  ofQuotient (i < 0) i.natAbs 1

/-- The number nearest to a natural number. -/
def ofNat (n : Nat) : Binary64 :=
  ofQuotient false n 1

/-! ## Arithmetic and order -/

/-- Product. Infinity times zero is NaN. -/
def mul (x y : Binary64) : Binary64 :=
  let negative := xor x.isNegative y.isNegative
  if x.isNaN || y.isNaN then nan
  else if x.isInfinite || y.isInfinite then
    if x.magnitude = 0 ∨ y.magnitude = 0 then nan else infinity negative
  else
    let product := x.toRat * y.toRat
    ofQuotient negative product.num.natAbs product.den

/-- Quotient. Zero by zero and infinity by infinity are NaN. -/
def div (x y : Binary64) : Binary64 :=
  let negative := xor x.isNegative y.isNegative
  if x.isNaN || y.isNaN then nan
  else if x.isInfinite then if y.isInfinite then nan else infinity negative
  else if y.isInfinite then zero negative
  else if y.magnitude = 0 then if x.magnitude = 0 then nan else infinity negative
  else
    let quotient := x.toRat / y.toRat
    ofQuotient negative quotient.num.natAbs quotient.den

/-- Sum. Opposite infinities give NaN; an exact zero is positive unless both terms are negative. -/
def add (x y : Binary64) : Binary64 :=
  if x.isNaN || y.isNaN then nan
  else if x.isInfinite then
    if y.isInfinite && xor x.isNegative y.isNegative then nan else infinity x.isNegative
  else if y.isInfinite then infinity y.isNegative
  else
    let sum := x.toRat + y.toRat
    if sum.num = 0 then zero (x.isNegative && y.isNegative)
    else ofRat sum

/-- The number with its sign reversed. -/
def neg (x : Binary64) : Binary64 :=
  ofMagnitude (!x.isNegative) x.magnitude

/-- Strict order; false when either side is NaN, and the two zeros are equal. -/
def lt (x y : Binary64) : Bool :=
  if x.isNaN || y.isNaN then false
  else
    let key := fun z : Binary64 =>
      if z.isNegative then -(z.magnitude : Int) else (z.magnitude : Int)
    key x < key y

/-- Equality as numbers: a NaN equals nothing, and the two zeros are equal. -/
def same (x y : Binary64) : Bool :=
  !x.isNaN && !y.isNaN && !x.lt y && !y.lt x

/-- The non-negative integer nearest to the number, a half going up; what is
negative or NaN gives 0 and what exceeds `bound` gives `bound`. -/
def roundToNat (bound : Nat) (x : Binary64) : Nat :=
  if x.isNaN || x.isNegative then 0
  else if x.isInfinite then bound
  else min (x.toRat + mkRat 1 2).floor.toNat bound

end Binary64

end MessageRouting
