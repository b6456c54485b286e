import MessageRouting.Number.Binary64

/-!
# Shortest decimals

The decimal with the fewest digits that reads back as a given number, and of
those the one nearest to it. The search runs in exact integer arithmetic.
-/

namespace MessageRouting

/-- The decimal number `digits * 10 ^ exponent`. -/
structure Decimal where
  digits : Nat
  exponent : Int
deriving DecidableEq, Repr

/-- Which of two equally near decimals is taken. -/
inductive Tie where
  | toEven
  | upward
deriving DecidableEq, Repr

/-- A positive quantity `num / den`, and the bounds of the quantities that round to the same
floating-point number, all over the denominator `den`. The bounds belong to the interval if it is
`closed`. -/
structure Rounding.Interval where
  num : Nat
  low : Nat
  high : Nat
  den : Nat
  closed : Bool

namespace Rounding.Interval

/-- The rounding interval of the finite positive number `m * 2 ^ q`. The gap below a power of
two is half the gap above it, except at the bottom of the range. -/
def ofBinary64 (x : Binary64) : Interval :=
  let m := x.significand
  let q := x.scale - 2
  let up := if q < 0 then 1 else Nat.pow 2 q.natAbs
  let narrow := m = 0x10000000000000 ∧ x.scale ≠ -1074
  { num := 4 * m * up
    low := (if narrow then 4 * m - 1 else 4 * m - 2) * up
    high := (4 * m + 2) * up
    den := if q < 0 then Nat.pow 2 q.natAbs else 1
    closed := m % 2 = 0 }

def compareDecimal (d : Decimal) (num den : Nat) : Ordering :=
  if d.exponent < 0 then compare (d.digits * den) (num * Nat.pow 10 d.exponent.natAbs)
  else compare (d.digits * Nat.pow 10 d.exponent.natAbs * den) num

/-- The decimal lies in the interval, so it reads back as the number. -/
def contains (interval : Interval) (d : Decimal) : Bool :=
  let above := compareDecimal d interval.low interval.den
  let below := compareDecimal d interval.high interval.den
  (above == .gt || (interval.closed && above == .eq)) &&
    (below == .lt || (interval.closed && below == .eq))

/-- The least `k` for which the quantity is below `10 ^ k`. -/
def decimalPlaces (interval : Interval) : Int :=
  let binary := Binary64.leadingExponent interval.num interval.den
  let estimate := (binary * 30103).fdiv 100000
  let reached := [estimate, estimate + 1].find? fun k =>
    compareDecimal ⟨1, k⟩ interval.num interval.den == .gt
  reached.getD (estimate + 2)

/-- The largest multiple of `10 ^ exponent` that is at most the quantity, as a decimal. -/
def floorAt (interval : Interval) (exponent : Int) : Decimal :=
  if exponent < 0 then ⟨interval.num * Nat.pow 10 exponent.natAbs / interval.den, exponent⟩
  else ⟨interval.num / (interval.den * Nat.pow 10 exponent.natAbs), exponent⟩

/-- The nearer of the two neighbours of the quantity on one decimal grid that lie in the
interval. -/
def nearestAt (interval : Interval) (tie : Tie) (exponent : Int) : Option Decimal :=
  let below := interval.floorAt exponent
  let above : Decimal := ⟨below.digits + 1, exponent⟩
  match interval.contains below && below.digits != 0, interval.contains above with
  | false, false => none
  | true, false => some below
  | false, true => some above
  | true, true =>
      -- the midpoint of the two neighbours against the quantity
      match compareDecimal ⟨2 * below.digits + 1, exponent⟩ (2 * interval.num) interval.den,
        tie with
      | .gt, _ => some below
      | .lt, _ => some above
      | .eq, .upward => some above
      | .eq, .toEven => if below.digits % 2 = 0 then some below else some above

end Rounding.Interval

/-- The decimal without trailing zeros in its digits; `fuel` bounds their number. -/
def Decimal.dropZeros : Nat → Decimal → Decimal
  | 0, d => d
  | fuel + 1, d =>
      if d.digits % 10 = 0 ∧ d.digits ≠ 0 then dropZeros fuel ⟨d.digits / 10, d.exponent + 1⟩ else d

/-- The shortest decimal that reads back as the magnitude of a finite number. Seventeen digits
always suffice; should none be found, the exact value is given. -/
def Binary64.shortest (tie : Tie) (x : Binary64) : Decimal :=
  if x.magnitude = 0 then ⟨0, 0⟩
  else
    let interval := Rounding.Interval.ofBinary64 x
    let places := interval.decimalPlaces
    let found := (List.range 17).findSome? fun (n : Nat) =>
      interval.nearestAt tie (places - (n + 1))
    (found.getD (interval.floorAt (-1074))).dropZeros 400

end MessageRouting
