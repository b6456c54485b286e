import MessageRouting.Redelivery.Policy

/-!
# Redelivery delays

Without a delay pattern the delay before an attempt is the base delay, grown
by the multiplier for each attempt before it if back-off is exponential, cut at
the maximum, moved at random if collisions are avoided, cut again, and rounded
to whole milliseconds. The same definition computes with floating-point numbers
and with exact rational numbers.
-/

namespace MessageRouting

/-- The arithmetic that delays are computed with. Durations count in milliseconds, and `roundMillis`
is the nearest natural number that fits 64 bits, a half going up. -/
class DelayNumber (α : Type) where
  ofFloat : Binary64 → α
  ofDuration : Duration → α
  add : α → α → α
  mul : α → α → α
  power : α → Nat → α
  less : α → α → Bool
  roundMillis : α → Nat

namespace Binary64

/-- Power by repeated squaring: `result` is multiplied by the square that each binary digit of
the exponent stands for. `fuel` bounds the number of digits. -/
def powerLoop : Nat → Binary64 → Binary64 → Nat → Binary64
  | 0, result, _, _ => result
  | fuel + 1, result, square, exponent =>
      let result := if exponent % 2 = 1 then result.mul square else result
      if exponent / 2 = 0 then result else powerLoop fuel result (square.mul square) (exponent / 2)

def power (base : Binary64) (exponent : Nat) : Binary64 :=
  powerLoop 64 (ofNat 1) base exponent

/-- A duration in seconds: whole seconds plus the rest, each rounded once. -/
def ofSeconds (span : Duration) : Binary64 :=
  (ofNat span.seconds).add ((ofNat span.subsecondNanos).div (ofNat 1000000000))

instance : DelayNumber Binary64 where
  ofFloat x := x
  ofDuration span := (ofSeconds span).mul (ofNat 1000)
  add := add
  mul := mul
  power := power
  less := lt
  roundMillis := roundToNat Text.maxU64

end Binary64

instance : DelayNumber Rat where
  ofFloat := Binary64.toRat
  ofDuration span := mkRat span.nanoseconds 1000000
  add := (· + ·)
  mul := (· * ·)
  power := (· ^ ·)
  less x y := decide (x < y)
  roundMillis x := if x < 0 then 0 else min (x + mkRat 1 2).floor.toNat Text.maxU64

namespace RedeliveryPolicy

section

variable {α : Type} [DelayNumber α]

def cap (policy : RedeliveryPolicy) (delay : α) : α :=
  let maximum : α := DelayNumber.ofDuration policy.maximumDelay
  if DelayNumber.less (DelayNumber.ofDuration ⟨0⟩) maximum && DelayNumber.less maximum delay then
    maximum
  else delay

/-- The exponent of the multiplier for an attempt; it stops growing at `2 ^ 31 - 1`. -/
def growth (attempt : Nat) : Nat :=
  min (attempt - 1) 2147483647

/-- The delay before the cut. -/
def uncutDelay (policy : RedeliveryPolicy) (attempt : Nat) : α :=
  let base : α := DelayNumber.ofDuration policy.delay
  if policy.exponential && (Binary64.ofNat 1).lt policy.multiplier then
    DelayNumber.mul base
      (DelayNumber.power (DelayNumber.ofFloat policy.multiplier) (growth attempt))
  else base

/-- The delay without any random move. -/
def steadyDelay (policy : RedeliveryPolicy) (attempt : Nat) : α :=
  policy.cap (policy.uncutDelay attempt)

def movedDelay (policy : RedeliveryPolicy) (attempt : Nat) (move : α) : α :=
  let delay : α := policy.steadyDelay attempt
  if policy.collisionAvoidance && DelayNumber.less (DelayNumber.ofDuration ⟨0⟩) delay then
    policy.cap (DelayNumber.add delay (DelayNumber.mul delay move))
  else delay

def delayMillis (policy : RedeliveryPolicy) (attempt : Nat) (move : α) : Nat :=
  match policy.pattern with
  | some pattern => pattern.delayFor attempt
  | none => DelayNumber.roundMillis (policy.movedDelay attempt move)

end

/-- The largest fraction of itself by which a delay may move either way. -/
def spread (policy : RedeliveryPolicy) : Binary64 :=
  policy.collisionPercent.div (.ofNat 200)

/-- The move for a chance from 0 to `2 ^ 32 - 1`: from the whole spread down to the whole spread
up, in equal steps. -/
def moveFor (policy : RedeliveryPolicy) (chance : Nat) : Binary64 :=
  policy.spread.mul (.ofRat (mkRat (2 * (chance % 4294967296 : Nat) - 4294967295) 4294967295))

def delayFor (policy : RedeliveryPolicy) (attempt chance : Nat) : Duration :=
  .ofMillis (policy.delayMillis attempt (policy.moveFor chance))

end RedeliveryPolicy

/-- The chance that follows a chance, spread over all 64-bit numbers. -/
def nextChance (chance : Nat) : Nat :=
  (chance * 6364136223846793005 + 1442695040888963407) % 18446744073709551616

/-- The upper half of a chance, in which neighbouring chances differ most. -/
def chanceDraw (chance : Nat) : Nat :=
  nextChance chance / 4294967296

end MessageRouting
