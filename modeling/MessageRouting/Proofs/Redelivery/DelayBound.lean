import MessageRouting.Redelivery.Delay
import Mathlib.Algebra.Order.Field.Basic
import Mathlib.Algebra.Order.Field.Rat
import Mathlib.Tactic.Linarith
import Mathlib.Tactic.Ring

/-!
# Computed delays and the maximum

A computed delay is cut at the maximum of its policy before it is moved and again
afterwards, so the exact number of milliseconds that comes out of the second cut never
passes the maximum. Only then is it rounded to whole milliseconds, and a half goes up:
a maximum that is half a millisecond or more beyond a whole number of them can be
passed by the rounding, by at most half a millisecond and by nothing else.
-/

namespace MessageRouting

/-! ## Spans in exact milliseconds -/

namespace Duration

def exactMillis (span : Duration) : Rat :=
  DelayNumber.ofDuration span

/-- A number of milliseconds is rounded to more whole milliseconds than the span has, and these
still fit 64 bits. -/
def RoundsPast (span : Duration) (number : Rat) : Prop :=
  (span.millis : Rat) + 1 / 2 ≤ number ∧ span.millis < Text.maxU64

instance (span : Duration) (number : Rat) : Decidable (span.RoundsPast number) :=
  inferInstanceAs (Decidable (_ ∧ _))

theorem exactMillis_eq (span : Duration) :
    span.exactMillis = (span.nanoseconds : Rat) / 1000000 := by
  rw [exactMillis, DelayNumber.ofDuration, instDelayNumberRat]
  simp only [Rat.mkRat_eq_div, Int.cast_natCast, Nat.cast_ofNat]

theorem exactMillis_pos_iff (span : Duration) : 0 < span.exactMillis ↔ 0 < span.nanoseconds := by
  rw [exactMillis_eq, div_pos_iff_of_pos_right (by norm_num), Nat.cast_pos]

/-- A span is its whole milliseconds and a rest that is less than one. -/
theorem exactMillis_eq_add (span : Duration) :
    span.exactMillis = span.millis + (span.nanoseconds % 1000000 : Nat) / 1000000 := by
  have parts : (span.nanoseconds : Rat) =
      1000000 * span.millis + (span.nanoseconds % 1000000 : Nat) := by
    exact_mod_cast (Nat.div_add_mod span.nanoseconds 1000000).symm
  rw [exactMillis_eq, parts]
  ring

theorem exactMillis_lt (span : Duration) : span.exactMillis < span.millis + 1 := by
  have rest : ((span.nanoseconds % 1000000 : Nat) : Rat) < 1000000 := by
    exact_mod_cast Nat.mod_lt span.nanoseconds (by decide : 0 < 1000000)
  rw [exactMillis_eq_add]
  linarith

/-- A span reaches half a millisecond beyond its whole milliseconds exactly if its rest does. -/
theorem half_le_exactMillis_iff (span : Duration) :
    (span.millis : Rat) + 1 / 2 ≤ span.exactMillis ↔ 1000000 ≤ 2 * (span.nanoseconds % 1000000) := by
  have cast : 1000000 ≤ 2 * (span.nanoseconds % 1000000) ↔
      (1000000 : Rat) ≤ 2 * (span.nanoseconds % 1000000 : Nat) := by
    exact_mod_cast Iff.rfl
  rw [exactMillis_eq_add, cast]
  constructor <;> intro reaches <;> linarith

/-- Whole milliseconds are within a span exactly if they are no more than it has. -/
theorem ofMillis_le_iff (span : Duration) (whole : Nat) :
    (ofMillis whole).nanoseconds ≤ span.nanoseconds ↔ whole ≤ span.millis :=
  (Nat.le_div_iff_mul_le (by decide : 0 < 1000000)).symm

end Duration

/-! ## Rounding -/

/-- What a number is rounded to is within a bound exactly if the number is less than half a unit
beyond the bound, or the bound takes in all of 64 bits. -/
theorem roundMillis_le_iff (number : Rat) (bound : Nat) :
    DelayNumber.roundMillis number ≤ bound ↔ number < bound + 1 / 2 ∨ Text.maxU64 ≤ bound := by
  rw [DelayNumber.roundMillis, instDelayNumberRat]
  dsimp only
  by_cases negative : number < 0
  · have below : number < (bound : Rat) + 1 / 2 := by
      have : (0 : Rat) ≤ bound := Nat.cast_nonneg bound
      linarith
    simp only [negative, if_true, Nat.zero_le, below, true_or]
  · rw [if_neg negative, min_le_iff, Int.toNat_le, ← Int.lt_add_one_iff, Rat.floor_lt_iff]
    have half : mkRat 1 2 = (1 / 2 : Rat) := by norm_num [Rat.mkRat_eq_div]
    rw [half]
    push_cast
    exact or_congr_left ⟨fun below => by linarith, fun below => by linarith⟩

theorem lt_roundMillis_iff (number : Rat) (span : Duration) :
    span.millis < DelayNumber.roundMillis number ↔ span.RoundsPast number := by
  rw [← not_le, roundMillis_le_iff, Duration.RoundsPast]
  push Not
  rfl

namespace RedeliveryPolicy

variable {policy : RedeliveryPolicy} {attempt : Nat} {move : Rat}

/-! ## The two cuts -/

/-- A cut at a positive maximum is the minimum of the two. -/
theorem cap_eq_min (limited : 0 < policy.maximumDelay.nanoseconds) (delay : Rat) :
    policy.cap delay = min policy.maximumDelay.exactMillis delay := by
  have positive : (0 : Rat) < policy.maximumDelay.exactMillis :=
    (Duration.exactMillis_pos_iff _).mpr limited
  have zero : Duration.exactMillis ⟨0⟩ = 0 := by
    rw [Duration.exactMillis_eq]
    norm_num
  change (if decide (Duration.exactMillis ⟨0⟩ < policy.maximumDelay.exactMillis) &&
      decide (policy.maximumDelay.exactMillis < delay) then policy.maximumDelay.exactMillis
    else delay) = _
  rw [zero, decide_eq_true positive, Bool.true_and]
  by_cases beyond : policy.maximumDelay.exactMillis < delay
  · rw [if_pos (decide_eq_true beyond), min_eq_left beyond.le]
  · rw [if_neg (by simpa using beyond), min_eq_right (not_lt.mp beyond)]

/-- The exact delay is within the maximum, moved or not: the last thing done to it is a cut. -/
theorem movedDelay_le (limited : 0 < policy.maximumDelay.nanoseconds) (attempt : Nat)
    (move : Rat) : policy.movedDelay attempt move ≤ policy.maximumDelay.exactMillis := by
  have cut (delay : Rat) : policy.cap delay ≤ policy.maximumDelay.exactMillis := by
    rw [cap_eq_min limited]
    exact min_le_left _ _
  rw [movedDelay]
  split
  · exact cut _
  · exact cut _

/-! ## The delay in whole milliseconds -/

def exactDelayFor (policy : RedeliveryPolicy) (attempt : Nat) (move : Rat) : Duration :=
  .ofMillis (policy.delayMillis attempt move)

theorem delayMillis_of_computed (computed : policy.pattern = none) (attempt : Nat) (move : Rat) :
    policy.delayMillis attempt move = DelayNumber.roundMillis (policy.movedDelay attempt move) := by
  rw [delayMillis, computed]

/-- A delay that is rounded past the maximum is the next whole millisecond after the maximum. -/
theorem delayMillis_of_roundsPast (computed : policy.pattern = none)
    (limited : 0 < policy.maximumDelay.nanoseconds)
    (past : policy.maximumDelay.RoundsPast (policy.movedDelay attempt move)) :
    policy.delayMillis attempt move = policy.maximumDelay.millis + 1 := by
  have within : policy.movedDelay attempt move < policy.maximumDelay.millis + 1 :=
    (movedDelay_le limited attempt move).trans_lt policy.maximumDelay.exactMillis_lt
  have upper : policy.delayMillis attempt move ≤ policy.maximumDelay.millis + 1 := by
    rw [delayMillis_of_computed computed, roundMillis_le_iff]
    left
    push_cast
    linarith
  have lower : policy.maximumDelay.millis < policy.delayMillis attempt move := by
    rw [delayMillis_of_computed computed, lt_roundMillis_iff]
    exact past
  omega

/-- With exact arithmetic and without a delay pattern, the delay before the rounding is within a
positive maximum, whatever the attempt and the move. The delay itself is within it unless the
rounding goes past it; then it is the next whole millisecond, at most half a millisecond beyond
the maximum. A maximum with less than half a millisecond beyond its whole milliseconds is never
passed. -/
theorem maximum_passed_only_by_rounding (policy : RedeliveryPolicy) (attempt : Nat) (move : Rat)
    (computed : policy.pattern = none) (limited : 0 < policy.maximumDelay.nanoseconds) :
    policy.movedDelay attempt move ≤ policy.maximumDelay.exactMillis ∧
      ((policy.exactDelayFor attempt move).nanoseconds ≤ policy.maximumDelay.nanoseconds ↔
        ¬ policy.maximumDelay.RoundsPast (policy.movedDelay attempt move)) ∧
      (policy.maximumDelay.RoundsPast (policy.movedDelay attempt move) →
        policy.exactDelayFor attempt move = .ofMillis (policy.maximumDelay.millis + 1) ∧
        2 * (policy.exactDelayFor attempt move).nanoseconds ≤
          2 * policy.maximumDelay.nanoseconds + 1000000) ∧
      (2 * (policy.maximumDelay.nanoseconds % 1000000) < 1000000 →
        (policy.exactDelayFor attempt move).nanoseconds ≤ policy.maximumDelay.nanoseconds) := by
  have within := movedDelay_le limited attempt move
  have bounded : (policy.exactDelayFor attempt move).nanoseconds ≤
      policy.maximumDelay.nanoseconds ↔
        ¬ policy.maximumDelay.RoundsPast (policy.movedDelay attempt move) := by
    rw [exactDelayFor, Duration.ofMillis_le_iff, delayMillis_of_computed computed,
      ← lt_roundMillis_iff, not_lt]
  have rest (past : policy.maximumDelay.RoundsPast (policy.movedDelay attempt move)) :
      1000000 ≤ 2 * (policy.maximumDelay.nanoseconds % 1000000) :=
    (Duration.half_le_exactMillis_iff _).mp (past.1.trans within)
  refine ⟨within, bounded, fun past => ?_, fun short => ?_⟩
  · have next : policy.exactDelayFor attempt move = .ofMillis (policy.maximumDelay.millis + 1) := by
      rw [exactDelayFor, delayMillis_of_roundsPast computed limited past]
    refine ⟨next, ?_⟩
    have reaches := rest past
    rw [next, Duration.ofMillis, Duration.millis]
    dsimp only
    omega
  · exact bounded.mpr fun past => absurd (rest past) (by omega)

/-- A delay of one millisecond that doubles up to a maximum of 2.4 milliseconds, moved by up to
fifteen percent. -/
def doublingSettings : RedeliverySettings :=
  { delay := .ofMillis 1, maximumDelay := ⟨2400000⟩, exponential := true,
    collisionAvoidance := true }

/-- The third delay of four milliseconds is cut to 2.4, moved up to 2.76, cut again, and rounded
down. -/
theorem third_doubling_cut_twice : ∃ policy, doublingSettings.check = .ok policy ∧
    policy.pattern = none ∧ 0 < policy.maximumDelay.nanoseconds ∧
    policy.uncutDelay 3 = (4 : Rat) ∧ policy.movedDelay 3 (3 / 20 : Rat) = 12 / 5 ∧
    2 * (policy.maximumDelay.nanoseconds % 1000000) < 1000000 ∧
    policy.exactDelayFor 3 (3 / 20) = .ofMillis 2 ∧
    (policy.exactDelayFor 3 (3 / 20)).nanoseconds ≤ policy.maximumDelay.nanoseconds :=
  ⟨_, rfl, rfl, by decide, by decide +kernel, by decide +kernel, by decide, by decide +kernel,
    (maximum_passed_only_by_rounding _ 3 (3 / 20) rfl (by decide)).2.2.2 (by decide)⟩

def halfMillisecondSettings : RedeliverySettings :=
  { delay := .ofMillis 10, maximumDelay := ⟨500000⟩ }

/-- The first delay under a maximum of half a millisecond is a whole one, in exact numbers and as
it is run. -/
theorem half_millisecond_passed : ∃ policy, halfMillisecondSettings.check = .ok policy ∧
    policy.pattern = none ∧ 0 < policy.maximumDelay.nanoseconds ∧
    policy.maximumDelay.RoundsPast (policy.movedDelay 1 0) ∧
    policy.exactDelayFor 1 0 = .ofMillis 1 ∧ policy.delayFor 1 0 = .ofMillis 1 ∧
    policy.maximumDelay.nanoseconds < (policy.exactDelayFor 1 0).nanoseconds :=
  ⟨_, rfl, rfl, by decide, by decide +kernel, by decide +kernel, by decide +kernel,
    by decide +kernel⟩

end RedeliveryPolicy

end MessageRouting
