import Mathlib.Algebra.Order.Round
import Mathlib.Data.Rat.Floor
import MessageRouting.Proofs.Redelivery.Acceptance
import MessageRouting.Proofs.Redelivery.DelayBound

/-!
# Back-off never shrinks

With exact arithmetic the delay before the rounding is a closed formula: the base
delay times a power of the multiplier, cut at the maximum. The multiplier of an
accepted policy is at least one, so that the formula grows with the attempt, and so
does what it is rounded to. A random move stays within the band around it.
-/

namespace MessageRouting

/-! ## Rounding -/

/-- Rounding is to the nearest whole number that fits 64 bits. -/
theorem roundMillis_eq (number : Rat) :
    DelayNumber.roundMillis number = min (round number).toNat (2 ^ 64 - 1) := by
  have half : mkRat 1 2 = (1 / 2 : Rat) := by norm_num [Rat.mkRat_eq_div]
  have nearest : (number + mkRat 1 2).floor = round number := by
    rw [round_eq, half]
    rfl
  rw [DelayNumber.roundMillis, instDelayNumberRat]
  dsimp only
  rw [nearest]
  split
  · rename_i negative
    have nothing : round number ≤ 0 := by
      have below : (round number : Rat) ≤ number + 1 / 2 := round_le_add_half number
      have less : (round number : Rat) < 1 := by linarith
      exact Int.lt_add_one_iff.mp (by exact_mod_cast less)
    rw [Int.toNat_of_nonpos nothing, Nat.zero_min]
  · rfl

theorem monotone_roundMillis : Monotone (DelayNumber.roundMillis : Rat → Nat) := by
  intro smaller larger order
  rw [roundMillis_eq, roundMillis_eq, round_eq, round_eq]
  exact min_le_min_right _ (Int.toNat_le_toNat (Int.floor_mono (add_le_add_left order _)))

namespace RedeliveryPolicy

variable {settings : RedeliverySettings} {policy : RedeliveryPolicy}

/-! ## The formula -/

/-- The base delay in milliseconds times the power of the multiplier for an attempt, or the base
delay alone where delays do not grow. -/
def grownDelay (policy : RedeliveryPolicy) (attempt : Nat) : Rat :=
  let base : Rat := policy.delay.nanoseconds / 1000000
  if policy.exponential then base * policy.multiplier.number ^ min (attempt - 1) (2 ^ 31 - 1)
  else base

def plannedDelay (policy : RedeliveryPolicy) (attempt : Nat) : Rat :=
  if 0 < policy.maximumDelay.nanoseconds then
    min (policy.maximumDelay.nanoseconds / 1000000) (policy.grownDelay attempt)
  else policy.grownDelay attempt

/-- The numbers of an accepted policy that its delays depend on. -/
structure GrowsOnly (policy : RedeliveryPolicy) : Prop where
  finite : policy.multiplier.isFinite = true
  multiplier : 1 ≤ policy.multiplier.number
  percent : 0 ≤ policy.collisionPercent.number

theorem growsOnly_of_check (accepted : settings.check = .ok policy) : policy.GrowsOnly := by
  obtain ⟨inBounds, _, _, rfl⟩ := RedeliverySettings.check_eq_ok_iff.mp accepted
  exact ⟨inBounds.multiplierFinite, inBounds.multiplier, inBounds.percentNonneg⟩

theorem uncutDelay_eq (grows : policy.GrowsOnly) (attempt : Nat) :
    policy.uncutDelay attempt = policy.grownDelay attempt := by
  obtain ⟨finite, one⟩ := @Binary64.ofNat_exact 1 (by decide)
  have faster : (Binary64.ofNat 1).lt policy.multiplier = true ↔ 1 < policy.multiplier.number := by
    rw [Binary64.lt_iff finite grows.finite, one, Nat.cast_one]
  change (if policy.exponential && (Binary64.ofNat 1).lt policy.multiplier then
      policy.delay.exactMillis * policy.multiplier.toRat ^ growth attempt
    else policy.delay.exactMillis) = _
  rw [grownDelay, Duration.exactMillis_eq, Binary64.toRat_eq_number]
  cases policy.exponential with
  | false => rfl
  | true =>
      rw [Bool.true_and, if_pos rfl]
      split
      · rfl
      · -- a multiplier that is not greater than one is one
        rename_i level
        have one : policy.multiplier.number = 1 :=
          le_antisymm (not_lt.mp (faster.not.mp level)) grows.multiplier
        rw [one, one_pow, mul_one]

theorem cap_of_unlimited (unlimited : ¬ 0 < policy.maximumDelay.nanoseconds) (delay : Rat) :
    policy.cap delay = delay := by
  have nothing : (⟨0⟩ : Duration) = policy.maximumDelay := by
    obtain zero := Nat.eq_zero_of_not_pos unlimited
    exact congrArg Duration.mk zero.symm
  rw [cap, ← nothing, DelayNumber.less, instDelayNumberRat]
  simp

/-- The delay without a random move is given by the formula. -/
theorem steadyDelay_eq (grows : policy.GrowsOnly) (attempt : Nat) :
    policy.steadyDelay attempt = policy.plannedDelay attempt := by
  rw [steadyDelay, uncutDelay_eq grows, plannedDelay]
  by_cases limited : 0 < policy.maximumDelay.nanoseconds
  · rw [if_pos limited, cap_eq_min limited, Duration.exactMillis_eq]
  · rw [if_neg limited, cap_of_unlimited limited]

/-! ## Growth -/

theorem grownDelay_nonneg (grows : policy.GrowsOnly) (attempt : Nat) :
    0 ≤ policy.grownDelay attempt := by
  have multiplier : 0 ≤ policy.multiplier.number := zero_le_one.trans grows.multiplier
  rw [grownDelay]
  split <;> positivity

theorem plannedDelay_nonneg (grows : policy.GrowsOnly) (attempt : Nat) :
    0 ≤ policy.plannedDelay attempt := by
  have grown := grownDelay_nonneg grows attempt
  rw [plannedDelay]
  split
  · exact le_min (by positivity) grown
  · exact grown

theorem monotone_grownDelay (grows : policy.GrowsOnly) : Monotone policy.grownDelay := by
  intro earlier later order
  rw [grownDelay, grownDelay]
  split
  · have exponents : min (earlier - 1) (2 ^ 31 - 1) ≤ min (later - 1) (2 ^ 31 - 1) :=
      min_le_min_right _ (Nat.sub_le_sub_right order 1)
    exact mul_le_mul_of_nonneg_left (pow_le_pow_right₀ grows.multiplier exponents) (by positivity)
  · exact le_refl _

theorem monotone_plannedDelay (grows : policy.GrowsOnly) : Monotone policy.plannedDelay := by
  intro earlier later order
  have grown := monotone_grownDelay grows order
  rw [plannedDelay, plannedDelay]
  split
  · exact min_le_min_left _ grown
  · exact grown

/-! ## The random move -/

variable {attempt : Nat} {move : Rat}

theorem exactDelayFor_eq (computed : policy.pattern = none) (attempt : Nat) (move : Rat) :
    policy.exactDelayFor attempt move =
      .ofMillis (min (round (policy.movedDelay attempt move)).toNat (2 ^ 64 - 1)) := by
  rw [exactDelayFor, delayMillis_of_computed computed, roundMillis_eq]

theorem movedDelay_of_unmoved (grows : policy.GrowsOnly) (unmoved : policy.collisionAvoidance = false)
    (attempt : Nat) (move : Rat) :
    policy.movedDelay attempt move = policy.plannedDelay attempt := by
  rw [movedDelay, unmoved, ← steadyDelay_eq grows]
  rfl

/-- A cut takes nothing off what is at most the planned delay, and adds nothing. -/
theorem cap_between (grows : policy.GrowsOnly) {lower delay : Rat}
    (within : lower ≤ policy.plannedDelay attempt) (above : lower ≤ delay) :
    lower ≤ policy.cap delay ∧ policy.cap delay ≤ delay := by
  by_cases limited : 0 < policy.maximumDelay.nanoseconds
  · have cut : policy.plannedDelay attempt ≤ policy.maximumDelay.exactMillis := by
      rw [← steadyDelay_eq grows, steadyDelay, cap_eq_min limited]
      exact min_le_left _ _
    rw [cap_eq_min limited]
    exact ⟨le_min (within.trans cut) above, min_le_right _ _⟩
  · rw [cap_of_unlimited limited]
    exact ⟨above, le_refl delay⟩

/-- A move by at most half the percentage either way keeps the delay within that band. -/
theorem movedDelay_between (grows : policy.GrowsOnly)
    (drawn : |move| ≤ policy.collisionPercent.number / 200) :
    (1 - policy.collisionPercent.number / 200) * policy.plannedDelay attempt ≤
        policy.movedDelay attempt move ∧
      policy.movedDelay attempt move ≤
        (1 + policy.collisionPercent.number / 200) * policy.plannedDelay attempt := by
  have planned := plannedDelay_nonneg grows attempt
  have share : 0 ≤ policy.collisionPercent.number / 200 := div_nonneg grows.percent (by norm_num)
  obtain ⟨least, most⟩ := abs_le.mp drawn
  have taken : 0 ≤ policy.collisionPercent.number / 200 * policy.plannedDelay attempt :=
    mul_nonneg share planned
  rw [movedDelay, steadyDelay_eq grows]
  split
  · have lower : (1 - policy.collisionPercent.number / 200) * policy.plannedDelay attempt ≤
        policy.plannedDelay attempt + policy.plannedDelay attempt * move := by
      linarith [mul_le_mul_of_nonneg_left least planned]
    have upper : policy.plannedDelay attempt + policy.plannedDelay attempt * move ≤
        (1 + policy.collisionPercent.number / 200) * policy.plannedDelay attempt := by
      linarith [mul_le_mul_of_nonneg_left most planned]
    have within : (1 - policy.collisionPercent.number / 200) * policy.plannedDelay attempt ≤
        policy.plannedDelay attempt := by linarith
    obtain ⟨kept, shortened⟩ := cap_between grows within lower
    exact ⟨kept, shortened.trans upper⟩
  · constructor <;> linarith

/-- With exact arithmetic, in an accepted policy without a delay pattern: where collisions are not
avoided, a later attempt has no shorter delay, and each delay is the planned one, rounded to the
nearest millisecond that fits 64 bits. Where they are avoided, each delay is rounded from a number
that is within the band around the planned delay, whatever is drawn. -/
theorem backOff_never_shrinks (accepted : settings.check = .ok policy)
    (computed : policy.pattern = none) :
    (policy.collisionAvoidance = false →
      (∀ earlier later, earlier ≤ later → ∀ move other : Rat,
        (policy.exactDelayFor earlier move).nanoseconds ≤
          (policy.exactDelayFor later other).nanoseconds) ∧
      ∀ attempt (move : Rat), policy.exactDelayFor attempt move =
        .ofMillis (min (round (policy.plannedDelay attempt)).toNat (2 ^ 64 - 1))) ∧
    (policy.collisionAvoidance = true → ∀ attempt (move : Rat),
      |move| ≤ policy.collisionPercent.number / 200 →
        policy.exactDelayFor attempt move =
          .ofMillis (min (round (policy.movedDelay attempt move)).toNat (2 ^ 64 - 1)) ∧
        (1 - policy.collisionPercent.number / 200) * policy.plannedDelay attempt ≤
          policy.movedDelay attempt move ∧
        policy.movedDelay attempt move ≤
          (1 + policy.collisionPercent.number / 200) * policy.plannedDelay attempt) := by
  have grows := growsOnly_of_check accepted
  refine ⟨fun unmoved => ⟨?_, ?_⟩, ?_⟩
  · intro earlier later order move other
    refine Nat.mul_le_mul_right 1000000 ?_
    rw [delayMillis_of_computed computed, delayMillis_of_computed computed,
      movedDelay_of_unmoved grows unmoved, movedDelay_of_unmoved grows unmoved]
    exact monotone_roundMillis (monotone_plannedDelay grows order)
  · intro attempt move
    rw [exactDelayFor_eq computed, movedDelay_of_unmoved grows unmoved]
  · intro _ attempt move drawn
    exact ⟨exactDelayFor_eq computed attempt move, movedDelay_between grows drawn⟩

def growingSettings (collisionAvoidance : Bool) : RedeliverySettings :=
  { delay := ⟨3500000⟩, maximumDelay := .ofMillis 40, multiplier := ⟨0x3FF8000000000000⟩,
    exponential := true, collisionAvoidance := collisionAvoidance }

/-- The third delay of 7.875 milliseconds is rounded to eight and is no longer than that of the
last attempt there can be. Moved down as far as possible it is rounded from 6.69375. -/
theorem backOff_never_shrinks_growing :
    (∃ policy, (growingSettings false).check = .ok policy ∧ policy.pattern = none ∧
      policy.collisionAvoidance = false ∧ policy.plannedDelay 3 = 63 / 8 ∧
      policy.exactDelayFor 3 0 = .ofMillis (min (round (63 / 8 : Rat)).toNat (2 ^ 64 - 1)) ∧
      (policy.exactDelayFor 3 0).nanoseconds ≤ (policy.exactDelayFor 4294967295 0).nanoseconds) ∧
    ∃ policy, (growingSettings true).check = .ok policy ∧ policy.pattern = none ∧
      policy.collisionAvoidance = true ∧ policy.collisionPercent.number = 30 ∧
      (1 - 30 / 200) * (63 / 8 : Rat) ≤ policy.movedDelay 3 (-(3 / 20) : Rat) ∧
      policy.movedDelay 3 (-(3 / 20) : Rat) = 1071 / 160 := by
  have half : (⟨0x3FF8000000000000⟩ : Binary64).number = 3 / 2 := by
    rw [← Binary64.toRat_eq_number]
    decide +kernel
  have percent : (Binary64.ofNat 30).number = 30 := (@Binary64.ofNat_exact 30 (by decide)).2
  have third (collisionAvoidance : Bool) : plannedDelay
      { growingSettings collisionAvoidance with pattern := none } 3 = 63 / 8 := by
    simp only [plannedDelay, grownDelay, growingSettings, Duration.ofMillis, half]
    norm_num
  refine ⟨⟨_, rfl, rfl, rfl, third false, ?_, ?_⟩, _, rfl, rfl, rfl, percent, ?_, ?_⟩
  · have rounded := ((@backOff_never_shrinks (growingSettings false) _ rfl rfl).1 rfl).2 3 0
    rw [rounded, third false]
  · exact ((@backOff_never_shrinks (growingSettings false) _ rfl rfl).1 rfl).1 3 4294967295
      (by decide) 0 0
  · have moved := (@backOff_never_shrinks (growingSettings true) _ rfl rfl).2 rfl 3
      (-(3 / 20)) (by
        change _ ≤ (Binary64.ofNat 30).number / 200
        rw [percent]
        norm_num [abs_le])
    have lower := moved.2.1
    rw [third true] at lower
    change (1 - (Binary64.ofNat 30).number / 200) * (63 / 8) ≤ _ at lower
    rw [percent] at lower
    exact lower
  · decide +kernel

end RedeliveryPolicy

end MessageRouting
