import MessageRouting.Proofs.Number.Rounding
import MessageRouting.Proofs.Redelivery.Acceptance
import MessageRouting.Proofs.Redelivery.PatternGrammar
import MessageRouting.Redelivery.Delay

/-!
# The range of the random move

A random number cannot be drawn from a range that is empty or not finite, so a delay
that is moved at random exists only if there is such a range. The range of a policy
whose percentage is within bounds is symmetric and at most one wide.
-/

namespace MessageRouting

structure FloatRange where
  low : Binary64
  high : Binary64
deriving Inhabited

namespace FloatRange

/-- No number is within the range. An end that is a NaN is in no order. -/
def isEmpty (range : FloatRange) : Bool :=
  !(range.low.lt range.high || range.low.same range.high)

/-- The ends and the width are finite. -/
def isFinite (range : FloatRange) : Bool :=
  range.low.isFinite && range.high.isFinite && (range.high.add range.low.neg).isFinite

/-- What `draw` takes from the range. Nothing can be taken from a range that is empty or not
finite. -/
def draw? (draw : FloatRange → Binary64) (range : FloatRange) : Option Binary64 :=
  if range.isEmpty || !range.isFinite then none else some (draw range)

theorem isEmpty_eq_false_iff {range : FloatRange} (finite : range.low.isFinite = true)
    (finiteOther : range.high.isFinite = true) :
    range.isEmpty = false ↔ range.low.number ≤ range.high.number := by
  rw [isEmpty, Binary64.same, Binary64.isNaN_eq_false_of_isFinite finite,
    Binary64.isNaN_eq_false_of_isFinite finiteOther, Bool.not_eq_false',
    ← Binary64.lt_eq_false_iff finiteOther finite]
  have one := Binary64.lt_iff finite finiteOther
  have other := Binary64.lt_iff finiteOther finite
  cases below : range.low.lt range.high with
  | true =>
      have apart : range.high.lt range.low = false :=
        (Binary64.lt_eq_false_iff finiteOther finite).mpr (one.mp below).le
      simp [apart]
  | false =>
      cases above : range.high.lt range.low <;> simp

end FloatRange

namespace RedeliveryPolicy

variable {policy : RedeliveryPolicy}

/-- The range of the random move. -/
def jitter (policy : RedeliveryPolicy) : FloatRange :=
  ⟨policy.spread.neg, policy.spread⟩

/-- The delay before an attempt where the random move is drawn from its range by `draw`: none where
that range cannot be drawn from. The range matters only where a delay is moved. -/
def tryDelayFor (policy : RedeliveryPolicy) (draw : FloatRange → Binary64) (attempt : Nat) :
    Option Duration :=
  match policy.pattern with
  | some pattern => some (.ofMillis (pattern.delayFor attempt))
  | none =>
      let delay : Binary64 := policy.steadyDelay attempt
      if policy.collisionAvoidance && DelayNumber.less (DelayNumber.ofDuration ⟨0⟩) delay then
        (policy.jitter.draw? draw).map fun move =>
          .ofMillis (DelayNumber.roundMillis
            (policy.cap (DelayNumber.add delay (DelayNumber.mul delay move))))
      else some (.ofMillis (DelayNumber.roundMillis delay))

/-- The percentage is within bounds. -/
structure Jitters (policy : RedeliveryPolicy) : Prop where
  finite : policy.collisionPercent.isFinite = true
  nonneg : 0 ≤ policy.collisionPercent.number
  bounded : policy.collisionPercent.number ≤ 100

theorem jitters_of_check {settings : RedeliverySettings} (checked : settings.check = .ok policy) :
    policy.Jitters := by
  obtain ⟨inBounds, _, _, rfl⟩ := RedeliverySettings.check_eq_ok_iff.mp checked
  exact ⟨inBounds.percentFinite, inBounds.percentNonneg, inBounds.percent⟩

/-- The spread is at most a half. -/
theorem spread_bounds (jitters : policy.Jitters) :
    policy.spread.isFinite = true ∧ 0 ≤ policy.spread.number ∧ policy.spread.number ≤ 1 / 2 := by
  obtain ⟨finite, divisor⟩ : (Binary64.ofNat 200).isFinite = true ∧
      (Binary64.ofNat 200).number = 200 := Binary64.ofNat_exact (by decide)
  have nonneg : 0 ≤ policy.collisionPercent.number / 200 := div_nonneg jitters.nonneg (by norm_num)
  have share : |policy.collisionPercent.number / (Binary64.ofNat 200).number| ≤
      2 ^ (-((1 : Nat) : Int)) := by
    rw [divisor, abs_of_nonneg nonneg, zpow_neg, zpow_natCast]
    linarith [jitters.bounded]
  have within : Binary64.Within 1 policy.spread :=
    Binary64.within_div jitters.finite finite (by rw [divisor]; norm_num) share (by decide)
  refine ⟨within.1, ?_, ?_⟩
  · exact Binary64.number_div_nonneg jitters.finite finite jitters.nonneg
      (by rw [divisor]; norm_num) share (by decide)
  · refine (le_abs_self _).trans (within.2.trans_eq ?_)
    norm_num

/-- The random move of a policy whose percentage is within bounds can be drawn. -/
theorem jitter_drawable (jitters : policy.Jitters) :
    policy.jitter.isEmpty = false ∧ policy.jitter.isFinite = true := by
  obtain ⟨finite, nonneg, half⟩ := spread_bounds jitters
  have finiteLow := Binary64.isFinite_neg finite
  constructor
  · refine (@FloatRange.isEmpty_eq_false_iff policy.jitter finiteLow finite).mpr ?_
    change policy.spread.neg.number ≤ policy.spread.number
    rw [Binary64.number_neg]
    linarith
  · have width : Binary64.Within 0 (policy.spread.add policy.spread.neg.neg) := by
      refine Binary64.within_add finite (Binary64.isFinite_neg finiteLow) ?_ (by decide)
      rw [Binary64.number_neg, Binary64.number_neg, neg_neg, abs_of_nonneg (by linarith)]
      norm_num
      linarith
    rw [FloatRange.isFinite, Bool.and_eq_true, Bool.and_eq_true]
    exact ⟨⟨finiteLow, finite⟩, width.1⟩

/-- The delay of a policy whose range can be drawn from is computed for every attempt. -/
theorem tryDelayFor_eq (jitters : policy.Jitters) (draw : FloatRange → Binary64) (attempt : Nat) :
    policy.tryDelayFor draw attempt =
      some (.ofMillis (policy.delayMillis attempt (draw policy.jitter))) := by
  obtain ⟨inhabited, finite⟩ := jitter_drawable jitters
  have drawn : policy.jitter.draw? draw = some (draw policy.jitter) := by
    rw [FloatRange.draw?, inhabited, finite]
    rfl
  rw [tryDelayFor, delayMillis]
  cases policy.pattern with
  | some pattern => rfl
  | none =>
      dsimp only
      rw [movedDelay, drawn]
      split <;> rfl

end RedeliveryPolicy

/-! ## Delays fit 64 bits -/

theorem Binary64.roundToNat_le (bound : Nat) (x : Binary64) : x.roundToNat bound ≤ bound := by
  unfold roundToNat
  split
  · exact Nat.zero_le bound
  · split
    · exact le_refl bound
    · exact min_le_right _ _

namespace DelayPattern

variable {pattern : DelayPattern}

theorem delay_le_of_spells {segments : List (List Char)} {groups : List DelayGroup}
    (spelled : List.Forall₂ Spells segments groups) :
    ∀ group ∈ groups, group.delay ≤ Text.maxU64 := by
  induction spelled with
  | nil => exact fun _ listed => absurd listed List.not_mem_nil
  | cons spells _ rest =>
      obtain ⟨_, _, _, _, _, _, _, fits, _⟩ := spells
      exact List.forall_mem_cons.mpr ⟨fits, rest⟩

/-- The delays of a pattern that was read fit 64 bits. -/
theorem delayFor_le {text : String} (read : DelayPattern.read text = .ok pattern) (attempt : Nat) :
    pattern.delayFor attempt ≤ Text.maxU64 := by
  have listed := delay_le_of_spells (read_eq_ok_iff.mp read).1
  rw [delayFor]
  cases last : (pattern.reached attempt).getLast? with
  | none => exact Nat.zero_le _
  | some group =>
      exact listed group ((List.takeWhile_sublist _).subset (List.mem_of_getLast? last))

end DelayPattern

/-- The delays of an accepted policy fit 64 bits. -/
theorem RedeliveryPolicy.delayMillis_le {settings : RedeliverySettings} {policy : RedeliveryPolicy}
    (checked : settings.check = .ok policy) (attempt : Nat) (move : Binary64) :
    policy.delayMillis attempt move ≤ Text.maxU64 := by
  obtain ⟨_, pattern, read, rfl⟩ := RedeliverySettings.check_eq_ok_iff.mp checked
  rw [delayMillis]
  cases pattern with
  | none => exact Binary64.roundToNat_le _ _
  | some pattern =>
      unfold RedeliverySettings.readPattern at read
      split at read
      · cases read
      · split at read
        · cases read
        · rename_i text _ _
          cases found : DelayPattern.read text with
          | error failure =>
              rw [found] at read
              cases read
          | ok written =>
              rw [found] at read
              cases read
              exact DelayPattern.delayFor_le found attempt

end MessageRouting
