import MessageRouting.Proofs.Number.Rounding
import MessageRouting.Redelivery.Policy

/-!
# Settings that become a policy

Settings become a policy if their numbers are within bounds and their delay pattern
is missing, blank or well written. The policy has the numbers of the settings.
-/

namespace MessageRouting

/-! ## Bounds on floats -/

namespace Binary64

variable {low high x : Binary64}

theorem lt_eq_false_iff (finite : x.isFinite = true) (finiteOther : low.isFinite = true) :
    x.lt low = false ↔ low.number ≤ x.number := by
  rw [← Bool.not_eq_true, lt_iff finite finiteOther, not_lt]

/-- What is neither finite nor a NaN is beyond every finite number on one of the two sides. -/
theorem beyond_of_infinite (number : x.isNaN = false) (infinite : x.isFinite = false)
    (finite : low.isFinite = true) (finiteOther : high.isFinite = true) :
    x.lt low = true ∨ high.lt x = true := by
  have numberLow := isNaN_eq_false_of_isFinite finite
  have numberHigh := isNaN_eq_false_of_isFinite finiteOther
  rw [isFinite, decide_eq_true_iff] at finite finiteOther
  rw [isFinite, decide_eq_false_iff_not] at infinite
  cases negative : x.isNegative with
  | true =>
      left
      rw [lt, number, numberLow]
      simp only [Bool.or_self, Bool.false_eq_true, if_false, decide_eq_true_iff, negative, if_true]
      split <;> omega
  | false =>
      right
      rw [lt, number, numberHigh]
      simp only [Bool.or_self, Bool.false_eq_true, if_false, decide_eq_true_iff, negative]
      split <;> omega

variable {least most : Nat}

/-- A float passes a check between two whole numbers if it is finite and its number is between
them. -/
theorem passes_between_iff (fits : least < 2 ^ 53) (fitsOther : most < 2 ^ 53) :
    (x.isNaN || x.lt (ofNat least) || (ofNat most).lt x) = false ↔
      x.isFinite = true ∧ least ≤ x.number ∧ x.number ≤ most := by
  obtain ⟨finite, number⟩ := ofNat_exact fits
  obtain ⟨finiteOther, numberOther⟩ := ofNat_exact fitsOther
  cases bounded : x.isFinite with
  | true =>
      rw [isNaN_eq_false_of_isFinite bounded, Bool.false_or, Bool.or_eq_false_iff,
        lt_eq_false_iff bounded finite, lt_eq_false_iff finiteOther bounded, number, numberOther]
      simp
  | false =>
      simp only [Bool.false_eq_true, false_and, iff_false, Bool.not_eq_false]
      cases number : x.isNaN with
      | true => rfl
      | false =>
          rcases beyond_of_infinite number bounded finite finiteOther with below | above
          · rw [below]
            rfl
          · rw [above, Bool.or_true]

/-- A float passes a check against a whole number from below if it is finite and its number is not
less. -/
theorem passes_above_iff (fits : least < 2 ^ 53) :
    (!x.isFinite || x.lt (ofNat least)) = false ↔ x.isFinite = true ∧ least ≤ x.number := by
  obtain ⟨finite, number⟩ := ofNat_exact fits
  cases bounded : x.isFinite with
  | true =>
      rw [Bool.not_true, Bool.false_or, lt_eq_false_iff bounded finite, number]
      simp
  | false => simp

end Binary64

/-! ## The check -/

namespace RedeliverySettings

variable {settings : RedeliverySettings} {policy : RedeliveryPolicy}

structure InBounds (settings : RedeliverySettings) : Prop where
  limit : -1 ≤ settings.maximum
  multiplierFinite : settings.multiplier.isFinite = true
  multiplier : 1 ≤ settings.multiplier.number
  percentFinite : settings.collisionPercent.isFinite = true
  percentNonneg : 0 ≤ settings.collisionPercent.number
  percent : settings.collisionPercent.number ≤ 100

def readPattern (settings : RedeliverySettings) : Except Failure (Option DelayPattern) :=
  match settings.pattern with
  | none => .ok none
  | some text => if Text.isAllBlank text then .ok none else (DelayPattern.read text).map some

theorem check_of_inBounds (inBounds : settings.InBounds) :
    settings.check = settings.readPattern.map fun pattern => { settings with pattern := pattern } := by
  have multiplier := (Binary64.passes_above_iff (show 1 < 2 ^ 53 by decide)).mpr
    ⟨inBounds.multiplierFinite, by exact_mod_cast inBounds.multiplier⟩
  have percent := (Binary64.passes_between_iff (show 0 < 2 ^ 53 by decide) (show 100 < 2 ^ 53 by decide)).mpr
    ⟨inBounds.percentFinite, by exact_mod_cast inBounds.percentNonneg,
      by exact_mod_cast inBounds.percent⟩
  unfold check readPattern
  rw [if_neg (not_lt.mpr inBounds.limit), multiplier, percent]
  simp only [Bool.false_eq_true, if_false]
  cases settings.pattern with
  | none => rfl
  | some text =>
      dsimp only
      split
      · rfl
      · cases DelayPattern.read text <;> rfl

theorem inBounds_of_check (checked : settings.check = .ok policy) : settings.InBounds := by
  unfold check at checked
  split at checked
  · contradiction
  rename_i limit
  split at checked
  · contradiction
  rename_i multiplier
  split at checked
  · contradiction
  rename_i percent
  obtain ⟨multiplierFinite, multiplier⟩ :=
    (Binary64.passes_above_iff (show 1 < 2 ^ 53 by decide)).mp (Bool.not_eq_true _ ▸ multiplier)
  obtain ⟨percentFinite, percentNonneg, percent⟩ :=
    (Binary64.passes_between_iff (show 0 < 2 ^ 53 by decide) (show 100 < 2 ^ 53 by decide)).mp
      (Bool.not_eq_true _ ▸ percent)
  exact
    { limit := not_lt.mp limit
      multiplierFinite := multiplierFinite
      multiplier := by exact_mod_cast multiplier
      percentFinite := percentFinite
      percentNonneg := by exact_mod_cast percentNonneg
      percent := by exact_mod_cast percent }

/-- Settings are accepted if their numbers are within bounds and their pattern can be read; the
policy is the settings with that pattern. -/
theorem check_eq_ok_iff :
    settings.check = .ok policy ↔ settings.InBounds ∧
      ∃ pattern, settings.readPattern = .ok pattern ∧
        policy = { settings with pattern := pattern } := by
  constructor
  · intro checked
    have inBounds := inBounds_of_check checked
    rw [check_of_inBounds inBounds] at checked
    cases read : settings.readPattern with
    | error failure =>
        rw [read] at checked
        contradiction
    | ok pattern =>
        rw [read] at checked
        exact ⟨inBounds, pattern, rfl, (Except.ok.inj checked).symm⟩
  · rintro ⟨inBounds, pattern, read, rfl⟩
    rw [check_of_inBounds inBounds, read]
    rfl

end RedeliverySettings

end MessageRouting
