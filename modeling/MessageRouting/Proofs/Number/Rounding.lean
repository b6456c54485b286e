import MessageRouting.Proofs.Number.Exact

/-!
# Rounding does not pass a power of two

A power of two that is within range is a pattern of its own. A quotient that is
not greater is therefore rounded to no greater pattern, so that sums and quotients
of small numbers are finite. A whole number with at most 53 binary digits is exact.
-/

namespace MessageRouting.Binary64

variable {num den : Nat}

/-! ## The leading digit -/

/-- A quotient is compared with a power of two in whole numbers. -/
theorem reaches_iff (positive : 0 < den) (exponent : Int) :
    (if exponent < 0 then den ≤ num * Nat.pow 2 exponent.natAbs
      else den * Nat.pow 2 exponent.natAbs ≤ num) ↔ (2 : Rat) ^ exponent ≤ num / den := by
  have cast : (0 : Rat) < den := Nat.cast_pos.mpr positive
  rw [le_div_iff₀ cast]
  split
  · rename_i negative
    have power : exponent = -(exponent.natAbs : Int) := by omega
    conv_rhs => rw [power, zpow_neg, zpow_natCast, ← div_eq_inv_mul, div_le_iff₀ (by positivity)]
    norm_cast
  · rename_i nonneg
    have power : exponent = (exponent.natAbs : Int) := by omega
    conv_rhs => rw [power, zpow_natCast, mul_comm]
    norm_cast

/-- The difference of the numbers of digits is the exponent of the leading digit, or one more. -/
theorem quotient_lt_estimate (positive : 0 < den) :
    (num : Rat) / den < 2 ^ ((num.log2 : Int) - den.log2 + 1) := by
  have above : (num : Rat) < 2 ^ (num.log2 + 1) := by exact_mod_cast Nat.lt_log2_self
  have below : (2 : Rat) ^ den.log2 ≤ den := by
    exact_mod_cast Nat.log2_self_le (Nat.ne_of_gt positive)
  rw [div_lt_iff₀ (Nat.cast_pos.mpr positive)]
  calc (num : Rat) < 2 ^ (num.log2 + 1) := above
    _ = 2 ^ ((num.log2 : Int) - den.log2 + 1) * 2 ^ den.log2 := by
        rw [← zpow_natCast, ← zpow_natCast, ← zpow_add₀ two_ne_zero]
        congr 1
        push_cast
        ring
    _ ≤ 2 ^ ((num.log2 : Int) - den.log2 + 1) * den :=
        mul_le_mul_of_nonneg_left below (by positivity)

theorem estimate_le_quotient (nonzero : num ≠ 0) (positive : 0 < den) :
    (2 : Rat) ^ ((num.log2 : Int) - den.log2 - 1) ≤ num / den := by
  have below : (2 : Rat) ^ num.log2 ≤ num := by exact_mod_cast Nat.log2_self_le nonzero
  have above : (den : Rat) < 2 ^ (den.log2 + 1) := by exact_mod_cast Nat.lt_log2_self
  rw [le_div_iff₀ (Nat.cast_pos.mpr positive)]
  calc (2 : Rat) ^ ((num.log2 : Int) - den.log2 - 1) * den
      ≤ 2 ^ ((num.log2 : Int) - den.log2 - 1) * 2 ^ (den.log2 + 1) :=
        mul_le_mul_of_nonneg_left above.le (by positivity)
    _ = 2 ^ num.log2 := by
        rw [← zpow_natCast, ← zpow_natCast, ← zpow_add₀ two_ne_zero]
        congr 1
        push_cast
        ring
    _ ≤ num := below

/-- The exponent of the leading digit is the greatest for which the power is reached. -/
theorem leadingExponent_eq (positive : 0 < den) :
    leadingExponent num den =
      if (2 : Rat) ^ ((num.log2 : Int) - den.log2) ≤ num / den then (num.log2 : Int) - den.log2
      else (num.log2 : Int) - den.log2 - 1 :=
  if_congr (reaches_iff positive _) rfl rfl

theorem quotient_lt_leading (positive : 0 < den) :
    (num : Rat) / den < 2 ^ (leadingExponent num den + 1) := by
  rw [leadingExponent_eq positive]
  split
  · exact quotient_lt_estimate positive
  · rename_i missed
    rw [sub_add_cancel]
    exact not_le.mp missed

theorem leading_le_quotient (nonzero : num ≠ 0) (positive : 0 < den) :
    (2 : Rat) ^ leadingExponent num den ≤ num / den := by
  rw [leadingExponent_eq positive]
  split
  · assumption
  · exact estimate_le_quotient nonzero positive

/-! ## Rounding -/

/-- Rounding does not pass a whole number. -/
theorem roundQuotient_le {bound : Nat} (positive : 0 < den) (within : num ≤ bound * den) :
    roundQuotient num den ≤ bound := by
  have quotient : num / den ≤ bound := Nat.div_le_of_le_mul (by rwa [mul_comm])
  unfold roundQuotient
  dsimp only
  split
  · exact quotient
  · -- a quotient that is rounded up has a remainder, so it is less than the bound
    rename_i up
    refine Nat.lt_of_le_of_ne quotient fun whole => ?_
    have division := Nat.div_add_mod num den
    rw [whole, mul_comm] at division
    omega

/-- Rounding does not pass the pattern of a power of two. -/
theorem roundMagnitude_le {k : Nat} (positive : 0 < den) (small : num * 2 ^ k ≤ den)
    (within : k ≤ 1022) : roundMagnitude num den ≤ (1023 - k) * 0x10000000000000 := by
  rw [roundMagnitude]
  split
  · exact Nat.zero_le _
  rename_i nonzero
  have cast : (0 : Rat) < den := Nat.cast_pos.mpr positive
  have less : (num : Rat) / den < 2 ^ (leadingExponent num den + 1) :=
    quotient_lt_leading positive
  have leading : leadingExponent num den ≤ -(k : Int) := by
    refine (zpow_le_zpow_iff_right₀ one_lt_two).mp ((leading_le_quotient nonzero positive).trans ?_)
    rw [div_le_iff₀ cast, zpow_neg, zpow_natCast, ← div_eq_inv_mul, le_div_iff₀ (by positivity)]
    exact_mod_cast small
  generalize leadingExponent num den = exponent at less leading
  obtain ⟨places, unit, least⟩ : ∃ places : Nat,
      max (exponent - 52) (-1074) = -(places : Int) ∧ 52 + k ≤ places ∧ places ≤ 1074 :=
    ⟨(max (exponent - 52) (-1074)).natAbs, by omega, by omega⟩
  have digits : roundQuotient (num * 2 ^ places) den ≤ (places - 51 - k) * 2 ^ 52 := by
    refine roundQuotient_le positive ?_
    by_cases last : places = 52 + k
    · -- the quotient may be the power itself
      have factor : places - 51 - k = 1 := by omega
      rw [factor, one_mul, last, pow_add, mul_comm (2 ^ 52), ← mul_assoc, mul_comm (2 ^ 52)]
      exact Nat.mul_le_mul_right _ small
    · have doubled : 2 ^ 53 ≤ (places - 51 - k) * 2 ^ 52 := by
        rw [pow_succ']
        exact Nat.mul_le_mul_right _ (by omega)
      refine le_trans ?_ (Nat.mul_le_mul_right den doubled)
      have scaled : (num : Rat) * 2 ^ places ≤ 2 ^ 53 * den := by
        rw [div_lt_iff₀ cast] at less
        calc (num : Rat) * 2 ^ places
            ≤ 2 ^ (exponent + 1) * den * 2 ^ places :=
              mul_le_mul_of_nonneg_right less.le (by positivity)
          _ = 2 ^ (exponent + 1 + places) * den := by
              rw [zpow_add₀ two_ne_zero _ (places : Int), zpow_natCast]
              ring
          _ ≤ 2 ^ (53 : Int) * den :=
              mul_le_mul_of_nonneg_right
                (zpow_le_zpow_right₀ one_le_two (by omega)) cast.le
          _ = 2 ^ 53 * den := rfl
      exact_mod_cast scaled
  rw [unit]
  dsimp only
  rw [if_pos (by omega), Int.natAbs_neg, Int.natAbs_natCast]
  refine (min_le_left _ _).trans ((Nat.add_le_add_left digits _).trans ?_)
  omega

/-! ## Small results -/

theorem toNat_ofMagnitude (negative : Bool) {magnitude : Nat} (fits : magnitude < 2 ^ 63) :
    (ofMagnitude negative magnitude).bits.toNat =
      if negative then 2 ^ 63 + magnitude else magnitude := by
  rw [ofMagnitude, UInt64.toNat_ofNat']
  cases negative <;> simp only [Bool.false_eq_true, if_false, if_true] <;> omega

theorem magnitude_ofMagnitude (negative : Bool) {magnitude : Nat} (fits : magnitude < 2 ^ 63) :
    (ofMagnitude negative magnitude).magnitude = magnitude := by
  rw [Binary64.magnitude, toNat_ofMagnitude negative fits]
  split <;> omega

theorem isNegative_ofMagnitude (negative : Bool) {magnitude : Nat} (fits : magnitude < 2 ^ 63) :
    (ofMagnitude negative magnitude).isNegative = negative := by
  rw [isNegative, toNat_ofMagnitude negative fits]
  cases negative <;> simp only [Bool.false_eq_true, if_false, if_true, decide_eq_true_eq,
    decide_eq_false_iff_not] <;> omega

theorem number_ofMagnitude (negative : Bool) {magnitude : Nat} (fits : magnitude < 2 ^ 63) :
    (ofMagnitude negative magnitude).number =
      if negative then -size magnitude else size magnitude := by
  rw [← toRat_eq_number, toRat_eq_size, isNegative_ofMagnitude negative fits,
    magnitude_ofMagnitude negative fits]

/-- The pattern of a power of two. -/
theorem size_power {k : Nat} (within : k ≤ 1022) :
    size ((1023 - k) * 0x10000000000000) = 2 ^ (-(k : Int)) := by
  have exponent : (((1023 - k) * 0x10000000000000 / 0x10000000000000 : Nat) : Int) - 1075 =
      -(k : Int) - 52 := by
    omega
  rw [size, if_neg (by omega), exponent, Nat.mul_mod_left, zpow_sub₀ two_ne_zero]
  norm_num
  field_simp

def Within (k : Nat) (x : Binary64) : Prop :=
  x.isFinite = true ∧ |x.number| ≤ 2 ^ (-(k : Int))

variable {k : Nat} {x y : Binary64}

/-- A small number is rounded to a small pattern. -/
theorem roundMagnitude_le_of_abs_le {ratio : Rat} (small : |ratio| ≤ 2 ^ (-(k : Int)))
    (within : k ≤ 1022) :
    roundMagnitude ratio.num.natAbs ratio.den ≤ (1023 - k) * 0x10000000000000 := by
  refine roundMagnitude_le ratio.pos ?_ within
  rw [Rat.abs_def, Rat.divInt_eq_div, zpow_neg, zpow_natCast,
    div_le_iff₀ (by exact_mod_cast ratio.pos), ← div_eq_inv_mul, le_div_iff₀ (by positivity)]
    at small
  exact_mod_cast small

theorem within_ofQuotient {ratio : Rat} (small : |ratio| ≤ 2 ^ (-(k : Int))) (within : k ≤ 1022)
    (negative : Bool) : Within k (ofQuotient negative ratio.num.natAbs ratio.den) := by
  have bound := roundMagnitude_le_of_abs_le small within
  have fits : roundMagnitude ratio.num.natAbs ratio.den < 2 ^ 63 := by omega
  constructor
  · rw [isFinite, ofQuotient, magnitude_ofMagnitude negative fits, infinityMagnitude,
      decide_eq_true_iff]
    omega
  · rw [ofQuotient, number_ofMagnitude negative fits, ← size_power within]
    have sized := strictMono_size.monotone bound
    have nonneg := size_nonneg (roundMagnitude ratio.num.natAbs ratio.den)
    split
    · rwa [abs_neg, abs_of_nonneg nonneg]
    · rwa [abs_of_nonneg nonneg]

theorem isInfinite_eq_false_of_isFinite (finite : x.isFinite = true) : x.isInfinite = false := by
  rw [isFinite, decide_eq_true_iff] at finite
  exact decide_eq_false (by omega)

theorem magnitude_ne_zero (nonzero : x.number ≠ 0) : x.magnitude ≠ 0 := by
  intro zero
  rw [← toRat_eq_number, toRat_eq_size, zero, size_zero, neg_zero, ite_self] at nonzero
  exact nonzero rfl

theorem div_eq_ofQuotient (finite : x.isFinite = true) (finiteOther : y.isFinite = true)
    (nonzero : y.number ≠ 0) :
    x.div y = ofQuotient (xor x.isNegative y.isNegative) (x.number / y.number).num.natAbs
      (x.number / y.number).den := by
  rw [div, isNaN_eq_false_of_isFinite finite, isNaN_eq_false_of_isFinite finiteOther,
    isInfinite_eq_false_of_isFinite finite, isInfinite_eq_false_of_isFinite finiteOther]
  simp only [Bool.or_self, Bool.false_eq_true, if_false, magnitude_ne_zero nonzero,
    toRat_eq_number]

theorem within_div (finite : x.isFinite = true) (finiteOther : y.isFinite = true)
    (nonzero : y.number ≠ 0) (small : |x.number / y.number| ≤ 2 ^ (-(k : Int)))
    (within : k ≤ 1022) : Within k (x.div y) := by
  rw [div_eq_ofQuotient finite finiteOther nonzero]
  exact within_ofQuotient small within _

theorem within_add (finite : x.isFinite = true) (finiteOther : y.isFinite = true)
    (small : |x.number + y.number| ≤ 2 ^ (-(k : Int))) (within : k ≤ 1022) :
    Within k (x.add y) := by
  rw [add, isNaN_eq_false_of_isFinite finite, isNaN_eq_false_of_isFinite finiteOther,
    isInfinite_eq_false_of_isFinite finite, isInfinite_eq_false_of_isFinite finiteOther]
  simp only [Bool.or_self, Bool.false_eq_true, if_false, toRat_eq_number]
  split
  · -- an exact zero
    have zero : |(0 : Rat)| ≤ 2 ^ (-(k : Int)) := by
      rw [abs_zero]
      positivity
    have nothing := within_ofQuotient zero within (x.isNegative && y.isNegative)
    exact nothing
  · exact within_ofQuotient small within _

/-- A quotient of numbers that are not negative is not negative; it may be the negative zero. -/
theorem number_div_nonneg (finite : x.isFinite = true) (finiteOther : y.isFinite = true)
    (nonneg : 0 ≤ x.number) (positive : 0 < y.number)
    (small : |x.number / y.number| ≤ 2 ^ (-(k : Int))) (within : k ≤ 1022) :
    0 ≤ (x.div y).number := by
  have bound := roundMagnitude_le_of_abs_le small within
  have fits : roundMagnitude (x.number / y.number).num.natAbs (x.number / y.number).den < 2 ^ 63 := by
    omega
  have sign : y.isNegative = false := by
    by_contra negative
    rw [← toRat_eq_number, toRat_eq_size, if_pos (Bool.not_eq_false _ ▸ negative)] at positive
    linarith [size_nonneg y.magnitude]
  rw [div_eq_ofQuotient finite finiteOther positive.ne', ofQuotient, sign, Bool.xor_false,
    number_ofMagnitude _ fits]
  split
  · rename_i negative
    have zero : x.number = 0 := by
      refine le_antisymm ?_ nonneg
      rw [← toRat_eq_number, toRat_eq_size, if_pos negative]
      exact neg_nonpos.mpr (size_nonneg _)
    rw [zero, zero_div, Rat.num_zero, Int.natAbs_zero, roundMagnitude, if_pos rfl, size_zero,
      neg_zero]
  · exact size_nonneg _

theorem isFinite_neg (finite : x.isFinite = true) : x.neg.isFinite = true := by
  have small := finite
  rw [isFinite, decide_eq_true_iff, infinityMagnitude] at small
  rwa [isFinite, neg, magnitude_ofMagnitude _ (by omega)]

theorem number_neg (x : Binary64) : x.neg.number = -x.number := by
  have fits : x.magnitude < 2 ^ 63 := Nat.mod_lt _ (by decide)
  rw [neg, number_ofMagnitude _ fits, ← toRat_eq_number, toRat_eq_size]
  cases x.isNegative <;> simp

/-! ## Whole numbers -/

theorem roundQuotient_one (num : Nat) : roundQuotient num 1 = num := by
  unfold roundQuotient
  rw [Nat.mod_one, Nat.div_one, if_pos (.inl (by decide))]

theorem leadingExponent_one (nonzero : num ≠ 0) : leadingExponent num 1 = num.log2 := by
  have estimate : (num.log2 : Int) - Nat.log2 1 = num.log2 := sub_zero _
  have reached : (2 : Rat) ^ (num.log2 : Int) ≤ num / (1 : Nat) := by
    rw [Nat.cast_one, div_one, zpow_natCast]
    exact_mod_cast Nat.log2_self_le nonzero
  rw [leadingExponent_eq Nat.one_pos, estimate, if_pos reached]

/-- A whole number with at most 53 binary digits is shifted until it has 53. -/
theorem shifted_bounds (nonzero : num ≠ 0) (fits : num < 2 ^ 53) :
    num.log2 ≤ 52 ∧ 2 ^ 52 ≤ num * 2 ^ (52 - num.log2) ∧ num * 2 ^ (52 - num.log2) < 2 ^ 53 := by
  have digits : num.log2 ≤ 52 := Nat.le_of_lt_succ ((Nat.log2_lt nonzero).mpr fits)
  have least := Nat.mul_le_mul_right (2 ^ (52 - num.log2)) (Nat.log2_self_le nonzero)
  have most := Nat.mul_lt_mul_of_pos_right (@Nat.lt_log2_self num)
    (Nat.two_pow_pos (52 - num.log2))
  rw [← pow_add, Nat.add_sub_cancel' digits] at least
  rw [← pow_add, show num.log2 + 1 + (52 - num.log2) = 53 by omega] at most
  exact ⟨digits, least, most⟩

theorem roundMagnitude_one (nonzero : num ≠ 0) (fits : num < 2 ^ 53) :
    roundMagnitude num 1 =
      (1022 + num.log2) * 0x10000000000000 + num * 2 ^ (52 - num.log2) := by
  obtain ⟨digits, _, most⟩ := shifted_bounds nonzero fits
  have place : max ((num.log2 : Int) - 52) (-1074) = -((52 - num.log2 : Nat) : Int) := by omega
  have rounded :
      (if -((52 - num.log2 : Nat) : Int) < 0 then
        roundQuotient (num * Nat.pow 2 (-((52 - num.log2 : Nat) : Int)).natAbs) 1
      else roundQuotient num (1 * Nat.pow 2 (-((52 - num.log2 : Nat) : Int)).natAbs)) =
        num * 2 ^ (52 - num.log2) := by
    rw [Int.natAbs_neg, Int.natAbs_natCast]
    split
    · exact roundQuotient_one _
    · have whole : 52 - num.log2 = 0 := by omega
      rw [whole]
      exact (roundQuotient_one num).trans (mul_one num).symm
  rw [roundMagnitude, if_neg nonzero, leadingExponent_one nonzero, place]
  dsimp only
  rw [rounded, infinityMagnitude]
  omega

/-- A whole number with at most 53 binary digits is exact. -/
theorem ofNat_exact (fits : num < 2 ^ 53) :
    (ofNat num).isFinite = true ∧ (ofNat num).number = num := by
  by_cases zero : num = 0
  · subst zero
    exact ⟨by decide +kernel, (number_ofMagnitude false (by decide)).trans size_zero⟩
  obtain ⟨digits, least, most⟩ := shifted_bounds zero fits
  have magnitude := roundMagnitude_one zero fits
  have small : roundMagnitude num 1 < infinityMagnitude := by
    rw [magnitude, infinityMagnitude]
    omega
  have bits : roundMagnitude num 1 < 2 ^ 63 := small.trans (by decide)
  constructor
  · rw [isFinite, ofNat, ofQuotient, magnitude_ofMagnitude false bits]
    exact decide_eq_true small
  · have exponent : ((roundMagnitude num 1 / 0x10000000000000 : Nat) : Int) - 1075 =
        -((52 - num.log2 : Nat) : Int) := by
      omega
    have fraction : 0x10000000000000 + roundMagnitude num 1 % 0x10000000000000 =
        num * 2 ^ (52 - num.log2) := by
      omega
    have sized : size (roundMagnitude num 1) =
        ((0x10000000000000 + roundMagnitude num 1 % 0x10000000000000 : Nat) : Rat) *
          2 ^ (((roundMagnitude num 1 / 0x10000000000000 : Nat) : Int) - 1075) := by
      rw [size, if_neg (by omega)]
      push_cast
      rfl
    rw [ofNat, ofQuotient, number_ofMagnitude false bits, if_neg Bool.false_ne_true, sized,
      exponent, fraction, zpow_neg, zpow_natCast, Nat.cast_mul, Nat.cast_pow, Nat.cast_ofNat,
      mul_inv_cancel_right₀ (by positivity)]

end MessageRouting.Binary64
