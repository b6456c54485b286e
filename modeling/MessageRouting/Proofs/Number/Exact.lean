import MessageRouting.Number.Binary64
import Mathlib.Algebra.Order.Field.Power
import Mathlib.Algebra.Order.Field.Rat
import Mathlib.Order.Monotone.Basic
import Mathlib.Tactic.FieldSimp
import Mathlib.Tactic.Linarith
import Mathlib.Tactic.NormNum
import Mathlib.Tactic.Ring

/-!
# What a pattern stands for

The fields of a pattern are its sign, its exponent and its fraction. A finite
pattern stands for a rational number that is read from them, and the order of
finite patterns is the order of their numbers.
-/

namespace MessageRouting.Binary64

/-! ## Fields -/

/-- The 11 bits behind the sign. -/
def exponentField (x : Binary64) : Nat :=
  x.bits.toNat / 0x10000000000000 % 0x800

def fractionField (x : Binary64) : Nat :=
  x.bits.toNat % 0x10000000000000

/-- The number of a pattern by its fields. The fraction stands behind a leading 1, or behind a
leading 0 where the exponent field is 0. -/
def number (x : Binary64) : Rat :=
  let sign : Rat := if x.isNegative then -1 else 1
  if x.exponentField = 0 then sign * (x.fractionField / 2 ^ 52) * 2 ^ (-1022 : Int)
  else sign * (1 + x.fractionField / 2 ^ 52) * 2 ^ ((x.exponentField : Int) - 1023)

theorem magnitude_div (x : Binary64) : x.magnitude / 0x10000000000000 = x.exponentField := by
  unfold magnitude exponentField
  omega

theorem magnitude_mod (x : Binary64) : x.magnitude % 0x10000000000000 = x.fractionField := by
  unfold magnitude fractionField
  omega

theorem isFinite_iff (x : Binary64) : x.isFinite = true ↔ x.exponentField < 0x7FF := by
  rw [isFinite, decide_eq_true_iff, ← magnitude_div, infinityMagnitude]
  omega

theorem isNaN_eq_false_of_isFinite {x : Binary64} (finite : x.isFinite = true) :
    x.isNaN = false := by
  rw [isFinite, decide_eq_true_iff] at finite
  exact decide_eq_false (by omega)

/-! ## The exact value -/

theorem scaled_eq (m : Nat) (q : Int) : scaled m q = m * 2 ^ q := by
  unfold scaled
  split
  · rename_i negative
    have power : q = -(q.natAbs : Int) := by omega
    conv_rhs => rw [power, zpow_neg, zpow_natCast]
    simp only [Rat.mkRat_eq_div, Nat.pow_eq, Nat.cast_pow, Nat.cast_ofNat, Int.cast_natCast,
      div_eq_mul_inv]
  · rename_i nonneg
    have power : q = (q.natAbs : Int) := by omega
    conv_rhs => rw [power, zpow_natCast]
    push_cast [Nat.pow_eq]
    rfl

/-- The number of a pattern without its sign, by the pattern without its sign. -/
def size (magnitude : Nat) : Rat :=
  if magnitude < 0x10000000000000 then (magnitude : Rat) * 2 ^ (-1074 : Int)
  else (0x10000000000000 + (magnitude % 0x10000000000000 : Nat) : Rat) *
    2 ^ ((magnitude / 0x10000000000000 : Nat) - 1075 : Int)

theorem toRat_eq_size (x : Binary64) :
    x.toRat = if x.isNegative then -size x.magnitude else size x.magnitude := by
  have same : scaled x.significand x.scale = size x.magnitude := by
    rw [scaled_eq, significand, scale, size]
    split
    · rfl
    · push_cast
      rfl
  rw [toRat, same]

/-- The exact value that is computed with is the number by the fields. -/
theorem toRat_eq_number (x : Binary64) : x.toRat = x.number := by
  have leading : x.magnitude < 0x10000000000000 ↔ x.exponentField = 0 := by
    rw [← magnitude_div]
    omega
  have small : (2 : Rat) ^ (-1074 : Int) = 2 ^ (-1022 : Int) / 2 ^ 52 := by
    rw [show (-1074 : Int) = -1022 - 52 by rfl, zpow_sub₀ two_ne_zero]
    rfl
  have normal (e : Int) : (2 : Rat) ^ (e - 1075) = 2 ^ (e - 1023) / 2 ^ 52 := by
    rw [show e - 1075 = e - 1023 - 52 by ring, zpow_sub₀ two_ne_zero]
    rfl
  rw [toRat_eq_size, number]
  by_cases zero : x.exponentField = 0
  · have whole : x.magnitude = x.fractionField := by
      rw [← magnitude_mod]
      have := leading.mpr zero
      omega
    rw [size, if_pos (leading.mpr zero), if_pos zero, small, whole]
    split <;> ring
  · rw [size, if_neg (leading.not.mpr zero), if_neg zero, magnitude_div, magnitude_mod, normal]
    split
    · field_simp
      ring
    · field_simp
      ring

/-! ## Order -/

@[simp]
theorem size_zero : size 0 = 0 := by
  simp [size]

theorem power_succ (e : Nat) :
    (2 : Rat) ^ (((e + 1 : Nat) : Int) - 1075) = 2 * 2 ^ ((e : Int) - 1075) := by
  rw [show ((e + 1 : Nat) : Int) - 1075 = 1 + ((e : Int) - 1075) by push_cast; ring,
    zpow_add₀ two_ne_zero, zpow_one]

theorem size_lt_succ (magnitude : Nat) : size magnitude < size (magnitude + 1) := by
  unfold size
  by_cases below : magnitude + 1 < 0x10000000000000
  · rw [if_pos (by omega), if_pos below]
    exact mul_lt_mul_of_pos_right (by exact_mod_cast Nat.lt_succ_self magnitude) (by positivity)
  by_cases first : magnitude = 0xFFFFFFFFFFFFF
  · subst first
    rw [if_pos (by decide), if_neg (by decide),
      show (((0xFFFFFFFFFFFFF + 1) / 0x10000000000000 : Nat) : Int) - 1075 = -1074 by decide]
    exact mul_lt_mul_of_pos_right (by norm_num) (by positivity)
  rw [if_neg (by omega), if_neg below]
  by_cases carries : magnitude % 0x10000000000000 = 0xFFFFFFFFFFFFF
  · -- the fraction is full, so the exponent grows by one
    have exponent : (magnitude + 1) / 0x10000000000000 = magnitude / 0x10000000000000 + 1 := by
      omega
    have fraction : (magnitude + 1) % 0x10000000000000 = 0 := by omega
    rw [exponent, fraction, carries, power_succ, ← mul_assoc]
    exact mul_lt_mul_of_pos_right (by norm_num) (by positivity)
  · have exponent : (magnitude + 1) / 0x10000000000000 = magnitude / 0x10000000000000 := by omega
    have fraction : (magnitude + 1) % 0x10000000000000 = magnitude % 0x10000000000000 + 1 := by
      omega
    rw [exponent, fraction]
    refine mul_lt_mul_of_pos_right (add_lt_add_right ?_ _) (by positivity)
    exact_mod_cast Nat.lt_succ_self _

theorem strictMono_size : StrictMono size :=
  strictMono_nat_of_lt_succ size_lt_succ

theorem size_nonneg (magnitude : Nat) : 0 ≤ size magnitude := by
  rw [← size_zero]
  exact strictMono_size.monotone (Nat.zero_le magnitude)

/-- The order of finite patterns is that of their numbers. -/
theorem lt_iff {x y : Binary64} (finite : x.isFinite = true) (finiteOther : y.isFinite = true) :
    x.lt y = true ↔ x.number < y.number := by
  have mono := @strictMono_size.lt_iff_lt
  have nonneg := size_nonneg x.magnitude
  have nonnegOther := size_nonneg y.magnitude
  rw [← toRat_eq_number, ← toRat_eq_number, toRat_eq_size, toRat_eq_size, lt,
    isNaN_eq_false_of_isFinite finite, isNaN_eq_false_of_isFinite finiteOther]
  simp only [Bool.or_self, Bool.false_eq_true, if_false, decide_eq_true_iff]
  cases x.isNegative <;> cases y.isNegative <;> simp only [Bool.false_eq_true, if_false, if_true]
  · rw [Nat.cast_lt, mono]
  · constructor
    · omega
    · intro less
      linarith
  · -- zero is the only number with two signs
    rw [← not_le, ← not_le, not_iff_not]
    constructor
    · intro both
      have zero : x.magnitude = 0 := by omega
      have zeroOther : y.magnitude = 0 := by omega
      rw [zero, zeroOther, size_zero, neg_zero]
    · intro both
      have zero := strictMono_size.injective ((show size x.magnitude = 0 by linarith).trans
        size_zero.symm)
      have zeroOther := strictMono_size.injective ((show size y.magnitude = 0 by linarith).trans
        size_zero.symm)
      omega
  · rw [neg_lt_neg_iff, neg_lt_neg_iff, Nat.cast_lt, mono]

end MessageRouting.Binary64
