import MessageRouting.Proofs.Number.Exact
import MessageRouting.Proofs.Value.Conversion

/-!
# Floats as integers

A float converts to an integer if it is finite and whole, and to nothing if it is
not. Within the bounds of 64 bits it gives the integer that it stands for, as a text
and a JSON number do. Beyond the bounds, where these are refused, it gives the bound
on its side.
-/

namespace MessageRouting

namespace Binary64

/-- A float is whole if it is finite and its number is an integer. -/
theorem toInt?_eq_some_iff {x : Binary64} {i : Int} :
    x.toInt? = some i ↔ x.isFinite = true ∧ x.number = i := by
  rw [toInt?, toRat_eq_number]
  by_cases whole : x.number.den = 1
  · have same : x.number = x.number.num := Rat.ext rfl whole
    cases x.isFinite with
    | false => simp
    | true =>
        rw [whole, same, Rat.num_intCast, Int.cast_inj]
        simp
  · have apart : x.number ≠ i := by
      intro same
      rw [same] at whole
      exact whole rfl
    simp [whole, apart]

theorem toInt?_eq_none_iff {x : Binary64} :
    x.toInt? = none ↔ x.isFinite = false ∨ ∀ i : Int, x.number ≠ i := by
  rw [Option.eq_none_iff_forall_ne_some]
  simp only [ne_eq, toInt?_eq_some_iff, not_and]
  cases x.isFinite <;> simp

end Binary64

namespace Converter

/-- The 64-bit integer nearest to an integer. -/
def nearestInt64 (i : Int) : Int64 :=
  Int64.ofInt (max Text.minI64 (min i Text.maxI64))

theorem convert_float_int (x : Binary64) :
    standard.convert (.float x) .int = x.toInt?.map fun i => .int (nearestInt64 i) := by
  change (Value.wholeToInt? x).map Value.int = _
  rw [Value.wholeToInt?, Option.map_map]
  rfl

theorem convert_json_int (i : Int) :
    standard.convert (.json (.int i)) .int =
      if i ≤ Text.maxI64 then some (.int (Int64.ofInt i)) else none := by
  change (if i ≤ Text.maxI64 then some (Int64.ofInt i) else none).map Value.int = _
  split <;> rfl

/-- A text that shows an integer is read as it if it fits. -/
theorem convert_shown_int (i : Int) :
    standard.convert (.text (Text.showInt i)) .int =
      if Text.minI64 ≤ i ∧ i ≤ Text.maxI64 then some (.int (Int64.ofInt i)) else none := by
  have surrounds : Text.Surrounds (Text.intChars i) (Text.showInt i).toList := by
    rw [Text.showInt, String.toList_ofList]
    exact Text.surrounds_self _
  rw [convert_text_int, Value.readInt?_of_spells (Text.spellsInt_intChars i) surrounds]
  split <;> rfl

theorem toInt_ofInt {i : Int} (lower : Text.minI64 ≤ i) (upper : i ≤ Text.maxI64) :
    (Int64.ofInt i).toInt = i := by
  rw [Text.minI64] at lower
  rw [Text.maxI64] at upper
  exact Int64.toInt_ofInt_of_le lower (Int.lt_add_one_of_le upper)

theorem nearestInt64_of_within {i : Int} (lower : Text.minI64 ≤ i) (upper : i ≤ Text.maxI64) :
    nearestInt64 i = Int64.ofInt i := by
  rw [nearestInt64, min_eq_left upper, max_eq_right lower]

theorem nearestInt64_of_above {i : Int} (above : Text.maxI64 < i) :
    nearestInt64 i = Int64.maxValue := by
  rw [nearestInt64, min_eq_right above.le]
  rfl

theorem nearestInt64_of_below {i : Int} (below : i < Text.minI64) :
    nearestInt64 i = Int64.minValue := by
  have small : i ≤ Text.maxI64 := below.le.trans (by decide)
  rw [nearestInt64, min_eq_left small, max_eq_left below.le]
  rfl

/-- What a float converts to as an integer, by the fields of its pattern. An infinity, a NaN and a
number that is not whole convert to nothing. A whole number within the bounds converts to itself,
as its text and its JSON number do. A whole number beyond the bounds, whose text and JSON number are
refused, converts to the bound on its side, so that exactly these results are not the number. -/
theorem integer_of_float (x : Binary64) :
    ((x.exponentField = 0x7FF ∨ ∀ i : Int, x.number ≠ i) →
      standard.convert (.float x) .int = none) ∧
    ∀ i : Int, x.exponentField < 0x7FF → x.number = i →
      (Text.minI64 ≤ i → i ≤ Text.maxI64 →
        standard.convert (.float x) .int = some (.int (Int64.ofInt i)) ∧
        (Int64.ofInt i).toInt = i ∧
        standard.convert (.text (Text.showInt i)) .int = some (.int (Int64.ofInt i)) ∧
        standard.convert (.json (.int i)) .int = some (.int (Int64.ofInt i))) ∧
      (Text.maxI64 < i →
        standard.convert (.float x) .int = some (.int Int64.maxValue) ∧
        (Int64.maxValue.toInt : Rat) ≠ x.number ∧
        standard.convert (.text (Text.showInt i)) .int = none ∧
        standard.convert (.json (.int i)) .int = none) ∧
      (i < Text.minI64 →
        standard.convert (.float x) .int = some (.int Int64.minValue) ∧
        (Int64.minValue.toInt : Rat) ≠ x.number ∧
        standard.convert (.text (Text.showInt i)) .int = none) := by
  refine ⟨?_, fun i finite same => ?_⟩
  · intro apart
    have unread : x.toInt? = none := by
      refine Binary64.toInt?_eq_none_iff.mpr (apart.imp_left fun top => ?_)
      rw [← Bool.not_eq_true, Binary64.isFinite_iff]
      omega
    rw [convert_float_int, unread, Option.map_none]
  · have read : x.toInt? = some i :=
      Binary64.toInt?_eq_some_iff.mpr ⟨(Binary64.isFinite_iff x).mpr finite, same⟩
    rw [convert_float_int, read, Option.map_some, convert_shown_int, convert_json_int, same]
    refine ⟨fun lower upper => ?_, fun above => ?_, fun below => ?_⟩
    · rw [nearestInt64_of_within lower upper, if_pos ⟨lower, upper⟩, if_pos upper]
      exact ⟨rfl, toInt_ofInt lower upper, rfl, rfl⟩
    · rw [nearestInt64_of_above above, if_neg (fun fits => fits.2.not_gt above),
        if_neg above.not_ge]
      refine ⟨rfl, ?_, rfl, rfl⟩
      exact_mod_cast above.ne
    · rw [nearestInt64_of_below below, if_neg fun fits => fits.1.not_gt below]
      refine ⟨rfl, ?_, rfl⟩
      exact_mod_cast below.ne'

/-- The largest float below the upper bound and the lower bound itself convert to themselves, the
first float beyond the upper bound does not, and a half converts to nothing. -/
theorem integer_of_float_at_bounds :
    standard.convert (.float ⟨0x43DFFFFFFFFFFFFF⟩) .int =
        some (.int (Int64.ofInt 9223372036854774784)) ∧
      (Int64.ofInt 9223372036854774784).toInt = 9223372036854774784 ∧
      standard.convert (.float ⟨0xC3E0000000000000⟩) .int = some (.int (Int64.ofInt Text.minI64)) ∧
      standard.convert (.float ⟨0x43E0000000000000⟩) .int = some (.int Int64.maxValue) ∧
      standard.convert (.text (Text.showInt 9223372036854775808)) .int = none ∧
      standard.convert (.float ⟨0xC3E0000000000001⟩) .int = some (.int Int64.minValue) ∧
      standard.convert (.float ⟨0x3FE0000000000000⟩) .int = none ∧
      standard.convert (.float .nan) .int = none := by
  have value {x : Binary64} {r : Rat} (same : x.toRat = r) : x.number = r := by
    rw [← Binary64.toRat_eq_number, same]
  have inside := ((integer_of_float ⟨0x43DFFFFFFFFFFFFF⟩).2 9223372036854774784 (by decide)
    (value (by decide +kernel))).1 (by decide) (by decide)
  have lowest := ((integer_of_float ⟨0xC3E0000000000000⟩).2 Text.minI64 (by decide)
    (value (by decide +kernel))).1 (by decide) (by decide)
  have above := ((integer_of_float ⟨0x43E0000000000000⟩).2 9223372036854775808 (by decide)
    (value (by decide +kernel))).2.1 (by decide)
  have below := ((integer_of_float ⟨0xC3E0000000000001⟩).2 (-9223372036854777856) (by decide)
    (value (by decide +kernel))).2.2 (by decide)
  have broken : ∀ i : Int, (⟨0x3FE0000000000000⟩ : Binary64).number ≠ i := by
    intro i same
    rw [value (r := 1 / 2) (by decide +kernel)] at same
    have den := congrArg Rat.den same
    rw [Rat.den_intCast] at den
    exact absurd den (by decide +kernel)
  exact ⟨inside.1, inside.2.1, lowest.1, above.1, above.2.2.1, below.1,
    (integer_of_float _).1 (.inr broken), (integer_of_float _).1 (.inl (by decide))⟩

/-- The float that stands for the first integer beyond 64 bits is whole and converts to another
integer, while the text and the JSON number of that integer convert to none. -/
theorem float_beyond_bounds_capped :
    (⟨0x43E0000000000000⟩ : Binary64).isFinite = true ∧
      (⟨0x43E0000000000000⟩ : Binary64).number = (9223372036854775808 : Int) ∧
      standard.convert (.float ⟨0x43E0000000000000⟩) .int =
        some (.int (Int64.ofInt 9223372036854775807)) ∧
      (Int64.ofInt 9223372036854775807).toInt = 9223372036854775807 ∧
      standard.convert (.text (Text.showInt 9223372036854775808)) .int = none ∧
      standard.convert (.json (.int 9223372036854775808)) .int = none ∧
      ¬ ∀ (x : Binary64) (i : Int64), standard.convert (.float x) .int = some (.int i) →
        x.number = i.toInt := by
  have number : (⟨0x43E0000000000000⟩ : Binary64).number = (9223372036854775808 : Int) := by
    rw [← Binary64.toRat_eq_number]
    decide +kernel
  refine ⟨by decide, number, rfl, by decide, ?_, rfl, ?_⟩
  · rw [convert_shown_int]
    rfl
  · intro lossless
    have same := lossless ⟨0x43E0000000000000⟩ (Int64.ofInt 9223372036854775807) rfl
    rw [number, Int.cast_inj] at same
    exact absurd same (by decide)

end Converter

end MessageRouting
