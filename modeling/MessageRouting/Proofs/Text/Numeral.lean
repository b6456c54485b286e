import MessageRouting.Text.Numeral

/-!
# Numerals read back

The decimal digits of a number are read back as the number, so that different numbers
are written differently.
-/

namespace MessageRouting.Text

theorem digitValue?_digit : ∀ digit < 10,
    digitValue? (Char.ofNat ('0'.toNat + digit)) = some digit := by
  decide

theorem extendNumeral_digit (value : Nat) {digit : Nat} (small : digit < 10) :
    extendNumeral value [Char.ofNat ('0'.toNat + digit)] = some (10 * value + digit) := by
  rw [extendNumeral, digitValue?_digit digit small]
  rfl

theorem extendNumeral_append (value : Nat) (first second : List Char) :
    extendNumeral value (first ++ second) =
      (extendNumeral value first).bind fun between => extendNumeral between second := by
  induction first generalizing value with
  | nil => rfl
  | cons c rest inductionHypothesis =>
      cases digit : digitValue? c with
      | none => simp [extendNumeral, digit]
      | some held => simp [extendNumeral, digit, inductionHypothesis]

theorem extendNumeral_decimalDigits (n : Nat) : extendNumeral 0 (decimalDigits n) = some n := by
  induction n using decimalDigits.induct with
  | case1 n small =>
      rw [decimalDigits, if_pos small, extendNumeral_digit 0 small, Nat.mul_zero, Nat.zero_add]
  | case2 n large inductionHypothesis =>
      have last := extendNumeral_digit (n / 10) (Nat.mod_lt n (by decide))
      rw [decimalDigits, if_neg large, extendNumeral_append, inductionHypothesis,
        Option.bind_some, last, Nat.div_add_mod]

theorem showNat_injective {first second : Nat} (same : showNat first = showNat second) :
    first = second := by
  have digits : decimalDigits first = decimalDigits second := String.ofList_injective same
  have read := extendNumeral_decimalDigits first
  rw [digits, extendNumeral_decimalDigits] at read
  exact (Option.some.inj read).symm

/-! ## The digits themselves -/

theorem digitValue?_eq_some {c : Char} {digit : Nat} :
    digitValue? c = some digit ↔ ('0' ≤ c ∧ c ≤ '9') ∧ c.toNat - '0'.toNat = digit := by
  unfold digitValue?
  by_cases isDigit : '0' ≤ c ∧ c ≤ '9' <;> simp [isDigit]

/-- More digits never make a number smaller. -/
theorem le_of_extendNumeral {value n : Nat} {digits : List Char}
    (read : extendNumeral value digits = some n) : value ≤ n := by
  induction digits generalizing value with
  | nil => exact Nat.le_of_eq (Option.some.inj read)
  | cons c rest inductionHypothesis =>
      obtain ⟨digit, _, later⟩ := Option.bind_eq_some_iff.mp read
      have further := inductionHypothesis later
      omega

theorem digit_of_extendNumeral {value n : Nat} {digits : List Char}
    (read : extendNumeral value digits = some n) : ∀ c ∈ digits, '0' ≤ c ∧ c ≤ '9' := by
  induction digits generalizing value with
  | nil =>
      intro c listed
      exact absurd listed List.not_mem_nil
  | cons first rest inductionHypothesis =>
      obtain ⟨digit, found, later⟩ := Option.bind_eq_some_iff.mp read
      intro c listed
      rcases List.mem_cons.mp listed with rfl | behind
      · exact (digitValue?_eq_some.mp found).1
      · exact inductionHypothesis later c behind

/-- Every character of a numeral is a digit. -/
theorem digit_of_mem_decimalDigits {n : Nat} {c : Char} (listed : c ∈ decimalDigits n) :
    '0' ≤ c ∧ c ≤ '9' :=
  digit_of_extendNumeral (extendNumeral_decimalDigits n) c listed

theorem digit_ne_zero : ∀ digit < 10, 0 < digit → Char.ofNat ('0'.toNat + digit) ≠ '0' := by
  decide

/-- Only the numeral of zero begins with a zero. -/
theorem exists_decimalDigits_of_pos {n : Nat} (positive : 0 < n) :
    ∃ first rest, decimalDigits n = first :: rest ∧ first ≠ '0' := by
  induction n using decimalDigits.induct with
  | case1 n small =>
      rw [decimalDigits, if_pos small]
      exact ⟨_, [], rfl, digit_ne_zero n small positive⟩
  | case2 n large inductionHypothesis =>
      obtain ⟨first, rest, digits, nonzero⟩ := inductionHypothesis (by omega)
      rw [decimalDigits, if_neg large, digits]
      exact ⟨first, _, rfl, nonzero⟩

/-- A numeral begins with a digit, which is no leading zero. -/
theorem exists_decimalDigits (n : Nat) :
    ∃ first rest, decimalDigits n = first :: rest ∧ ('0' ≤ first ∧ first ≤ '9') ∧
      (first = '0' → rest = []) := by
  have begins : ∃ first rest, decimalDigits n = first :: rest ∧ (first = '0' → rest = []) := by
    rcases Nat.eq_zero_or_pos n with rfl | positive
    · exact ⟨'0', [], by rw [decimalDigits, if_pos (by decide)]; rfl, fun _ => rfl⟩
    · obtain ⟨first, rest, digits, nonzero⟩ := exists_decimalDigits_of_pos positive
      exact ⟨first, rest, digits, fun zero => absurd zero nonzero⟩
  obtain ⟨first, rest, digits, lone⟩ := begins
  have listed : first ∈ decimalDigits n := by
    rw [digits]
    exact List.mem_cons_self
  exact ⟨first, rest, digits, digit_of_mem_decimalDigits listed, lone⟩

end MessageRouting.Text
