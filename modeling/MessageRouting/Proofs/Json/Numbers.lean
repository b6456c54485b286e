import MessageRouting.Json.Number
import MessageRouting.Proofs.Text.Numeral

/-!
# Integers read back

An integer that fits 64 bits, signed or unsigned, is written in decimal and read back
as that integer, whatever closes the document behind it.
-/

namespace MessageRouting.Json

/-- What can stand behind a document: nothing, a comma, or the end of a list or an object. -/
def Closes : List Char → Prop
  | [] => True
  | c :: _ => c = ',' ∨ c = ']' ∨ c = '}'

variable {rest : List Char} {n value : Nat} {digits : List Char} {negative : Bool}

/-! ## Where a number ends -/

theorem Closes.dropWhile_digits (closes : Closes rest) :
    rest.dropWhile (fun c => decide ('0' ≤ c ∧ c ≤ '9')) = rest ∧
      rest.takeWhile (fun c => decide ('0' ≤ c ∧ c ≤ '9')) = [] := by
  cases rest with
  | nil => exact ⟨rfl, rfl⟩
  | cons c behind => rcases closes with rfl | rfl | rfl <;> exact ⟨rfl, rfl⟩

theorem Closes.readFraction_eq (closes : Closes rest) : readFraction rest = .ok ([], rest) := by
  cases rest with
  | nil => rfl
  | cons c behind => rcases closes with rfl | rfl | rfl <;> rfl

theorem Closes.readExponent_eq (closes : Closes rest) : readExponent rest = .ok (0, rest) := by
  cases rest with
  | nil => rfl
  | cons c behind => rcases closes with rfl | rfl | rfl <;> rfl

theorem spanDigits_decimalDigits (closes : Closes rest) :
    Text.spanDigits (Text.decimalDigits n ++ rest) = (Text.decimalDigits n, rest) := by
  have digits : ∀ c ∈ Text.decimalDigits n, decide ('0' ≤ c ∧ c ≤ '9') = true := by
    intro c listed
    exact decide_eq_true (Text.digit_of_mem_decimalDigits listed)
  obtain ⟨dropped, taken⟩ := closes.dropWhile_digits
  rw [Text.spanDigits, List.takeWhile_append_of_pos digits, List.dropWhile_append_of_pos digits,
    taken, dropped, List.append_nil]

theorem readWhole_decimalDigits (closes : Closes rest) :
    readWhole (Text.decimalDigits n ++ rest) = .ok (Text.decimalDigits n, rest) := by
  obtain ⟨first, others, digits, _, lone⟩ := Text.exists_decimalDigits n
  unfold readWhole
  rw [spanDigits_decimalDigits closes, digits]
  split
  · rename_i same
    exact absurd (Prod.mk.inj same).1 (List.cons_ne_nil first others)
  · rename_i same
    obtain ⟨whole, rfl⟩ := Prod.mk.inj same
    obtain ⟨zero, others⟩ := List.cons.inj whole
    rw [lone zero] at others
    contradiction
  · rfl

/-! ## The value of a number -/

theorem push?_of_digit {c : Char} {digit : Nat} (found : Text.digitValue? c = some digit)
    (fits : 10 * value + digit ≤ Text.maxU64) :
    Significand.push? value c = some (10 * value + digit) := by
  obtain ⟨_, same⟩ := Text.digitValue?_eq_some.mp found
  unfold Significand.push?
  rw [same]
  simp only [fits]
  rfl

-- `unfold` would compute with the 64-bit bound in unary, so the equation is stated once.
theorem addWhole_cons (value : Nat) (c : Char) (others : List Char) :
    Significand.addWhole value (c :: others) =
      match Significand.push? value c with
      | some extended => Significand.addWhole extended others
      | none => ⟨value, others.length + 1⟩ := by
  rfl

/-- Digits whose number fits 64 bits are all kept. -/
theorem addWhole_of_extendNumeral (read : Text.extendNumeral value digits = some n)
    (fits : n ≤ Text.maxU64) : Significand.addWhole value digits = ⟨n, 0⟩ := by
  induction digits generalizing value with
  | nil =>
      obtain rfl := Option.some.inj read
      rfl
  | cons c others inductionHypothesis =>
      obtain ⟨digit, found, later⟩ := Option.bind_eq_some_iff.mp read
      have kept := Nat.le_trans (Text.le_of_extendNumeral later) fits
      rw [addWhole_cons, push?_of_digit found kept]
      exact inductionHypothesis later

theorem readMagnitude_decimalDigits {document : Json} (closes : Closes rest)
    (fits : n ≤ Text.maxU64) (found : ofWhole negative ⟨n, 0⟩ = some document) :
    readMagnitude negative (Text.decimalDigits n ++ rest) = .ok (document, rest) := by
  have significand := addWhole_of_extendNumeral (Text.extendNumeral_decimalDigits n) fits
  unfold readMagnitude
  rw [readWhole_decimalDigits closes]
  simp only [Except.bind, bind, closes.readFraction_eq, closes.readExponent_eq, significand,
    if_true, found]

/-! ## Integers -/

theorem ofWhole_of_nonneg (n : Nat) : ofWhole false ⟨n, 0⟩ = some (.int n) :=
  if_pos ⟨rfl, rfl⟩

theorem ofWhole_of_neg (positive : 0 < n) (fits : n ≤ 0x8000000000000000) :
    ofWhole true ⟨n, 0⟩ = some (.int (-(n : Int))) := by
  unfold ofWhole
  rw [if_neg (by simp), if_pos ⟨rfl, positive, fits⟩]

theorem readNumber_of_digit {c : Char} {others : List Char} (isDigit : '0' ≤ c ∧ c ≤ '9') :
    readNumber (c :: others) = readMagnitude false (c :: others) := by
  unfold readNumber
  split
  · rename_i same
    obtain ⟨rfl, _⟩ := List.cons.inj same
    exact absurd isDigit (by decide)
  · rfl

/-- An integer of at most 64 bits is read back. -/
theorem readNumber_intChars {i : Int} (lower : Text.minI64 ≤ i) (upper : i ≤ Text.maxU64)
    (closes : Closes rest) : readNumber (Text.intChars i ++ rest) = .ok (.int i, rest) := by
  unfold Text.minI64 at lower
  unfold Text.intChars
  by_cases negative : i < 0
  · have magnitude : (i.natAbs : Int) = -i := by omega
    have positive : 0 < i.natAbs := by omega
    have small : i.natAbs ≤ 0x8000000000000000 := by omega
    have fits : i.natAbs ≤ Text.maxU64 := Nat.le_trans small (by decide)
    have found := ofWhole_of_neg positive small
    rw [magnitude, Int.neg_neg] at found
    rw [if_pos negative]
    exact readMagnitude_decimalDigits closes fits found
  · have magnitude : (i.natAbs : Int) = i := by omega
    have fits : i.natAbs ≤ Text.maxU64 := by omega
    have found := ofWhole_of_nonneg i.natAbs
    rw [magnitude] at found
    have read := readMagnitude_decimalDigits closes fits found
    obtain ⟨first, others, digits, isDigit, _⟩ := Text.exists_decimalDigits i.natAbs
    rw [if_neg negative]
    rw [digits] at read ⊢
    exact (readNumber_of_digit isDigit).trans read

end MessageRouting.Json
