import MessageRouting.Json.Parser
import MessageRouting.Json.Printer

/-!
# Quoted text read back

A character is written between quotes in one of three forms. Each form is read back as
the character, with one unit of fuel, so a whole text is read back up to its closing
quote.
-/

namespace MessageRouting.Json

/-- The three forms of a character between quotes: by itself, by a letter, and by a number of four
hexadecimal digits if it is a control character. -/
inductive Escaped (c : Char) : List Char → Prop
  | plain : c ≠ '"' → c ≠ '\\' → 0x20 ≤ c.toNat → Escaped c [c]
  | lettered {letter : Char} :
      letter ≠ 'u' → unescape? letter = some c → Escaped c ['\\', letter]
  | coded : c.toNat < 0x20 →
      Escaped c ['\\', 'u', '0', '0', hexDigit (c.toNat / 16), hexDigit (c.toNat % 16)]

theorem escaped_escapeChar (c : Char) : Escaped c (escapeChar c) := by
  unfold escapeChar
  split
  case h_8 noQuote noBackslash _ _ _ _ _ =>
    by_cases control : c.toNat < 0x20
    · rw [if_pos control]
      exact .coded control
    · rw [if_neg control]
      exact .plain noQuote noBackslash (Nat.le_of_not_lt control)
  all_goals exact .lettered (by decide) rfl

/-! ## One character -/

theorem hexValue?_hexDigit : ∀ digit < 16, hexValue? (hexDigit digit) = some digit := by
  decide

theorem readHexQuad_control {code : Nat} (control : code < 0x20) (rest : List Char) :
    readHexQuad ('0' :: '0' :: hexDigit (code / 16) :: hexDigit (code % 16) :: rest) =
      .ok (code, rest) := by
  have zero : hexValue? '0' = some 0 := rfl
  have high := hexValue?_hexDigit (code / 16) (by omega)
  have low := hexValue?_hexDigit (code % 16) (by omega)
  have quad : hexQuad? '0' '0' (hexDigit (code / 16)) (hexDigit (code % 16)) = some code := by
    simp only [hexQuad?, zero, high, low, Option.bind_eq_bind, Option.bind_some, Option.pure_def,
      Option.some.injEq]
    omega
  rw [readHexQuad, quad]

theorem readCodePoint_control {c : Char} (control : c.toNat < 0x20) (rest : List Char) :
    readCodePoint ('0' :: '0' :: hexDigit (c.toNat / 16) :: hexDigit (c.toNat % 16) :: rest) =
      .ok (c, rest) := by
  have trailing : ¬(0xDC00 ≤ c.toNat ∧ c.toNat ≤ 0xDFFF) := by omega
  have leading : ¬(0xD800 ≤ c.toNat ∧ c.toNat ≤ 0xDBFF) := by omega
  rw [readCodePoint, readHexQuad_control control]
  change (if 0xDC00 ≤ c.toNat ∧ c.toNat ≤ 0xDFFF then _ else _) = _
  rw [if_neg trailing, if_neg leading, Char.ofNat_toNat]

theorem readEscape_letter {letter c : Char} (other : letter ≠ 'u')
    (found : unescape? letter = some c) (rest : List Char) :
    readEscape (letter :: rest) = .ok (c, rest) := by
  unfold readEscape
  split
  · contradiction
  · rename_i same
    exact absurd (List.cons.inj same).1 other
  · rename_i same
    obtain ⟨rfl, rfl⟩ := List.cons.inj same
    rw [found]

variable {c : Char} {text written after rest : List Char} {fuel : Nat}

/-- A character in any of its forms is read with one unit of fuel. -/
theorem Escaped.read (escaped : Escaped c written)
    (behind : readQuoted fuel after = .ok (text, rest)) :
    readQuoted (fuel + 1) (written ++ after) = .ok (c :: text, rest) := by
  cases escaped with
  | plain noQuote noBackslash visible =>
      have shown : ¬c.toNat < 0x20 := Nat.not_lt.mpr visible
      rw [List.singleton_append, readQuoted]
      · rw [if_neg shown, behind]
        rfl
      · exact noQuote
      · exact noBackslash
  | lettered other found =>
      rw [List.cons_append, List.singleton_append, readQuoted, readEscape_letter other found]
      change (readQuoted fuel after >>= _) = _
      rw [behind]
      rfl
  | coded control =>
      have read : readEscape ('u' :: '0' :: '0' :: hexDigit (c.toNat / 16) ::
          hexDigit (c.toNat % 16) :: after) = .ok (c, after) :=
        readCodePoint_control control after
      simp only [List.cons_append, List.nil_append]
      rw [readQuoted, read]
      change (readQuoted fuel after >>= _) = _
      rw [behind]
      rfl

/-! ## Whole texts -/

theorem readQuoted_escaped (text : List Char) (enough : text.length < fuel) (rest : List Char) :
    readQuoted fuel (text.flatMap escapeChar ++ '"' :: rest) = .ok (text, rest) := by
  induction text generalizing fuel with
  | nil =>
      cases fuel with
      | zero => contradiction
      | succ fuel => rfl
  | cons c text inductionHypothesis =>
      cases fuel with
      | zero => contradiction
      | succ fuel =>
          have behind := inductionHypothesis (Nat.lt_of_succ_lt_succ enough)
          rw [List.flatMap_cons, List.append_assoc]
          exact (escaped_escapeChar c).read behind

theorem Escaped.length_pos (escaped : Escaped c written) : 0 < written.length := by
  cases escaped <;> exact Nat.succ_pos _

/-- No character gets lost between quotes. -/
theorem length_le_flatMap_escapeChar (text : List Char) :
    text.length ≤ (text.flatMap escapeChar).length := by
  induction text with
  | nil => exact Nat.le_refl 0
  | cons c text inductionHypothesis =>
      have one := (escaped_escapeChar c).length_pos
      rw [List.flatMap_cons, List.length_append, List.length_cons]
      omega

/-- A quoted text is read back behind its opening quote. -/
theorem readString_quoted (text : String) (rest : List Char) :
    readString (text.toList.flatMap escapeChar ++ '"' :: rest) = .ok (text, rest) := by
  have length := length_le_flatMap_escapeChar text.toList
  have enough : text.toList.length <
      (text.toList.flatMap escapeChar ++ '"' :: rest).length + 1 := by
    rw [List.length_append]
    omega
  rw [readString, readQuoted_escaped text.toList enough]
  change Except.ok (String.ofList text.toList, rest) = _
  rw [String.ofList_toList]

end MessageRouting.Json
