import Mathlib.Data.List.DropRight
import MessageRouting.Number.Reading
import MessageRouting.Proofs.Text.Numeral
import MessageRouting.Text.Blank

/-!
# Numerals between blanks

Which texts are read as which numbers: a run of decimal digits with leading zeros, an
optional sign before it, and blanks around both. A number beyond the bounds of the reader is
refused.
-/

namespace MessageRouting.Text

variable {chars core before behind digits : List Char} {bound n : Nat}

/-! ## Blanks -/

def Surrounds (core chars : List Char) : Prop :=
  ∃ before behind, (∀ c ∈ before, isBlank c = true) ∧ (∀ c ∈ behind, isBlank c = true) ∧
    chars = before ++ (core ++ behind)

theorem surrounds_self (chars : List Char) : Surrounds chars chars :=
  ⟨[], [], by simp, by simp, by simp⟩

theorem trimChars_eq (chars : List Char) :
    trimChars chars = (chars.dropWhile isBlank).rdropWhile isBlank :=
  rfl

theorem rdropWhile_append_blank (chars : List Char) (blank : ∀ c ∈ behind, isBlank c = true) :
    (chars ++ behind).rdropWhile isBlank = chars.rdropWhile isBlank := by
  have all : ∀ c ∈ behind.reverse, isBlank c = true := fun c listed =>
    blank c (List.mem_reverse.mp listed)
  rw [List.rdropWhile, List.reverse_append, List.dropWhile_append_of_pos all, List.rdropWhile]

theorem trimChars_prepend_blank (chars : List Char) (blank : ∀ c ∈ before, isBlank c = true) :
    trimChars (before ++ chars) = trimChars chars := by
  rw [trimChars_eq, List.dropWhile_append_of_pos blank, trimChars_eq]

theorem trimChars_append_blank (chars : List Char) (blank : ∀ c ∈ behind, isBlank c = true) :
    trimChars (chars ++ behind) = trimChars chars := by
  rw [trimChars_eq, trimChars_eq, List.dropWhile_append]
  split
  · rename_i empty
    rw [List.isEmpty_iff.mp empty, List.dropWhile_eq_nil_iff.mpr blank]
  · exact rdropWhile_append_blank _ blank

/-- Trimming takes blanks away and nothing else. -/
theorem surrounds_trimChars (chars : List Char) : Surrounds (trimChars chars) chars := by
  refine ⟨chars.takeWhile isBlank, (chars.dropWhile isBlank).rtakeWhile isBlank,
    fun c listed => List.mem_takeWhile_imp listed, fun c listed => List.mem_rtakeWhile_imp listed, ?_⟩
  rw [trimChars_eq, List.rdropWhile_append_rtakeWhile, List.takeWhile_append_dropWhile]

theorem Surrounds.trimChars_congr (surrounds : Surrounds core chars) :
    trimChars chars = trimChars core := by
  obtain ⟨before, behind, blankBefore, blankBehind, rfl⟩ := surrounds
  rw [trimChars_prepend_blank _ blankBefore, trimChars_append_blank _ blankBehind]

/-- A text that neither begins nor ends with a blank is left as it is. -/
theorem trimChars_eq_self (first : ∀ nonempty : core ≠ [], isBlank (core.head nonempty) = false)
    (last : ∀ nonempty : core ≠ [], isBlank (core.getLast nonempty) = false) :
    trimChars core = core := by
  have start : core.dropWhile isBlank = core := by
    apply List.dropWhile_eq_self_iff.mpr
    intro nonempty
    rw [← List.head_eq_getElem (List.ne_nil_of_length_pos nonempty), first]
    exact Bool.false_ne_true
  rw [trimChars_eq, start]
  apply List.rdropWhile_eq_self_iff.mpr
  intro nonempty
  rw [last]
  exact Bool.false_ne_true

/-- A text without blanks is what trimming leaves of it with blanks around it. -/
theorem Surrounds.trimChars_eq (surrounds : Surrounds core chars)
    (visible : ∀ c ∈ core, isBlank c = false) : trimChars chars = core := by
  rw [surrounds.trimChars_congr]
  exact trimChars_eq_self (fun nonempty => visible _ (List.head_mem nonempty))
    fun nonempty => visible _ (List.getLast_mem nonempty)

/-- A text between two numerals, or other texts without blanks, is left as it is. -/
theorem trimChars_between {first last : List Char} (between : List Char) (firstNonempty : first ≠ [])
    (firstVisible : ∀ c ∈ first, isBlank c = false) (lastNonempty : last ≠ [])
    (lastVisible : ∀ c ∈ last, isBlank c = false) :
    trimChars (first ++ (between ++ last)) = first ++ (between ++ last) := by
  apply trimChars_eq_self
  · intro nonempty
    rw [List.head_append_of_ne_nil firstNonempty]
    exact firstVisible _ (List.head_mem firstNonempty)
  · intro nonempty
    have ending : between ++ last ≠ [] := List.append_ne_nil_of_right_ne_nil between lastNonempty
    rw [List.getLast_append_of_ne_nil _ ending, List.getLast_append_of_ne_nil _ lastNonempty]
    exact lastVisible _ (List.getLast_mem lastNonempty)

theorem Surrounds.prepend (surrounds : Surrounds core chars)
    (blank : ∀ c ∈ before, isBlank c = true) : Surrounds core (before ++ chars) := by
  obtain ⟨first, last, blankFirst, blankLast, rfl⟩ := surrounds
  refine ⟨before ++ first, last, ?_, blankLast, (List.append_assoc _ _ _).symm⟩
  intro c listed
  rcases List.mem_append.mp listed with outer | inner
  · exact blank c outer
  · exact blankFirst c inner

theorem Surrounds.append (surrounds : Surrounds core chars)
    (blank : ∀ c ∈ behind, isBlank c = true) : Surrounds core (chars ++ behind) := by
  obtain ⟨first, last, blankFirst, blankLast, rfl⟩ := surrounds
  refine ⟨first, last ++ behind, blankFirst, ?_, by simp only [List.append_assoc]⟩
  intro c listed
  rcases List.mem_append.mp listed with inner | outer
  · exact blankLast c inner
  · exact blank c outer

/-! ## Digits -/

/-- A run of decimal digits, leading zeros among them, stands for the number. -/
def SpellsDigits (digits : List Char) (n : Nat) : Prop :=
  digits ≠ [] ∧ (∀ c ∈ digits, '0' ≤ c ∧ c ≤ '9') ∧ digitsValue digits = n

theorem extendNumeral_eq_some_iff {value : Nat} :
    extendNumeral value digits = some n ↔
      (∀ c ∈ digits, '0' ≤ c ∧ c ≤ '9') ∧
        digits.foldl (fun value c => 10 * value + (c.toNat - '0'.toNat)) value = n := by
  induction digits generalizing value with
  | nil => simp [extendNumeral]
  | cons c rest inductionHypothesis =>
      have step : extendNumeral value (c :: rest) =
          (digitValue? c).bind fun digit => extendNumeral (10 * value + digit) rest := rfl
      rw [step, Option.bind_eq_some_iff, List.forall_mem_cons, List.foldl_cons]
      constructor
      · rintro ⟨digit, found, later⟩
        obtain ⟨isDigit, rfl⟩ := digitValue?_eq_some.mp found
        obtain ⟨others, total⟩ := inductionHypothesis.mp later
        exact ⟨⟨isDigit, others⟩, total⟩
      · rintro ⟨⟨isDigit, others⟩, total⟩
        exact ⟨_, digitValue?_eq_some.mpr ⟨isDigit, rfl⟩, inductionHypothesis.mpr ⟨others, total⟩⟩

theorem readDigits_eq_some_iff : readDigits digits = some n ↔ SpellsDigits digits n := by
  cases digits with
  | nil => simp [readDigits, SpellsDigits]
  | cons c rest =>
      rw [readDigits, extendNumeral_eq_some_iff, SpellsDigits, digitsValue]
      · exact (and_iff_right (List.cons_ne_nil c rest)).symm
      · exact fun empty => List.cons_ne_nil c rest empty

theorem spellsDigits_decimalDigits (n : Nat) : SpellsDigits (decimalDigits n) n := by
  obtain ⟨first, rest, written, _⟩ := exists_decimalDigits n
  have read := extendNumeral_eq_some_iff.mp (extendNumeral_decimalDigits n)
  refine ⟨?_, read⟩
  rw [written]
  exact List.cons_ne_nil first rest

/-- A digit is no blank and no sign. -/
theorem visible_of_digit {c : Char} (isDigit : '0' ≤ c ∧ c ≤ '9') :
    isBlank c = false ∧ c ≠ '+' ∧ c ≠ '-' := by
  have above : 48 ≤ c.toNat := isDigit.1
  have below : c.toNat ≤ 57 := isDigit.2
  refine ⟨?_, ?_, ?_⟩
  · apply List.any_eq_false.mpr
    intro range listed held
    rw [Bool.and_eq_true, decide_eq_true_eq, decide_eq_true_eq] at held
    have apart : ∀ range ∈ blankRanges, range.2 < 48 ∨ 57 < range.1 := by decide
    have := apart range listed
    omega
  · rintro rfl
    exact absurd above (by decide)
  · rintro rfl
    exact absurd above (by decide)

theorem SpellsDigits.exists_cons (spells : SpellsDigits digits n) :
    ∃ first rest, digits = first :: rest ∧ '0' ≤ first ∧ first ≤ '9' := by
  obtain ⟨nonempty, isDigit, _⟩ := spells
  obtain ⟨first, rest, rfl⟩ := List.exists_cons_of_ne_nil nonempty
  exact ⟨first, rest, rfl, isDigit first List.mem_cons_self⟩

/-! ## Numerals -/

/-- Digits with an optional plus sign stand for the number. -/
def SpellsNat (chars : List Char) (n : Nat) : Prop :=
  ∃ digits, SpellsDigits digits n ∧ (chars = digits ∨ chars = '+' :: digits)

/-- Digits with an optional sign stand for the integer. -/
inductive SpellsInt : List Char → Int → Prop
  | nonneg {numeral : List Char} {value : Nat} :
      SpellsNat numeral value → SpellsInt numeral value
  | neg {numeral : List Char} {value : Nat} :
      SpellsDigits numeral value → SpellsInt ('-' :: numeral) (-value)

theorem readDigits_dropPlus_eq_some_iff :
    readDigits (dropPlus chars) = some n ↔ SpellsNat chars n := by
  rw [readDigits_eq_some_iff]
  constructor
  · intro spells
    refine ⟨dropPlus chars, spells, ?_⟩
    unfold dropPlus
    split
    · exact Or.inr rfl
    · exact Or.inl rfl
  · rintro ⟨digits, spells, rfl | rfl⟩
    · obtain ⟨first, rest, rfl, isDigit⟩ := spells.exists_cons
      unfold dropPlus
      split
      · rename_i same
        exact absurd (List.cons.inj same).1 (visible_of_digit isDigit).2.1
      · exact spells
    · exact spells

theorem readUnsigned_eq_some_iff :
    readUnsigned bound chars = some n ↔ SpellsNat chars n ∧ n ≤ bound := by
  rw [readUnsigned, ← readDigits_dropPlus_eq_some_iff]
  cases readDigits (dropPlus chars) with
  | none => simp
  | some value =>
      rw [Option.bind_eq_bind, Option.bind_some, Option.ite_none_right_eq_some, Option.some.injEq]
      constructor
      · rintro ⟨fits, rfl⟩
        exact ⟨rfl, fits⟩
      · rintro ⟨rfl, fits⟩
        exact ⟨fits, rfl⟩

theorem not_spellsNat_minus (rest : List Char) : ¬SpellsNat ('-' :: rest) n := by
  rintro ⟨digits, spells, rfl | signed⟩
  · obtain ⟨first, others, same, isDigit⟩ := spells.exists_cons
    obtain ⟨rfl, _⟩ := List.cons.inj same
    exact absurd isDigit (by decide)
  · exact absurd (List.cons.inj signed).1 (by decide)

theorem spellsInt_minus_iff {rest : List Char} {i : Int} :
    SpellsInt ('-' :: rest) i ↔ ∃ n, SpellsDigits rest n ∧ -(n : Int) = i := by
  constructor
  · intro spells
    cases spells with
    | nonneg unsigned => exact absurd unsigned (not_spellsNat_minus rest)
    | neg digits => exact ⟨_, digits, rfl⟩
  · rintro ⟨n, digits, rfl⟩
    exact .neg digits

theorem spellsInt_iff_of_no_minus {i : Int} (unsigned : ∀ rest, chars ≠ '-' :: rest) :
    SpellsInt chars i ↔ ∃ n, SpellsNat chars n ∧ (n : Int) = i := by
  constructor
  · intro spells
    cases spells with
    | nonneg numeral => exact ⟨_, numeral, rfl⟩
    | neg digits => exact absurd rfl (unsigned _)
  · rintro ⟨n, numeral, rfl⟩
    exact .nonneg numeral

theorem readSigned_eq_some_iff {low high i : Int} :
    readSigned low high chars = some i ↔ SpellsInt chars i ∧ low ≤ i ∧ i ≤ high := by
  have bounded (value? : Option Int) :
      (value?.bind fun value => if low ≤ value ∧ value ≤ high then some value else none) = some i ↔
        value? = some i ∧ low ≤ i ∧ i ≤ high := by
    rw [Option.bind_eq_some_iff]
    constructor
    · rintro ⟨value, read, kept⟩
      obtain ⟨fits, same⟩ := Option.ite_none_right_eq_some.mp kept
      obtain rfl := Option.some.inj same
      exact ⟨read, fits⟩
    · rintro ⟨read, fits⟩
      exact ⟨i, read, if_pos fits⟩
  unfold readSigned
  dsimp only
  split
  · refine (bounded _).trans (and_congr_left' ?_)
    rw [spellsInt_minus_iff, Option.map_eq_some_iff]
    simp only [Option.bind_eq_bind, Option.bind_eq_some_iff, readDigits_eq_some_iff]
    constructor
    · rintro ⟨_, ⟨value, digits, same⟩, negated⟩
      obtain rfl := Option.some.inj same
      exact ⟨value, digits, negated⟩
    · rintro ⟨value, digits, negated⟩
      exact ⟨value, ⟨value, digits, rfl⟩, negated⟩
  · rename_i unsigned
    refine (bounded _).trans (and_congr_left' ?_)
    rw [spellsInt_iff_of_no_minus unsigned, Option.map_eq_some_iff]
    simp only [readDigits_dropPlus_eq_some_iff]
    rfl

theorem SpellsNat.ne_nil (spells : SpellsNat chars n) : chars ≠ [] := by
  obtain ⟨digits, ⟨nonempty, _⟩, rfl | rfl⟩ := spells
  · exact nonempty
  · exact List.cons_ne_nil _ _

theorem SpellsNat.visible (spells : SpellsNat chars n) : ∀ c ∈ chars, isBlank c = false := by
  obtain ⟨digits, ⟨_, isDigit, _⟩, rfl | rfl⟩ := spells
  · exact fun c listed => (visible_of_digit (isDigit c listed)).1
  · intro c listed
    rcases List.mem_cons.mp listed with rfl | later
    · decide
    · exact (visible_of_digit (isDigit c later)).1

theorem SpellsInt.visible {i : Int} (spells : SpellsInt chars i) : ∀ c ∈ chars, isBlank c = false := by
  cases spells with
  | nonneg spells => exact spells.visible
  | neg spells =>
      intro c listed
      rcases List.mem_cons.mp listed with rfl | later
      · decide
      · exact (visible_of_digit (spells.2.1 c later)).1

/-! ## Numerals between blanks -/

/-- What is left of a text after trimming has a property of texts without blanks exactly if a text
with the property stands between blanks. -/
theorem trimChars_iff_exists {P : List Char → Prop}
    (visible : ∀ core, P core → ∀ c ∈ core, isBlank c = false) :
    P (trimChars chars) ↔ ∃ core, P core ∧ Surrounds core chars := by
  constructor
  · exact fun trimmed => ⟨_, trimmed, surrounds_trimChars chars⟩
  · rintro ⟨core, holds, surrounds⟩
    rw [surrounds.trimChars_eq (visible core holds)]
    exact holds

/-- Trimmed texts are read as the numbers that numerals between blanks stand for. -/
theorem readUnsigned_trimChars :
    readUnsigned bound (trimChars chars) = some n ↔
      ∃ numeral, SpellsNat numeral n ∧ n ≤ bound ∧ Surrounds numeral chars := by
  have numeral : (SpellsNat (trimChars chars) n ∧ n ≤ bound) ↔ _ := trimChars_iff_exists
    (P := fun numeral => SpellsNat numeral n ∧ n ≤ bound) fun _ read => read.1.visible
  simp only [readUnsigned_eq_some_iff, numeral, and_assoc]

theorem readSigned_trimChars {low high i : Int} :
    readSigned low high (trimChars chars) = some i ↔
      ∃ numeral, SpellsInt numeral i ∧ (low ≤ i ∧ i ≤ high) ∧ Surrounds numeral chars := by
  have numeral : (SpellsInt (trimChars chars) i ∧ low ≤ i ∧ i ≤ high) ↔ _ := trimChars_iff_exists
    (P := fun numeral => SpellsInt numeral i ∧ low ≤ i ∧ i ≤ high) fun _ read => read.1.visible
  simp only [readSigned_eq_some_iff, numeral, and_assoc]

end MessageRouting.Text
