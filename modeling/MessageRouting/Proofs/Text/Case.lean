import MessageRouting.Text.Case

/-!
# Lower case is final

Nothing that lower-casing writes is changed by lower-casing again: no run of the table
leads into a run, and no capital sigma is left, whose form would depend on its neighbours.
-/

namespace MessageRouting.Text

/-! ## The runs of the table -/

namespace CaseRun

/-- Where the first code point of the run leads. -/
def low (run : CaseRun) : Nat :=
  (run.first + run.offset).toNat

/-- Where the last code point of the run leads. -/
def high (run : CaseRun) : Nat :=
  (run.last + run.offset).toNat

/-- The run leads to characters. -/
def isValid (run : CaseRun) : Bool :=
  0 ≤ run.first + run.offset &&
    (run.high < 0xD800 || 0xDFFF < run.low && run.high < 0x110000)

-- The comparisons are those that reduce at once on numerals: every pair of runs is evaluated.
/-- The run leads to no code point of the other: before it, behind it or between its code points. -/
def avoids (run other : CaseRun) : Bool :=
  Nat.blt run.high other.first || (Nat.blt other.last run.low ||
    (Nat.beq run.first run.last || Nat.beq (run.step % other.step) 0) &&
      !Nat.beq ((run.low - other.first) % other.step) 0)

end CaseRun

def dottedCapital : CaseRun :=
  ⟨0x130, 0x130, 1, 0⟩

theorem lowerRuns_avoid :
    (lowerRuns.all fun run => (dottedCapital :: lowerRuns).all run.avoids) = true := by
  decide +kernel

theorem lowerRuns_valid : lowerRuns.all CaseRun.isValid = true := by
  decide +kernel

namespace CaseRun

variable {run other : CaseRun} {code : Nat}

theorem covers_iff :
    run.covers code = true ↔
      run.first ≤ code ∧ code ≤ run.last ∧ (code - run.first) % run.step = 0 := by
  simp [covers, and_assoc]

theorem image_eq (isValid : run.isValid = true) (covered : run.covers code = true) :
    (code + run.offset).toNat = run.low + (code - run.first) := by
  obtain ⟨behind, -, -⟩ := covers_iff.mp covered
  have positive : 0 ≤ run.first + run.offset := by
    rw [CaseRun.isValid, Bool.and_eq_true, decide_eq_true_eq] at isValid
    exact isValid.1
  rw [low]
  omega

theorem image_le_high (covered : run.covers code = true) :
    (code + run.offset).toNat ≤ run.high := by
  obtain ⟨-, before, -⟩ := covers_iff.mp covered
  rw [high]
  omega

theorem image_isChar (isValid : run.isValid = true) (covered : run.covers code = true) :
    ((code + run.offset).toNat).isValidChar := by
  have fromLow := image_eq isValid covered
  have toHigh := image_le_high covered
  simp only [CaseRun.isValid, Bool.and_eq_true, Bool.or_eq_true, decide_eq_true_eq] at isValid
  rcases isValid.2 with below | ⟨above, bounded⟩
  · exact Or.inl (by omega)
  · exact Or.inr ⟨by omega, by omega⟩

/-- What a run leads to is not in a run that it avoids. -/
theorem not_covers_image (isValid : run.isValid = true) (avoids : run.avoids other = true)
    (covered : run.covers code = true) :
    other.covers (code + run.offset).toNat = false := by
  have fromLow := image_eq isValid covered
  have toHigh := image_le_high covered
  obtain ⟨behind, before, aligned⟩ := covers_iff.mp covered
  rw [← Bool.not_eq_true, covers_iff]
  rintro ⟨otherBehind, otherBefore, otherAligned⟩
  simp only [CaseRun.avoids, Bool.or_eq_true, Bool.and_eq_true, Bool.not_eq_true', Nat.blt_eq,
    Nat.beq_eq, ← Bool.not_eq_true] at avoids
  rcases avoids with ends | starts | ⟨inStep, between⟩
  · omega
  · omega
  have reached : other.first ≤ run.low := by
    apply Nat.le_of_not_lt
    intro early
    rw [Nat.sub_eq_zero_of_le (by omega)] at between
    exact between (Nat.zero_mod _)
  have advance : other.step ∣ code - run.first := by
    rcases inStep with single | multiple
    · have unmoved : code - run.first = 0 := by omega
      rw [unmoved]
      exact Nat.dvd_zero _
    · exact Nat.dvd_trans (Nat.dvd_of_mod_eq_zero multiple) (Nat.dvd_of_mod_eq_zero aligned)
  have shifted : (code + run.offset).toNat - other.first =
      run.low - other.first + (code - run.first) := by omega
  rw [shifted] at otherAligned
  apply between
  apply Nat.mod_eq_zero_of_dvd
  exact (Nat.dvd_add_left advance).mp (Nat.dvd_of_mod_eq_zero otherAligned)

end CaseRun

/-! ## Characters -/

/-- Lower-casing keeps the character, wherever it stands. -/
def IsLower (c : Char) : Prop :=
  c ≠ 'Σ' ∧ lowerChar c = [c]

instance (c : Char) : Decidable (IsLower c) :=
  inferInstanceAs (Decidable (_ ∧ _))

theorem isLower_of_uncovered {c : Char}
    (uncovered : ∀ run ∈ dottedCapital :: lowerRuns, run.covers c.toNat = false) : IsLower c := by
  have undotted : c.toNat ≠ 0x130 := by
    intro dotted
    have free := uncovered dottedCapital List.mem_cons_self
    rw [dotted] at free
    exact absurd free (by decide)
  have outside : lowerRuns.find? (fun run => run.covers c.toNat) = none := by
    apply List.find?_eq_none.mpr
    intro run listed
    rw [uncovered run (List.mem_cons_of_mem _ listed)]
    exact Bool.false_ne_true
  constructor
  · intro isSigma
    subst isSigma
    have inside : (lowerRuns.find? fun run => run.covers 'Σ'.toNat).isSome = true := by decide
    rw [outside] at inside
    cases inside
  · rw [lowerChar, if_neg undotted, mapByRuns, outside]

theorem isLower_image {c : Char} {run : CaseRun} (held : run ∈ lowerRuns)
    (covered : run.covers c.toNat = true) : IsLower (Char.ofNat (c.toNat + run.offset).toNat) := by
  have isValid : run.isValid = true := List.all_eq_true.mp lowerRuns_valid run held
  have code : (Char.ofNat (c.toNat + run.offset).toNat).toNat = (c.toNat + run.offset).toNat := by
    rw [Char.ofNat, dif_pos (CaseRun.image_isChar isValid covered)]
    rfl
  apply isLower_of_uncovered
  intro other listed
  have avoided := List.all_eq_true.mp lowerRuns_avoid run held
  rw [code]
  exact CaseRun.not_covers_image isValid (List.all_eq_true.mp avoided other listed) covered

theorem isLower_of_mem_lowerChar {c d : Char} (notSigma : c ≠ 'Σ') (listed : d ∈ lowerChar c) :
    IsLower d := by
  by_cases dotted : c.toNat = 0x130
  · rw [lowerChar, if_pos dotted, List.mem_cons, List.mem_singleton] at listed
    rcases listed with rfl | rfl
    · decide
    · decide
  rw [lowerChar, if_neg dotted, List.mem_singleton] at listed
  rw [listed]
  cases covering : lowerRuns.find? fun run => run.covers c.toNat with
  | none =>
      have same : mapByRuns lowerRuns c = c := by rw [mapByRuns, covering]
      rw [same]
      exact ⟨notSigma, by rw [lowerChar, if_neg dotted, same]⟩
  | some run =>
      have image : mapByRuns lowerRuns c = Char.ofNat (c.toNat + run.offset).toNat := by
        rw [mapByRuns, covering]
      have covered := List.find?_some covering
      rw [image]
      exact isLower_image (List.mem_of_find?_eq_some covering) covered

theorem isLower_lowerSigma (before after : List Char) : IsLower (lowerSigma before after) := by
  rw [lowerSigma]
  split
  · decide
  · decide

/-! ## Texts -/

theorem isLower_of_mem_lowerFrom {before text : List Char} {c : Char}
    (listed : c ∈ lowerFrom before text) : IsLower c := by
  induction text generalizing before with
  | nil => cases listed
  | cons d rest inductionHypothesis =>
      rw [lowerFrom, List.mem_append] at listed
      rcases listed with here | later
      · split at here
        · rw [List.mem_singleton] at here
          rw [here]
          exact isLower_lowerSigma before rest
        · rename_i notSigma
          exact isLower_of_mem_lowerChar notSigma here
      · exact inductionHypothesis later

theorem lowerFrom_of_isLower {before text : List Char} (settled : ∀ c ∈ text, IsLower c) :
    lowerFrom before text = text := by
  induction text generalizing before with
  | nil => rfl
  | cons c rest inductionHypothesis =>
      obtain ⟨notSigma, unchanged⟩ := settled c List.mem_cons_self
      have later : lowerFrom (c :: before) rest = rest :=
        inductionHypothesis fun d listed => settled d (List.mem_cons_of_mem c listed)
      rw [lowerFrom, if_neg notSigma, unchanged, later, List.singleton_append]

/-- Lower-casing twice is lower-casing once. -/
@[simp]
theorem lower_lower (text : String) : lower (lower text) = lower text := by
  have settled : ∀ c ∈ lowerFrom [] text.toList, IsLower c := fun _ => isLower_of_mem_lowerFrom
  rw [lower, lower, String.toList_ofList, lowerFrom_of_isLower settled]

example : lower "ΟΔΟΣ Ⅻ" = "οδος ⅻ" := by decide +kernel

end MessageRouting.Text
