import Mathlib.Data.List.Chain
import MessageRouting.Proofs.Text.Case

/-!
# Texts that differ in case only

Two texts have the same letters if their characters, place by place, have one lower-case
form by themselves. Their lower-case forms are equal but for the places where the form
within the text is another one: a dotted capital I and a capital sigma that ends a word.
-/

namespace MessageRouting.Text

def lowerAlone (c : Char) : Char :=
  if c.toNat = 0x130 then 'i' else mapByRuns lowerRuns c

/-- The place in a text where a character has another lower-case form than by itself: a dotted
capital I, which becomes two characters, or a capital sigma that ends a word. The text stands
behind the characters in `before`, nearest first. -/
def Deviates (before text : List Char) (place : Nat) : Prop :=
  text[place]? = some '\u0130' ∨
    text[place]? = some 'Σ' ∧ meetsCased ((text.take place).reverse ++ before) = true ∧
      meetsCased (text.drop (place + 1)) = false

/-! ## Letters with case -/

/-- The first of the ascending ranges that does not end before `low` begins at most at `high`. -/
def meets (ranges : List (Nat × Nat)) (low high : Nat) : Bool :=
  match ranges.find? fun range => Nat.ble low range.2 with
  | some range => Nat.ble range.1 high
  | none => false

/-- The ranges of letters with case of which none is skipped in the search for such a letter. -/
def plainRanges : List (Nat × Nat) :=
  casedRanges.filter fun range => !meets caseIgnorableRanges range.1 range.2

/-- A letter with case that is found in the search for one. -/
def HasCase (code : Nat) : Prop :=
  inRanges plainRanges code = true

theorem caseIgnorableRanges_ascend : caseIgnorableRanges.Pairwise fun one other => one.1 ≤ other.1 := by
  have steps : caseIgnorableRanges.IsChain fun one other => one.1 ≤ other.1 := by
    decide +kernel
  have : IsTrans (Nat × Nat) fun one other => one.1 ≤ other.1 := ⟨fun _ _ _ => Nat.le_trans⟩
  exact List.isChain_iff_pairwise.mp steps

theorem not_inRanges_of_not_meets {ranges : List (Nat × Nat)} {low high code : Nat}
    (ascend : ranges.Pairwise fun one other => one.1 ≤ other.1)
    (free : meets ranges low high = false) (above : low ≤ code) (below : code ≤ high) :
    inRanges ranges code = false := by
  apply List.any_eq_false.mpr
  intro range listed held
  rw [Bool.and_eq_true, decide_eq_true_eq, decide_eq_true_eq] at held
  have late : Nat.ble low range.2 = true := Nat.ble_eq.mpr (Nat.le_trans above held.2)
  rw [meets] at free
  split at free
  · rename_i first found
    obtain ⟨_, earlier, later, split, ended⟩ := List.find?_eq_some_iff_append.mp found
    rw [split, List.pairwise_append, List.pairwise_cons] at ascend
    have begins : first.1 ≤ range.1 := by
      rw [split, List.mem_append, List.mem_cons] at listed
      rcases listed with before | rfl | behind
      · have missed := ended range before
        rw [late] at missed
        cases missed
      · exact Nat.le_refl _
      · exact ascend.2.1.1 range behind
    have starts : Nat.ble first.1 high = true :=
      Nat.ble_eq.mpr (Nat.le_trans begins (Nat.le_trans held.1 below))
    rw [starts] at free
    cases free
  · rename_i absent
    exact List.find?_eq_none.mp absent range listed late

theorem HasCase.not_ignorable {code : Nat} (cased : HasCase code) :
    inRanges caseIgnorableRanges code = false := by
  obtain ⟨range, listed, held⟩ := List.any_eq_true.mp cased
  rw [Bool.and_eq_true, decide_eq_true_eq, decide_eq_true_eq] at held
  have free := (List.mem_filter.mp listed).2
  rw [Bool.not_eq_true'] at free
  exact not_inRanges_of_not_meets caseIgnorableRanges_ascend free held.1 held.2

theorem HasCase.cased {code : Nat} (cased : HasCase code) : inRanges casedRanges code = true := by
  obtain ⟨range, listed, held⟩ := List.any_eq_true.mp cased
  exact List.any_eq_true.mpr ⟨range, (List.mem_filter.mp listed).1, held⟩

/-! ## What lower-casing does to them -/

def spans (ranges : List (Nat × Nat)) (low high : Nat) : Bool :=
  ranges.any fun range => Nat.ble range.1 low && Nat.ble high range.2

theorem inRanges_of_spans {ranges : List (Nat × Nat)} {low high code : Nat}
    (spans : spans ranges low high = true) (above : low ≤ code) (below : code ≤ high) :
    inRanges ranges code = true := by
  obtain ⟨range, listed, held⟩ := List.any_eq_true.mp spans
  rw [Bool.and_eq_true, Nat.ble_eq, Nat.ble_eq] at held
  apply List.any_eq_true.mpr
  refine ⟨range, listed, ?_⟩
  rw [Bool.and_eq_true, decide_eq_true_eq, decide_eq_true_eq]
  exact ⟨Nat.le_trans held.1 above, Nat.le_trans below held.2⟩

namespace CaseRun

variable {run : CaseRun} {code : Nat}

def codes (run : CaseRun) : List Nat :=
  List.range' run.first ((run.last - run.first) / run.step + 1) run.step

def isCased (run : CaseRun) : Bool :=
  (spans plainRanges run.first run.last || run.codes.all (inRanges plainRanges)) &&
    spans plainRanges run.low run.high

theorem mem_codes (covered : run.covers code = true) : code ∈ run.codes := by
  obtain ⟨behind, before, aligned⟩ := covers_iff.mp covered
  have place : code = run.first + run.step * ((code - run.first) / run.step) := by
    rw [Nat.mul_div_cancel' (Nat.dvd_of_mod_eq_zero aligned)]
    omega
  have early : (code - run.first) / run.step < (run.last - run.first) / run.step + 1 :=
    Nat.lt_succ_of_le (Nat.div_le_div_right (by omega))
  exact List.mem_range'.mpr ⟨_, early, place⟩

/-- A code point of such a run and the one that it is mapped to are letters with case. -/
theorem hasCase (isCased : run.isCased = true) (isValid : run.isValid = true)
    (covered : run.covers code = true) :
    HasCase code ∧ HasCase (code + run.offset).toNat := by
  obtain ⟨behind, before, _⟩ := covers_iff.mp covered
  have fromLow : run.low ≤ (code + run.offset).toNat := by
    rw [image_eq isValid covered]
    exact Nat.le_add_right _ _
  have toHigh := image_le_high covered
  rw [CaseRun.isCased, Bool.and_eq_true, Bool.or_eq_true] at isCased
  refine ⟨?_, inRanges_of_spans isCased.2 fromLow toHigh⟩
  rcases isCased.1 with spanned | listed
  · exact inRanges_of_spans spanned behind before
  · exact List.all_eq_true.mp listed code (mem_codes covered)

end CaseRun

theorem lowerRuns_cased : lowerRuns.all CaseRun.isCased = true := by
  decide +kernel

/-- A character that is not lower case by itself has case, and so has its lower-case form. -/
theorem hasCase_of_lowerAlone_ne {c : Char} (moved : lowerAlone c ≠ c) :
    HasCase c.toNat ∧ HasCase (lowerAlone c).toNat := by
  by_cases dotted : c.toNat = 0x130
  · rw [lowerAlone, if_pos dotted, dotted]
    unfold HasCase
    decide +kernel
  rw [lowerAlone, if_neg dotted] at moved ⊢
  cases covering : lowerRuns.find? fun run => run.covers c.toNat with
  | none =>
      rw [mapByRuns, covering] at moved
      exact absurd rfl moved
  | some run =>
      have held := List.mem_of_find?_eq_some covering
      have covered := List.find?_some covering
      have isValid : run.isValid = true := List.all_eq_true.mp lowerRuns_valid run held
      have isCased : run.isCased = true := List.all_eq_true.mp lowerRuns_cased run held
      have image : (mapByRuns lowerRuns c).toNat = (c.toNat + run.offset).toNat := by
        simp only [mapByRuns, covering]
        rw [Char.ofNat, dif_pos (CaseRun.image_isChar isValid covered)]
        rfl
      rw [image]
      exact CaseRun.hasCase isCased isValid covered

/-- A character has case if another one has the same lower-case form. -/
theorem hasCase_of_lowerAlone_eq {c d : Char} (same : lowerAlone c = lowerAlone d)
    (different : c ≠ d) : HasCase c.toNat := by
  by_cases lower : lowerAlone c = c
  · have moved : lowerAlone d ≠ d := by
      rw [← same, lower]
      exact different
    have image := (hasCase_of_lowerAlone_ne moved).2
    rw [← same, lower] at image
    exact image
  · exact (hasCase_of_lowerAlone_ne lower).1

theorem meetsCased_of_hasCase {c : Char} (cased : HasCase c.toNat) (rest : List Char) :
    meetsCased (c :: rest) = true := by
  rw [meetsCased, cased.not_ignorable, cased.cased]
  rfl

/-- Whether a letter with case comes first is a matter of the letters alone. -/
theorem meetsCased_congr {first second : List Char}
    (same : first.map lowerAlone = second.map lowerAlone) :
    meetsCased first = meetsCased second := by
  induction first generalizing second with
  | nil => rw [List.map_eq_nil_iff.mp same.symm]
  | cons c rest inductionHypothesis =>
      cases second with
      | nil => cases same
      | cons d others =>
          obtain ⟨sameHere, sameLater⟩ := List.cons.inj same
          by_cases equal : c = d
          · rw [equal, meetsCased, meetsCased, inductionHypothesis sameLater]
          · have cased := hasCase_of_lowerAlone_eq sameHere equal
            have otherCased := hasCase_of_lowerAlone_eq sameHere.symm (Ne.symm equal)
            rw [meetsCased_of_hasCase cased, meetsCased_of_hasCase otherCased]

/-! ## Forms within a text -/

/-- What lower-casing writes for a character between those before it, nearest first, and those
after it. -/
def lowerWithin (before : List Char) (c : Char) (after : List Char) : List Char :=
  if c = 'Σ' then [lowerSigma before after] else lowerChar c

theorem lowerFrom_cons (before : List Char) (c : Char) (rest : List Char) :
    lowerFrom before (c :: rest) = lowerWithin before c rest ++ lowerFrom (c :: before) rest :=
  rfl

theorem lowerAlone_sigma : lowerAlone 'Σ' = 'σ' := by
  decide +kernel

section Places

variable {before otherBefore text otherText : List Char} {c d : Char}

theorem deviates_zero :
    Deviates before (c :: text) 0 ↔
      c = '\u0130' ∨ c = 'Σ' ∧ meetsCased before = true ∧ meetsCased text = false := by
  simp [Deviates]

theorem deviates_succ (place : Nat) :
    Deviates before (c :: text) (place + 1) ↔ Deviates (c :: before) text place := by
  simp [Deviates]

/-- A character that does not deviate is written as it is by itself. -/
theorem lowerWithin_of_not_deviates (plain : ¬Deviates before (c :: text) 0) :
    lowerWithin before c text = [lowerAlone c] := by
  rw [deviates_zero, not_or] at plain
  obtain ⟨undotted, inner⟩ := plain
  rw [lowerWithin]
  split
  · rename_i isSigma
    subst isSigma
    have within : ¬(meetsCased before && !meetsCased text) = true := by
      rw [Bool.and_eq_true, Bool.not_eq_true']
      exact fun ends => inner ⟨rfl, ends⟩
    rw [lowerSigma, if_neg within, lowerAlone_sigma]
  · have plainCode : c.toNat ≠ 0x130 := fun dotted => undotted (Char.toNat_inj.mp dotted)
    rw [lowerChar, if_neg plainCode, lowerAlone, if_neg plainCode]

theorem lowerWithin_congr (sameBefore : before.map lowerAlone = otherBefore.map lowerAlone)
    (sameText : text.map lowerAlone = otherText.map lowerAlone) :
    lowerWithin before c text = lowerWithin otherBefore c otherText := by
  rw [lowerWithin, lowerWithin, lowerSigma, lowerSigma, meetsCased_congr sameBefore,
    meetsCased_congr sameText]

/-- A lower-case text is never another one of the same letters behind one more dot. -/
theorem dot_cons_lowerFrom_ne (same : text.map lowerAlone = otherText.map lowerAlone) :
    '\u0307' :: lowerFrom before text ≠ lowerFrom otherBefore otherText := by
  induction text generalizing otherText before otherBefore with
  | nil =>
      rw [List.map_eq_nil_iff.mp same.symm]
      exact List.cons_ne_nil _ _
  | cons c rest inductionHypothesis =>
      cases otherText with
      | nil => cases same
      | cons d others =>
          obtain ⟨sameHere, sameLater⟩ := List.cons.inj same
          intro equal
          rw [lowerFrom_cons otherBefore] at equal
          by_cases deviates : Deviates otherBefore (d :: others) 0
          · rcases deviates_zero.mp deviates with rfl | ⟨rfl, starts, ends⟩
            · exact absurd (List.cons.inj equal).1 (by decide)
            · rw [lowerWithin, if_pos rfl, lowerSigma, starts, ends] at equal
              exact absurd (List.cons.inj equal).1 (by decide)
          · rw [lowerWithin_of_not_deviates deviates] at equal
            obtain ⟨isDot, later⟩ := List.cons.inj equal
            have dot : lowerAlone c = '\u0307' := sameHere.trans isDot.symm
            have plain : ¬Deviates before (c :: rest) 0 := by
              intro moved
              rcases deviates_zero.mp moved with rfl | ⟨rfl, _⟩
              · exact absurd dot (by decide)
              · rw [lowerAlone_sigma] at dot
                exact absurd dot (by decide)
            rw [lowerFrom_cons, lowerWithin_of_not_deviates plain, dot] at later
            exact inductionHypothesis sameLater later

/-- A character that deviates is not written as another one of the same letter. -/
theorem lowerFrom_ne_of_deviates (deviates : Deviates before (c :: text) 0)
    (sameHere : lowerAlone c = lowerAlone d) (different : c ≠ d)
    (sameText : text.map lowerAlone = otherText.map lowerAlone) :
    lowerFrom before (c :: text) ≠ lowerFrom otherBefore (d :: otherText) := by
  have plain : ¬Deviates otherBefore (d :: otherText) 0 := by
    intro otherDeviates
    rcases deviates_zero.mp deviates with rfl | ⟨rfl, _⟩ <;>
      rcases deviates_zero.mp otherDeviates with rfl | ⟨rfl, _⟩
    · exact different rfl
    · rw [lowerAlone_sigma] at sameHere
      exact absurd sameHere (by decide)
    · rw [lowerAlone_sigma] at sameHere
      exact absurd sameHere (by decide)
    · exact different rfl
  rw [lowerFrom_cons, lowerFrom_cons, lowerWithin_of_not_deviates plain, ← sameHere]
  intro equal
  rcases deviates_zero.mp deviates with rfl | ⟨rfl, starts, ends⟩
  · exact dot_cons_lowerFrom_ne sameText (List.cons.inj equal).2
  · rw [lowerWithin, if_pos rfl, lowerSigma, starts, ends, lowerAlone_sigma] at equal
    exact absurd (List.cons.inj equal).1 (by decide)

/-- Texts of the same letters have one lower-case form exactly if they agree wherever one of
them deviates. -/
theorem lowerFrom_eq_iff (sameBefore : before.map lowerAlone = otherBefore.map lowerAlone)
    (same : text.map lowerAlone = otherText.map lowerAlone) :
    lowerFrom before text = lowerFrom otherBefore otherText ↔
      ∀ place, Deviates before text place ∨ Deviates otherBefore otherText place →
        text[place]? = otherText[place]? := by
  induction text generalizing otherText before otherBefore with
  | nil =>
      rw [List.map_eq_nil_iff.mp same.symm]
      exact ⟨fun _ _ _ => rfl, fun _ => rfl⟩
  | cons c rest inductionHypothesis =>
      cases otherText with
      | nil => cases same
      | cons d others =>
          obtain ⟨sameHere, sameLater⟩ := List.cons.inj same
          have sameBehind : (c :: before).map lowerAlone = (d :: otherBefore).map lowerAlone := by
            rw [List.map_cons, List.map_cons, sameHere, sameBefore]
          have later := inductionHypothesis sameBehind sameLater
          rw [← Nat.and_forall_add_one]
          simp only [deviates_succ, List.getElem?_cons_succ, List.getElem?_cons_zero]
          rw [← later]
          by_cases equal : c = d
          · subst equal
            rw [lowerFrom_cons, lowerFrom_cons, lowerWithin_congr sameBefore sameLater,
              List.append_right_inj]
            exact (and_iff_right fun _ => rfl).symm
          by_cases deviates : Deviates before (c :: rest) 0 ∨ Deviates otherBefore (d :: others) 0
          · constructor
            · intro written
              rcases deviates with first | second
              · exact absurd written (lowerFrom_ne_of_deviates first sameHere equal sameLater)
              · exact absurd written.symm (lowerFrom_ne_of_deviates second sameHere.symm
                  (Ne.symm equal) sameLater.symm)
            · rintro ⟨here, _⟩
              exact absurd (Option.some.inj (here deviates)) equal
          · obtain ⟨plain, otherPlain⟩ := not_or.mp deviates
            rw [lowerFrom_cons, lowerFrom_cons, lowerWithin_of_not_deviates plain,
              lowerWithin_of_not_deviates otherPlain, sameHere, List.append_right_inj]
            exact (and_iff_right fun moved => absurd moved deviates).symm

end Places

/-- Two texts agree wherever a character of one of them has another form than by itself. -/
def AgreeInForm (first second : List Char) : Prop :=
  ∀ place, Deviates [] first place ∨ Deviates [] second place → first[place]? = second[place]?

theorem lower_eq_iff {first second : String}
    (same : first.toList.map lowerAlone = second.toList.map lowerAlone) :
    lower first = lower second ↔ AgreeInForm first.toList second.toList := by
  rw [AgreeInForm, ← lowerFrom_eq_iff rfl same, lower, lower]
  exact String.ofList_inj

end MessageRouting.Text
