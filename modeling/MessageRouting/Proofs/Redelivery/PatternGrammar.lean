import Mathlib.Data.List.Chain
import Mathlib.Data.List.Forall2
import MessageRouting.Proofs.Text.Spelled
import MessageRouting.Redelivery.DelayPattern

/-!
# The grammar of delay patterns

A text is read as a delay pattern exactly if its segments that are not blank spell groups
with ascending thresholds, and the pattern has those groups. What a pattern displays is such
a text, so that it is read back as the pattern.
-/

namespace MessageRouting

/-! ## Splitting -/

namespace Text

theorem splitAt_eq_splitOn (separator : Char) (chars : List Char) :
    splitAt separator chars = chars.splitOn separator := by
  induction chars with
  | nil => rfl
  | cons c rest inductionHypothesis =>
      rw [splitAt, List.splitOn_cons_eq_if_modifyHead, inductionHypothesis]
      by_cases separates : c = separator
      · simp [separates]
      · obtain ⟨piece, pieces, split⟩ :=
          List.exists_cons_of_ne_nil (List.splitOn_ne_nil separator rest)
        simp [separates, split]

variable {separator : Char} {chars before behind : List Char}

theorem splitOnce?_append (absent : separator ∉ before) :
    splitOnce? separator (before ++ separator :: behind) = some (before, behind) := by
  induction before with
  | nil => rw [List.nil_append, splitOnce?, if_pos rfl]
  | cons c rest inductionHypothesis =>
      rw [List.mem_cons, not_or] at absent
      obtain ⟨different, later⟩ := absent
      rw [List.cons_append, splitOnce?, if_neg (Ne.symm different), inductionHypothesis later]
      rfl

theorem of_splitOnce?_eq_some (split : splitOnce? separator chars = some (before, behind)) :
    chars = before ++ separator :: behind ∧ separator ∉ before := by
  induction chars generalizing before with
  | nil => cases split
  | cons c rest inductionHypothesis =>
      rw [splitOnce?] at split
      split at split
      · rename_i separates
        cases split
        exact ⟨by rw [separates]; rfl, List.not_mem_nil⟩
      · rename_i different
        obtain ⟨⟨first, last⟩, later, same⟩ := Option.map_eq_some_iff.mp split
        cases same
        obtain ⟨rfl, absent⟩ := inductionHypothesis later
        refine ⟨rfl, ?_⟩
        rw [List.mem_cons, not_or]
        exact ⟨Ne.symm different, absent⟩

end Text

namespace DelayPattern

variable {segment : List Char} {group : DelayGroup} {groups : List DelayGroup}

/-- The segment spells the group: a threshold and a delay around the first colon, each a numeral
between blanks. -/
def Spells (segment : List Char) (group : DelayGroup) : Prop :=
  ∃ threshold delay, segment = threshold ++ ':' :: delay ∧ ':' ∉ threshold ∧
    (∃ numeral, Text.SpellsNat numeral group.threshold ∧ group.threshold ≤ Text.maxU32 ∧
      Text.Surrounds numeral threshold) ∧
    ∃ numeral, Text.SpellsNat numeral group.delay ∧ group.delay ≤ Text.maxU64 ∧
      Text.Surrounds numeral delay

/-- The text spells the groups: its segments between semicolons, those of blanks only left out, spell
them one by one; there is at least one, and the thresholds ascend. -/
def Denotes (chars : List Char) (groups : List DelayGroup) : Prop :=
  List.Forall₂ Spells ((chars.splitOn ';').filter fun segment => !segment.all Text.isBlank) groups ∧
    groups ≠ [] ∧ (groups.map DelayGroup.threshold).Pairwise (· < ·)

/-! ## One group -/

theorem readGroup_eq_ok_iff : readGroup segment = .ok group ↔ Spells segment group := by
  constructor
  · intro read
    unfold readGroup at read
    split at read
    · cases read
    · rename_i threshold delay split
      split at read
      · cases read
      · rename_i first readThreshold
        split at read
        · cases read
        · rename_i second readDelay
          cases read
          obtain ⟨whole, absent⟩ := Text.of_splitOnce?_eq_some split
          exact ⟨threshold, delay, whole, absent, Text.readUnsigned_trimChars.mp readThreshold,
            Text.readUnsigned_trimChars.mp readDelay⟩
  · rintro ⟨threshold, delay, rfl, absent, spellsThreshold, spellsDelay⟩
    rw [readGroup, Text.splitOnce?_append absent]
    dsimp only
    rw [Text.readUnsigned_trimChars.mpr spellsThreshold]
    dsimp only
    rw [Text.readUnsigned_trimChars.mpr spellsDelay]

/-- Blanks around a segment do not matter. -/
theorem spells_trimChars_iff : Spells (Text.trimChars segment) group ↔ Spells segment group := by
  constructor
  · rintro ⟨threshold, delay, whole, absent, ⟨first, spellsFirst, fitsFirst, aroundFirst⟩,
      second, spellsSecond, fitsSecond, aroundSecond⟩
    obtain ⟨before, behind, blankBefore, blankBehind, around⟩ := Text.surrounds_trimChars segment
    refine ⟨before ++ threshold, delay ++ behind, ?_, ?_,
      ⟨first, spellsFirst, fitsFirst, aroundFirst.prepend blankBefore⟩,
      second, spellsSecond, fitsSecond, aroundSecond.append blankBehind⟩
    · rw [around, whole, List.append_assoc, List.append_assoc, List.cons_append]
    · intro listed
      rcases List.mem_append.mp listed with outer | inner
      · exact absurd (blankBefore ':' outer) (by decide)
      · exact absent inner
  · rintro ⟨_, _, rfl, absent, ⟨first, spellsFirst, fitsFirst, before, between, blankBefore,
      blankBetween, rfl⟩, second, spellsSecond, fitsSecond, inner, behind, blankInner, blankBehind, rfl⟩
    have around : Text.Surrounds (first ++ ((between ++ ':' :: inner) ++ second))
        ((before ++ (first ++ between)) ++ ':' :: (inner ++ (second ++ behind))) :=
      ⟨before, behind, blankBefore, blankBehind, by simp⟩
    rw [around.trimChars_congr, Text.trimChars_between _ spellsFirst.ne_nil spellsFirst.visible
      spellsSecond.ne_nil spellsSecond.visible]
    refine ⟨first ++ between, inner ++ second, by simp, ?_,
      ⟨first, spellsFirst, fitsFirst, [], between, by simp, blankBetween, rfl⟩,
      second, spellsSecond, fitsSecond, inner, [], blankInner, by simp, by simp⟩
    exact fun listed => absent (List.mem_append_right before listed)

/-! ## All groups -/

theorem bind_eq_ok_iff {ε α β : Type} {read : Except ε α} {next : α → Except ε β} {result : β} :
    (read >>= next) = .ok result ↔ ∃ found, read = .ok found ∧ next found = .ok result := by
  cases read with
  | error fault =>
      constructor
      · intro failed
        cases failed
      · rintro ⟨_, failed, _⟩
        cases failed
  | ok found =>
      constructor
      · intro later
        exact ⟨found, rfl, later⟩
      · rintro ⟨_, same, later⟩
        cases same
        exact later

/-- The first segment is read as a group behind the previous one, and the others behind it. -/
theorem readGroups_cons_eq_ok_iff {previous : Option Nat} {rest : List (List Char)} :
    readGroups previous (segment :: rest) = .ok groups ↔
      ∃ group later, groups = group :: later ∧ readGroup segment = .ok group ∧
        (∀ threshold ∈ previous, threshold < group.threshold) ∧
        readGroups (some group.threshold) rest = .ok later := by
  have step (group : DelayGroup) :
      (readGroups (some group.threshold) rest >>= fun later => .ok (group :: later)) = .ok groups ↔
        ∃ later, readGroups (some group.threshold) rest = .ok later ∧ group :: later = groups := by
    rw [bind_eq_ok_iff]
    simp only [Except.ok.injEq]
  rw [readGroups, bind_eq_ok_iff]
  constructor
  · rintro ⟨group, read, others⟩
    cases previous with
    | none =>
        obtain ⟨later, readLater, rfl⟩ := (step group).mp others
        exact ⟨group, later, rfl, read, fun _ absent => (by cases absent), readLater⟩
    | some threshold =>
        dsimp only at others
        split at others
        · cases others
        · rename_i ascends
          obtain ⟨later, readLater, rfl⟩ := (step group).mp others
          refine ⟨group, later, rfl, read, ?_, readLater⟩
          intro _ same
          cases same
          exact Nat.lt_of_not_le ascends
  · rintro ⟨group, later, rfl, read, ascends, readLater⟩
    refine ⟨group, read, ?_⟩
    have others := (step group).mpr ⟨later, readLater, rfl⟩
    cases previous with
    | none => exact others
    | some threshold =>
        dsimp only
        rw [if_neg (Nat.not_le_of_lt (ascends threshold rfl))]
        exact others

theorem readGroups_eq_ok_iff {previous : Option Nat} {segments : List (List Char)} :
    readGroups previous segments = .ok groups ↔
      List.Forall₂ (fun segment group => readGroup segment = .ok group) segments groups ∧
        (previous.toList ++ groups.map DelayGroup.threshold).IsChain (· < ·) := by
  induction segments generalizing previous groups with
  | nil =>
      rw [readGroups, Except.ok.injEq, List.forall₂_nil_left_iff]
      constructor
      · rintro rfl
        cases previous with
        | none => exact ⟨rfl, .nil⟩
        | some threshold => exact ⟨rfl, .singleton threshold⟩
      · rintro ⟨rfl, _⟩
        rfl
  | cons segment rest inductionHypothesis =>
      rw [readGroups_cons_eq_ok_iff]
      constructor
      · rintro ⟨group, later, rfl, read, ascends, readLater⟩
        obtain ⟨others, chain⟩ := inductionHypothesis.mp readLater
        refine ⟨.cons read others, ?_⟩
        cases previous with
        | none => exact chain
        | some threshold => exact .cons_cons (ascends threshold rfl) chain
      · rintro ⟨all, chain⟩
        obtain ⟨group, later, read, others, rfl⟩ := List.forall₂_cons_left_iff.mp all
        refine ⟨group, later, rfl, read, ?_, inductionHypothesis.mpr ⟨others, ?_⟩⟩
        · rintro threshold same
          cases same
          exact (List.isChain_cons_cons.mp chain).1
        · cases previous with
          | none => exact chain
          | some threshold => exact (List.isChain_cons_cons.mp chain).2

/-! ## The whole text -/

theorem trimChars_isEmpty (chars : List Char) :
    (Text.trimChars chars).isEmpty = chars.all Text.isBlank := by
  rw [Bool.eq_iff_iff, List.isEmpty_iff, List.all_eq_true]
  constructor
  · intro empty
    obtain ⟨before, behind, blankBefore, blankBehind, whole⟩ := Text.surrounds_trimChars chars
    rw [empty, List.nil_append] at whole
    rw [whole]
    intro c listed
    rcases List.mem_append.mp listed with first | last
    · exact blankBefore c first
    · exact blankBehind c last
  · exact fun blank => Text.trimChars_eq_nil_of_all_blank (List.all_eq_true.mpr blank)

theorem segments_eq (chars : List Char) :
    segments chars = ((chars.splitOn ';').filter fun segment => !segment.all Text.isBlank).map
      Text.trimChars := by
  rw [segments, Text.splitAt_eq_splitOn, List.filter_map]
  congr 2
  funext segment
  exact congrArg (!·) (trimChars_isEmpty segment)

theorem parse_eq_ok_iff {chars : List Char} {pattern : DelayPattern} :
    parse chars = .ok pattern ↔ Denotes chars pattern.groups := by
  have ascending : (pattern.groups.map DelayGroup.threshold).IsChain (· < ·) ↔
      (pattern.groups.map DelayGroup.threshold).Pairwise (· < ·) := List.isChain_iff_pairwise
  have read (groups : List DelayGroup) :
      readGroups none (segments chars) = .ok groups ↔
        List.Forall₂ Spells ((chars.splitOn ';').filter fun segment => !segment.all Text.isBlank)
          groups ∧ (groups.map DelayGroup.threshold).IsChain (· < ·) := by
    rw [readGroups_eq_ok_iff, segments_eq, List.forall₂_map_left_iff]
    simp only [readGroup_eq_ok_iff, spells_trimChars_iff]
    rfl
  rw [parse, bind_eq_ok_iff, Denotes, ← ascending]
  constructor
  · rintro ⟨groups, found, kept⟩
    obtain ⟨spelled, ascend⟩ := (read groups).mp found
    split at kept
    · cases kept
    · rename_i nonempty
      cases kept
      exact ⟨spelled, fun empty => nonempty (List.isEmpty_iff.mpr empty), ascend⟩
  · rintro ⟨spelled, nonempty, ascend⟩
    refine ⟨pattern.groups, (read pattern.groups).mpr ⟨spelled, ascend⟩, ?_⟩
    rw [if_neg fun empty => nonempty (List.isEmpty_iff.mp empty)]

theorem read_eq_ok_iff {text : String} {pattern : DelayPattern} :
    read text = .ok pattern ↔ Denotes text.toList pattern.groups := by
  rw [← parse_eq_ok_iff, read]
  split
  · rename_i found parsed
    rw [parsed, Except.ok.injEq, Except.ok.injEq]
  · rename_i fault parsed
    rw [parsed]
    exact ⟨nofun, nofun⟩

/-! ## The displayed text -/

theorem showGroups_eq (groups : List DelayGroup) :
    showGroups groups = [';'].intercalate (groups.map showGroup) := by
  induction groups with
  | nil => rfl
  | cons group rest inductionHypothesis =>
      cases rest with
      | nil => simp [showGroups]
      | cons second others =>
          rw [showGroups, inductionHypothesis]
          · simp only [List.map_cons, List.intercalate_cons_cons, List.append_assoc,
              List.singleton_append]
          · exact List.cons_ne_nil second others

theorem not_mem_decimalDigits {c : Char} (noDigit : ¬('0' ≤ c ∧ c ≤ '9')) (n : Nat) :
    c ∉ Text.decimalDigits n :=
  fun listed => noDigit (Text.digit_of_mem_decimalDigits listed)

theorem not_mem_showGroup (group : DelayGroup) : ';' ∉ showGroup group := by
  rw [showGroup, List.mem_append, List.mem_cons]
  rintro (first | separator | second)
  · exact not_mem_decimalDigits (by decide) _ first
  · exact absurd separator (by decide)
  · exact not_mem_decimalDigits (by decide) _ second

theorem showGroup_not_blank (group : DelayGroup) : (showGroup group).all Text.isBlank = false := by
  apply List.all_eq_false.mpr
  exact ⟨':', List.mem_append_right _ List.mem_cons_self, by decide⟩

/-- The written form of a group spells it, if some segment does. -/
theorem Spells.showGroup (spells : Spells segment group) : Spells (showGroup group) group := by
  obtain ⟨_, _, _, _, ⟨_, _, fitsThreshold, _⟩, _, _, fitsDelay, _⟩ := spells
  have written (n : Nat) : Text.SpellsNat (Text.decimalDigits n) n :=
    ⟨_, Text.spellsDigits_decimalDigits n, Or.inl rfl⟩
  exact ⟨_, _, rfl, not_mem_decimalDigits (by decide) _,
    ⟨_, written _, fitsThreshold, Text.surrounds_self _⟩,
    _, written _, fitsDelay, Text.surrounds_self _⟩

theorem forall_spells_showGroup {segments : List (List Char)}
    (spelled : List.Forall₂ Spells segments groups) :
    List.Forall₂ (fun shown group => Spells (DelayPattern.showGroup shown) group) groups groups := by
  induction spelled with
  | nil => exact .nil
  | cons first _ inductionHypothesis => exact .cons first.showGroup inductionHypothesis

theorem splitOn_showGroups (nonempty : groups ≠ []) :
    (showGroups groups).splitOn ';' = groups.map showGroup := by
  rw [showGroups_eq]
  apply List.splitOn_intercalate
  · intro shown listed
    obtain ⟨group, _, rfl⟩ := List.mem_map.mp listed
    exact not_mem_showGroup group
  · exact fun empty => nonempty (List.map_eq_nil_iff.mp empty)

/-- What is displayed for the groups that a text denotes denotes them too. -/
theorem Denotes.showGroups {chars : List Char} (denotes : Denotes chars groups) :
    Denotes (showGroups groups) groups := by
  obtain ⟨spelled, nonempty, ascend⟩ := denotes
  refine ⟨?_, nonempty, ascend⟩
  have kept : (groups.map showGroup).filter (fun segment => !segment.all Text.isBlank) =
      groups.map showGroup := by
    apply List.filter_eq_self.mpr
    intro shown listed
    obtain ⟨group, _, rfl⟩ := List.mem_map.mp listed
    rw [showGroup_not_blank]
    rfl
  rw [splitOn_showGroups nonempty, kept, List.forall₂_map_left_iff]
  exact forall_spells_showGroup spelled

/-- A text is read as a pattern exactly if it denotes the groups of the pattern, and then what the
pattern displays is read as the pattern again, so that displaying what was read settles the text. -/
theorem read_and_display :
    (∀ text pattern, read text = .ok pattern ↔ Denotes text.toList pattern.groups) ∧
    ∀ text pattern, read text = .ok pattern →
      read pattern.display = .ok pattern ∧
        (read pattern.display).map display = .ok pattern.display := by
  refine ⟨fun _ _ => read_eq_ok_iff, fun text pattern found => ?_⟩
  have denotes := (read_eq_ok_iff.mp found).showGroups
  have back : read pattern.display = .ok pattern := by
    rw [read_eq_ok_iff, display, String.toList_ofList]
    exact denotes
  refine ⟨back, ?_⟩
  rw [back]
  rfl

/-- Blanks, signs, zeros and empty segments are not displayed. -/
theorem read_and_display_blanks :
    read " ; 2 :+1000;;\t007: 018446744073709551615 " =
        .ok ⟨[⟨2, 1000⟩, ⟨7, 18446744073709551615⟩]⟩ ∧
      read (display ⟨[⟨2, 1000⟩, ⟨7, 18446744073709551615⟩]⟩) =
        .ok ⟨[⟨2, 1000⟩, ⟨7, 18446744073709551615⟩]⟩ := by
  have found : read " ; 2 :+1000;;\t007: 018446744073709551615 " =
      .ok ⟨[⟨2, 1000⟩, ⟨7, 18446744073709551615⟩]⟩ := by
    rfl
  exact ⟨found, (read_and_display.2 _ _ found).1⟩

end DelayPattern

end MessageRouting
