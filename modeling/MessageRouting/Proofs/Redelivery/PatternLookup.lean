import Mathlib.Data.List.Nodup
import MessageRouting.Proofs.Redelivery.PatternGrammar

/-!
# The lookup in delay patterns

The lookup stops at the first threshold that is too large for the attempt. The thresholds of
a pattern that was read ascend, so that no group behind that threshold is reached either:
what the lookup finds is the greatest threshold reached among all groups. Over the attempts
the delay is a staircase, with its steps at the thresholds.
-/

namespace MessageRouting

namespace DelayPattern

variable {pattern : DelayPattern} {attempt later : Nat} {group : DelayGroup}

def Ascends (pattern : DelayPattern) : Prop :=
  pattern.groups.Pairwise fun earlier later => earlier.threshold < later.threshold

/-- The group governs the attempt: it has the greatest threshold among all groups that the
attempt has reached. -/
structure Governs (pattern : DelayPattern) (attempt : Nat) (group : DelayGroup) : Prop where
  listed : group ∈ pattern.groups
  reached : group.threshold ≤ attempt
  greatest : ∀ other ∈ pattern.groups,
    other.threshold ≤ attempt → other.threshold ≤ group.threshold

/-! ## Ascending thresholds -/

theorem ascends_of_read {text : String} (found : read text = .ok pattern) :
    pattern.Ascends := by
  obtain ⟨_, _, ascend⟩ := read_eq_ok_iff.mp found
  exact List.pairwise_map.mp ascend

/-- Behind a threshold that is too large all thresholds are, so that stopping there leaves nothing
out. -/
theorem takeWhile_eq_filter {groups : List DelayGroup}
    (ascends : groups.Pairwise fun earlier later => earlier.threshold < later.threshold)
    (attempt : Nat) :
    (groups.takeWhile fun group => group.threshold ≤ attempt) =
      groups.filter fun group => group.threshold ≤ attempt := by
  induction groups with
  | nil => rfl
  | cons first rest inductionHypothesis =>
      obtain ⟨larger, restAscends⟩ := List.pairwise_cons.mp ascends
      by_cases reached : first.threshold ≤ attempt
      · simp [reached, inductionHypothesis restAscends]
      · have hidden : ∀ group ∈ rest, attempt < group.threshold := by
          intro group listed
          have behind := larger group listed
          omega
        simpa [reached] using hidden

theorem Ascends.mem_reached_iff (ascends : pattern.Ascends) :
    group ∈ pattern.reached attempt ↔
      group ∈ pattern.groups ∧ group.threshold ≤ attempt := by
  rw [reached, takeWhile_eq_filter ascends, List.mem_filter, decide_eq_true_iff]

theorem Ascends.reached_eq_nil_iff (ascends : pattern.Ascends) :
    pattern.reached attempt = [] ↔ ∀ group ∈ pattern.groups, attempt < group.threshold := by
  simp only [List.eq_nil_iff_forall_not_mem, ascends.mem_reached_iff, not_and, Nat.not_le]

theorem Ascends.eq_of_threshold_eq (ascends : pattern.Ascends) {first second : DelayGroup}
    (firstListed : first ∈ pattern.groups) (secondListed : second ∈ pattern.groups)
    (same : first.threshold = second.threshold) : first = second := by
  have distinct : (pattern.groups.map DelayGroup.threshold).Nodup :=
    (List.pairwise_map.mpr ascends).imp Nat.ne_of_lt
  exact List.inj_on_of_nodup_map distinct firstListed secondListed same

/-! ## The governing group -/

/-- Each group governs the attempt at which it begins. -/
theorem governs_threshold (listed : group ∈ pattern.groups) :
    pattern.Governs group.threshold group :=
  ⟨listed, le_refl _, fun _ _ reached => reached⟩

/-- The group goes on to govern as long as no other threshold is passed. -/
theorem Governs.persists (governs : pattern.Governs attempt group) (order : attempt ≤ later)
    (unpassed : ∀ other ∈ pattern.groups, other.threshold ≤ later → other.threshold ≤ attempt) :
    pattern.Governs later group where
  listed := governs.listed
  reached := governs.reached.trans order
  greatest other otherListed otherReached :=
    governs.greatest other otherListed (unpassed other otherListed otherReached)

/-- No threshold lies between those of two groups that follow each other. -/
theorem Ascends.outside_of_consecutive (ascends : pattern.Ascends)
    {first second other : DelayGroup} (consecutive : [first, second] <:+: pattern.groups)
    (listed : other ∈ pattern.groups) :
    other.threshold ≤ first.threshold ∨ second.threshold ≤ other.threshold := by
  obtain ⟨before, behind, split⟩ := consecutive
  rw [Ascends, ← split, List.append_assoc, List.pairwise_append] at ascends
  rw [← split, List.append_assoc, List.mem_append] at listed
  obtain ⟨_, fromFirst, smaller⟩ := ascends
  rcases listed with earlier | notEarlier
  · exact Or.inl (Nat.le_of_lt (smaller other earlier first List.mem_cons_self))
  · rcases List.mem_cons.mp notEarlier with rfl | behindFirst
    · exact Or.inl (le_refl _)
    · apply Or.inr
      rcases List.mem_cons.mp behindFirst with rfl | behindSecond
      · exact le_refl _
      · have fromSecond := (List.pairwise_cons.mp fromFirst).2
        exact Nat.le_of_lt ((List.pairwise_cons.mp fromSecond).1 other behindSecond)

/-- From its threshold to the next one a group governs. -/
theorem Ascends.governs_of_consecutive (ascends : pattern.Ascends) {first second : DelayGroup}
    (consecutive : [first, second] <:+: pattern.groups) (begun : first.threshold ≤ attempt)
    (early : attempt < second.threshold) : pattern.Governs attempt first := by
  have listed : first ∈ pattern.groups := consecutive.subset List.mem_cons_self
  apply (governs_threshold listed).persists begun
  intro other otherListed otherReached
  have outside := ascends.outside_of_consecutive consecutive otherListed
  omega

theorem Ascends.governs_of_last (ascends : pattern.Ascends)
    (last : (pattern.reached attempt).getLast? = some group) :
    pattern.Governs attempt group := by
  obtain ⟨listed, reached⟩ := ascends.mem_reached_iff.mp (List.mem_of_getLast? last)
  obtain ⟨before, split⟩ := List.getLast?_eq_some_iff.mp last
  have ascending : (pattern.reached attempt).Pairwise
      fun earlier later => earlier.threshold < later.threshold :=
    ascends.sublist (List.takeWhile_sublist _)
  rw [split, List.pairwise_append] at ascending
  refine ⟨listed, reached, ?_⟩
  intro other otherListed otherReached
  have found := ascends.mem_reached_iff.mpr ⟨otherListed, otherReached⟩
  rw [split, List.mem_append, List.mem_singleton] at found
  rcases found with earlier | rfl
  · exact Nat.le_of_lt (ascending.2.2 other earlier group (List.mem_singleton_self group))
  · exact le_refl _

/-- The last group that the lookup passes is the one that governs. -/
theorem Ascends.last_eq_some_iff (ascends : pattern.Ascends) :
    (pattern.reached attempt).getLast? = some group ↔ pattern.Governs attempt group := by
  constructor
  · exact ascends.governs_of_last
  · intro governs
    cases last : (pattern.reached attempt).getLast? with
    | none =>
        have early := ascends.reached_eq_nil_iff.mp (List.getLast?_eq_none_iff.mp last)
        exact absurd governs.reached (Nat.not_le_of_lt (early group governs.listed))
    | some found =>
        have governed := ascends.governs_of_last last
        have same : found.threshold = group.threshold :=
          le_antisymm (governs.greatest found governed.listed governed.reached)
            (governed.greatest group governs.listed governs.reached)
        rw [ascends.eq_of_threshold_eq governed.listed governs.listed same]

theorem Ascends.unique (ascends : pattern.Ascends) {other : DelayGroup}
    (governs : pattern.Governs attempt group) (governed : pattern.Governs attempt other) :
    other = group := by
  apply Option.some.inj
  rw [← ascends.last_eq_some_iff.mpr governs, ← ascends.last_eq_some_iff.mpr governed]

theorem Ascends.governed_or_early (ascends : pattern.Ascends) (attempt : Nat) :
    (∃ group, pattern.Governs attempt group) ∨
      ∀ group ∈ pattern.groups, attempt < group.threshold := by
  cases last : (pattern.reached attempt).getLast? with
  | some group => exact Or.inl ⟨group, ascends.governs_of_last last⟩
  | none =>
      exact Or.inr (ascends.reached_eq_nil_iff.mp (List.getLast?_eq_none_iff.mp last))

/-! ## The delay -/

theorem Ascends.delayFor_eq (ascends : pattern.Ascends)
    (governs : pattern.Governs attempt group) : pattern.delayFor attempt = group.delay := by
  rw [delayFor, ascends.last_eq_some_iff.mpr governs]
  rfl

theorem Ascends.delayFor_eq_zero (ascends : pattern.Ascends)
    (early : ∀ group ∈ pattern.groups, attempt < group.threshold) :
    pattern.delayFor attempt = 0 := by
  rw [delayFor, ascends.reached_eq_nil_iff.mpr early]
  rfl

/-- The delay stays the same where no threshold is passed. -/
theorem Ascends.delayFor_eq_of_unpassed (ascends : pattern.Ascends) (order : attempt ≤ later)
    (unpassed : ∀ other ∈ pattern.groups, other.threshold ≤ later → other.threshold ≤ attempt) :
    pattern.delayFor later = pattern.delayFor attempt := by
  rcases ascends.governed_or_early attempt with ⟨group, governs⟩ | early
  · rw [ascends.delayFor_eq governs, ascends.delayFor_eq (governs.persists order unpassed)]
  · have stillEarly : ∀ group ∈ pattern.groups, later < group.threshold := by
      intro group listed
      by_contra reached
      have passed := unpassed group listed (Nat.le_of_not_lt reached)
      exact Nat.not_lt_of_le passed (early group listed)
    rw [ascends.delayFor_eq_zero early, ascends.delayFor_eq_zero stillEarly]

/-- Where the delay changes from one attempt to the next, a group begins, and the delay is then
its delay. -/
theorem Ascends.begins_of_delayFor_ne (ascends : pattern.Ascends)
    (changes : pattern.delayFor (attempt + 1) ≠ pattern.delayFor attempt) :
    ∃ group ∈ pattern.groups, group.threshold = attempt + 1 ∧
      pattern.delayFor (attempt + 1) = group.delay := by
  by_contra absent
  apply changes
  apply ascends.delayFor_eq_of_unpassed (Nat.le_succ attempt)
  intro group listed reached
  by_contra passed
  have begins : group.threshold = attempt + 1 := by omega
  apply absent
  refine ⟨group, listed, begins, ?_⟩
  rw [← begins]
  exact ascends.delayFor_eq (governs_threshold listed)

/-- In a pattern that was read, one group has the greatest threshold among all groups that an
attempt has reached, and the delay before the attempt is that of this group; before all thresholds
there is no delay. From one threshold to the next the delay is therefore the same, and it changes
only where a threshold is reached. -/
theorem delay_of_greatest_threshold {text : String} (found : read text = .ok pattern) :
    (∀ attempt,
      (∃ group, pattern.Governs attempt group ∧
        (∀ other, pattern.Governs attempt other → other = group) ∧
        pattern.delayFor attempt = group.delay) ∨
      (∀ group ∈ pattern.groups, attempt < group.threshold) ∧ pattern.delayFor attempt = 0) ∧
    (∀ first second, [first, second] <:+: pattern.groups →
      ∀ attempt, first.threshold ≤ attempt → attempt < second.threshold →
        pattern.delayFor attempt = first.delay) ∧
    ∀ attempt, pattern.delayFor (attempt + 1) ≠ pattern.delayFor attempt →
      ∃ group ∈ pattern.groups, group.threshold = attempt + 1 ∧
        pattern.delayFor (attempt + 1) = group.delay := by
  have ascends := ascends_of_read found
  refine ⟨?_, ?_, ?_⟩
  · intro attempt
    rcases ascends.governed_or_early attempt with ⟨group, governs⟩ | early
    · exact Or.inl ⟨group, governs, fun _ => ascends.unique governs, ascends.delayFor_eq governs⟩
    · exact Or.inr ⟨early, ascends.delayFor_eq_zero early⟩
  · intro first second consecutive attempt begun early
    exact ascends.delayFor_eq (ascends.governs_of_consecutive consecutive begun early)
  · exact fun attempt => ascends.begins_of_delayFor_ne

/-- Three groups, the last one for the greatest 32-bit attempt. -/
def threeGroups : DelayPattern :=
  ⟨[⟨2, 1000⟩, ⟨5, 5000⟩, ⟨4294967295, 7⟩]⟩

/-- The delay is the same up to the attempt before a threshold, and changes at the last one. -/
theorem delay_of_greatest_threshold_three :
    read "2:1000;5:5000;4294967295:7" = .ok threeGroups ∧
      threeGroups.delayFor 4 = 1000 ∧ threeGroups.delayFor 4294967294 = 5000 ∧
      (∃ group ∈ threeGroups.groups, group.threshold = 4294967295 ∧
        threeGroups.delayFor 4294967295 = group.delay) ∧
      ∃ group, threeGroups.Governs 4294967295 group ∧
        threeGroups.delayFor 4294967295 = group.delay := by
  have found : read "2:1000;5:5000;4294967295:7" = .ok threeGroups := by
    rfl
  obtain ⟨governed, constant, changes⟩ := delay_of_greatest_threshold found
  refine ⟨found, ?_, ?_, changes 4294967294 (by decide), ?_⟩
  · exact constant ⟨2, 1000⟩ ⟨5, 5000⟩ ⟨[], [⟨4294967295, 7⟩], rfl⟩ 4 (by decide) (by decide)
  · exact constant ⟨5, 5000⟩ ⟨4294967295, 7⟩ ⟨[⟨2, 1000⟩], [], rfl⟩ 4294967294 (by decide)
      (by decide)
  · rcases governed 4294967295 with ⟨group, governs, _, delay⟩ | ⟨early, _⟩
    · exact ⟨group, governs, delay⟩
    · exact absurd (early ⟨2, 1000⟩ List.mem_cons_self) (by decide)

end DelayPattern

end MessageRouting
