import MessageRouting.Proofs.Redelivery.Attempts

/-!
# The end of redelivery under changing policies

Each failure chooses the policy that limits redelivery, so the limit changes from one
failure to the next while the count goes on. A pass ends at the first attempt that
does not fail, fails beyond repair, leaves the exchange rollback-only, or fails for
more times than its own policy admits. No policy admits more than the largest limit,
so that limit bounds the pass as a whole.
-/

namespace MessageRouting

namespace ErrorHandler

/-- The policies that can be in force set a limit, none of them beyond the given one, and no predicate
decides in their place. -/
structure Limited (handler : ErrorHandler) (limit : Nat) : Prop where
  lower : ∀ failure, 0 ≤ (handler.redeliveryUnder (handler.policyFor failure)).maximum
  upper : ∀ failure, (handler.redeliveryUnder (handler.policyFor failure)).maximum ≤ limit
  unguarded : ∀ failure policy, handler.policyFor failure = some policy → policy.retryWhile = none

/-- A pass ends with its attempt of the given number, counted from one, if that attempt leaves the
exchange so: not with an exception, or with one that is fatal, that comes with a rollback-only mark,
or whose own policy admits fewer redeliveries. -/
def Stops (handler : ErrorHandler) (number : Nat) (ended : Exchange) : Prop :=
  ∀ failure, ended.exception = some failure →
    failure.isFatal = true ∨ ended.isRollbackOnly = true ∨
      (handler.redeliveryUnder (handler.policyFor failure)).maximum < number

variable {handler : ErrorHandler} {limit : Nat} {exchange after : Exchange}
  {earlier : History} {standing : Standing}

/-! ## One attempt -/

/-- Whether a failure may be followed by a redelivery. -/
theorem Limited.mayRedeliver_iff (limited : handler.Limited limit) (after : Exchange)
    (failure : Failure) (number : Nat) :
    handler.mayRedeliver (handler.policyFor failure) (counted (after.setCaught failure) number)
        number = true ↔
      after.isRollbackOnly = false ∧
        (number : Int) ≤ (handler.redeliveryUnder (handler.policyFor failure)).maximum := by
  have unguarded : (handler.policyFor failure).bind ExceptionPolicy.retryWhile = none := by
    cases found : handler.policyFor failure with
    | none => rfl
    | some policy => exact limited.unguarded failure policy found
  have limits : ¬(handler.redeliveryUnder (handler.policyFor failure)).maximum < 0 :=
    Int.not_lt.mpr (limited.lower failure)
  rw [mayRedeliver, isRollbackOnly_counted, unguarded, RedeliveryPolicy.shouldRedeliver,
    RedeliveryPolicy.allowsAttempt]
  simp [limits]

/-- After a failure that can be mended, a pass goes on exactly if a redelivery may follow. -/
theorem Limited.stops_iff (limited : handler.Limited limit) {failure : Failure} {number : Nat}
    (failed : after.exception = some failure)
    (mild : failure.isFatal = false) :
    handler.Stops number after ↔
      handler.mayRedeliver (handler.policyFor failure) (counted (after.setCaught failure) number)
        number = false := by
  have allowed := limited.mayRedeliver_iff after failure number
  constructor
  · intro stops
    apply eq_false_of_ne_true
    intro goesOn
    obtain ⟨unmarked, within⟩ := allowed.mp goesOn
    rcases stops failure failed with fatal | marked | beyond
    · rw [mild] at fatal
      contradiction
    · rw [unmarked] at marked
      contradiction
    · exact absurd within (Int.not_le.mpr beyond)
  · intro refused caught found
    obtain rfl := Option.some.inj (failed.symm.trans found)
    right
    cases marked : after.isRollbackOnly with
    | true => exact .inl rfl
    | false =>
        refine .inr (Int.not_le.mp ?_)
        intro within
        rw [allowed.mpr ⟨marked, within⟩] at refused
        contradiction

/-- An attempt with which a pass does not end has a number within the limit. -/
theorem Limited.number_le (limited : handler.Limited limit) {number : Nat}
    (goesOn : ¬handler.Stops number after) : number ≤ limit := by
  apply Nat.ge_of_not_lt
  intro beyond
  apply goesOn
  intro failure _
  have upper := limited.upper failure
  right
  right
  omega

/-! ## The attempts before the last one -/

/-- A pass did not end with any of the attempts that were made before the next one. -/
theorem Reached.goesOn (limited : handler.Limited limit)
    (reached : Reached handler (outset exchange) earlier standing) {index : Nat} {attempt : Attempt}
    (found : (standing.past exchange earlier)[index]? = some attempt) :
    ¬handler.Stops (index + 1) attempt.ended := by
  induction reached with
  | start => exact absurd found nofun
  | again reached retried inductionHypothesis =>
      obtain ⟨own, _, failure, past, _, _, _, failed, mild, allowed, _⟩ := reached.past_eq retried
      rw [past] at found
      rcases Attempt.found_concat found with before | ⟨rfl, rfl⟩
      · exact inductionHypothesis before
      · rw [reached.behind.count]
        intro stops
        rw [(limited.stops_iff failed mild).mp stops] at allowed
        contradiction

/-- The attempts with which a pass did not end are no more than the limit admits. -/
theorem Reached.past_length_le (limited : handler.Limited limit)
    (reached : Reached handler (outset exchange) earlier standing) :
    (standing.past exchange earlier).length ≤ limit := by
  cases found : (standing.past exchange earlier).getLast? with
  | none =>
      rw [List.getLast?_eq_none_iff.mp found]
      exact Nat.zero_le limit
  | some attempt =>
      rw [List.getLast?_eq_getElem?] at found
      have inside := (List.getElem?_eq_some_iff.mp found).1
      have within := limited.number_le (reached.goesOn limited found)
      omega

/-! ## The last attempt -/

/-- The count of redeliveries never runs out before the limit is reached. -/
theorem Limited.stops_of_spent (limited : handler.Limited limit) (countable : limit < 4294967296)
    (bounded : standing.countable + standing.redeliveries = maximumCount)
    (spent : standing.countable = 0) : handler.Stops (standing.redeliveries + 1) after := by
  intro caught _
  have upper := limited.upper caught
  have all : maximumCount = 4294967295 := rfl
  right
  right
  omega

/-- A pass ends with its last attempt. -/
theorem Concludes.stops {rest : History} {outcome : Outcome}
    (concludes : Concludes handler standing rest after outcome)
    (limited : handler.Limited limit) (countable : limit < 4294967296)
    (bounded : standing.countable + standing.redeliveries = maximumCount) :
    handler.Stops (standing.redeliveries + 1) after := by
  intro failure failed
  cases mild : failure.isFatal with
  | true => exact .inl rfl
  | false =>
      rw [← mild]
      rcases concludes.failed failure failed with fatal | spent | refused
      · exact .inl fatal
      · exact limited.stops_of_spent countable bounded spent failure failed
      · exact (limited.stops_iff failed mild).mpr refused failure failed

/-! ## Whole passes -/

/-- In a pass under policies none of which admits more than `limit` redeliveries, the last attempt is
the first one with which a pass ends; the attempts number `limit + 1` at most, and so do the calls of
the step and the failures. The limit is at most what the count of redeliveries can hold. -/
theorem attempts_limited (limited : handler.Limited limit) (countable : limit < 4294967296)
    (exchange : Exchange) :
    (handler.observe exchange).result = handler.handle exchange ∧
      (∀ broker, ∃ history,
        (handler.observe exchange).Gives history ((handler.handle exchange).run broker).1) ∧
      ∀ (history : History) (result : Exchange × Outcome),
        (handler.observe exchange).Gives history result →
          (history.attempts exchange).length ≤ limit + 1 ∧
            history.failures.length ≤ limit + 1 ∧ history.steps.length ≤ limit + 1 ∧
            history.steps = (history.attempts exchange).filterMap Attempt.call ∧
            history.failures = (history.attempts exchange).filterMap Attempt.failure? ∧
            ∀ index attempt, (history.attempts exchange)[index]? = some attempt →
              (handler.Stops (index + 1) attempt.ended ↔
                index + 1 = (history.attempts exchange).length) := by
  refine ⟨handler.result_observe exchange, ?_, ?_⟩
  · intro broker
    exact handle_gives.mp (Routine.gives_run (handler.handle exchange) broker)
  · intro history result given
    obtain ⟨earlier, standing, attempt, moments, rest, reached, _, concludes, _, _, whole⟩ :=
      attempts_of_observe given
    have count := reached.behind.count
    have few := reached.past_length_le limited
    have number : (history.attempts exchange).length = standing.redeliveries + 1 := by
      rw [whole.attempts, List.length_append, count, List.length_singleton]
    refine ⟨?_, ?_, ?_, whole.steps, whole.failures, ?_⟩
    · omega
    · rw [whole.failures]
      have counted := List.length_filterMap_le Attempt.failure? (history.attempts exchange)
      omega
    · rw [whole.steps]
      have counted := List.length_filterMap_le Attempt.call (history.attempts exchange)
      omega
    · intro index other found
      rw [number]
      rw [whole.attempts] at found
      rcases Attempt.found_concat found with before | ⟨rfl, rfl⟩
      · have inside := (List.getElem?_eq_some_iff.mp before).1
        constructor
        · intro stops
          exact absurd stops (reached.goesOn limited before)
        · omega
      · rw [count]
        constructor
        · intro _
          rfl
        · intro _
          exact concludes.stops limited countable reached.underway.bounded

/-! ## Limits that are read off the rules -/

theorem mem_of_innermost {policies : List ExceptionPolicy} {failure : Failure}
    {policy : ExceptionPolicy} (found : PolicyStrategy.innermost policies failure = some policy) :
    policy ∈ policies := by
  obtain ⟨cause, _, accepted⟩ := List.exists_of_findSome?_eq_some found
  exact List.mem_of_find?_eq_some accepted

/-- A strategy that chooses among the policies of the handler puts no others in force. -/
theorem limited_of_rules
    (chooses : ∀ failure policy, handler.policyFor failure = some policy →
      policy ∈ handler.rules.policies)
    (own : 0 ≤ handler.rules.redelivery.maximum ∧ handler.rules.redelivery.maximum ≤ limit)
    (each : ∀ policy ∈ handler.rules.policies, policy.retryWhile = none ∧
      ∀ redelivery, policy.redelivery = some redelivery →
        0 ≤ redelivery.maximum ∧ redelivery.maximum ≤ limit) : handler.Limited limit := by
  have inForce : ∀ failure,
      0 ≤ (handler.redeliveryUnder (handler.policyFor failure)).maximum ∧
        (handler.redeliveryUnder (handler.policyFor failure)).maximum ≤ limit := by
    intro failure
    unfold redeliveryUnder
    cases found : handler.policyFor failure with
    | none => exact own
    | some policy =>
        cases overridden : policy.redelivery with
        | none => simpa [overridden] using own
        | some redelivery =>
            have bounds := (each policy (chooses failure policy found)).2 redelivery overridden
            simpa [overridden] using bounds
  refine ⟨fun failure => (inForce failure).1, fun failure => (inForce failure).2, ?_⟩
  intro failure policy found
  exact (each policy (chooses failure policy found)).1

/-- A handler around a step that fails differently when it is tried again, with a policy for either
failure. -/
def wavering : ErrorHandler where
  rules :=
    { policies :=
        [{ accepts := fun failure => failure.display == "busy"
           redelivery := some { maximum := 3, pattern := some ⟨[]⟩ } },
         { accepts := fun failure => failure.display == "refused"
           redelivery := some { maximum := 1, pattern := some ⟨[]⟩ } }] }
  output := .ofFunction "wavering" fun exchange =>
    (exchange, some (.plain (if exchange.flag .redelivered then "refused" else "busy")))

theorem limited_wavering : wavering.Limited 3 := by
  apply limited_of_rules
  · intro failure policy found
    exact mem_of_innermost found
  · decide
  · intro policy listed
    simp only [wavering, List.mem_cons, List.not_mem_nil, or_false] at listed
    rcases listed with rfl | rfl <;> refine ⟨rfl, ?_⟩ <;> rintro redelivery ⟨⟩ <;> decide

/-- The first failure admits three redeliveries and the second one only one, so the pass ends with the
second attempt. -/
theorem attempts_limited_wavering :
    ∃ (history : History) (result : Exchange × Outcome),
      (wavering.observe fresh).Gives history result ∧
        (history.attempts fresh).length = 2 ∧ history.failures.length ≤ 4 ∧
        ∃ attempt, (history.attempts fresh)[1]? = some attempt ∧
          wavering.Stops 2 attempt.ended ∧ attempt.ended.exception.isSome = true := by
  have given := Logged.gives_alone (wavering.observe fresh) default
  have two : (History.attempts fresh ((wavering.observe fresh).alone default).1).length = 2 := by
    decide +kernel
  have failed : ((History.attempts fresh ((wavering.observe fresh).alone default).1)[1]?.any
      fun attempt => attempt.ended.exception.isSome) = true := by
    decide +kernel
  obtain ⟨_, _, passes⟩ := attempts_limited limited_wavering (by decide) fresh
  obtain ⟨_, few, _, _, _, ends⟩ := passes _ _ given
  obtain ⟨attempt, found, failed⟩ := (Option.any_eq_true ..).mp failed
  refine ⟨_, _, given, two, few, attempt, found, ?_, failed⟩
  exact (ends 1 attempt found).mpr two.symm

end ErrorHandler

end MessageRouting
