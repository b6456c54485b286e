import Mathlib
import MessageRouting.Proofs.Redelivery.Endings

/-!
# The law of redelivery runs

A step that fails a number of times and then succeeds is called once more than
the smaller of that number and the limit of redeliveries. The counter on the
exchange then tells how many of the calls were redeliveries.
-/

namespace MessageRouting

namespace RedeliveryPolicy

/-- The largest number of redeliveries; there is none if the maximum is negative. -/
def limit (policy : RedeliveryPolicy) : ℕ∞ :=
  if policy.maximum < 0 then ⊤ else policy.maximum.toNat

theorem allowsAttempt_iff (policy : RedeliveryPolicy) (attempt : Nat) :
    policy.allowsAttempt attempt = true ↔ (attempt : ℕ∞) ≤ policy.limit := by
  unfold allowsAttempt limit
  by_cases unlimited : policy.maximum < 0
  · simp [unlimited]
  · have within : (attempt : Int) ≤ policy.maximum ↔ attempt ≤ policy.maximum.toNat := by
      omega
    simp [unlimited, within]

end RedeliveryPolicy

namespace ErrorHandler

/-! ## Calls that leave the count alone -/

/-- A call leaves the counter of redeliveries alone and does not forbid further ones. -/
structure LeavesCount (visit : Visit) : Prop where
  counter : visit.after.known? .redeliveryCounter = visit.before.known? .redeliveryCounter
  unmarked : visit.before.isRollbackOnly = false → visit.after.isRollbackOnly = false

/-- The first `failures` calls of the step fail, with failures that no policy is meant for, and
those after them succeed. No call disturbs the count, and nothing fails before a redelivery. -/
structure FailsFirst (handler : ErrorHandler) (failures : ℕ∞) (history : History) : Prop where
  fails : ∀ (index : Nat) (visit : Visit), history.steps[index]? = some visit →
    (index : ℕ∞) < failures →
    ∃ failure, visit.after.exception = some failure ∧ failure.isFatal = false ∧
      handler.policyFor failure = none
  succeeds : ∀ (index : Nat) (visit : Visit), history.steps[index]? = some visit →
    failures ≤ index → visit.after.isFailed = false
  steps : ∀ visit ∈ history.steps, LeavesCount visit
  hooks : ∀ visit ∈ history.hooks, LeavesCount visit ∧ visit.after.exception = none

/-- What holds of a history holds of its beginning. -/
theorem FailsFirst.beginning {handler : ErrorHandler} {failures : ℕ∞} {first second : History}
    (fails : FailsFirst handler failures (first ++ second)) :
    FailsFirst handler failures first := by
  have found : ∀ (index : Nat) (visit : Visit), first.steps[index]? = some visit →
      (first ++ second : History).steps[index]? = some visit := by
    intro index visit called
    rw [History.steps_append]
    exact List.getElem?_append_left (List.getElem?_eq_some_iff.mp called).1 ▸ called
  refine ⟨?_, ?_, ?_, ?_⟩
  · intro index visit called
    exact fails.fails index visit (found index visit called)
  · intro index visit called
    exact fails.succeeds index visit (found index visit called)
  · intro visit called
    refine fails.steps visit ?_
    rw [History.steps_append]
    exact List.mem_append_left _ called
  · intro visit called
    refine fails.hooks visit ?_
    rw [History.hooks_append]
    exact List.mem_append_left _ called

theorem Prepared.leavesCount {preparation : Option Preparation} {exchange ready : Exchange}
    {history : History} (prepared : Prepared preparation exchange history ready)
    (unfailed : preparation = none → exchange.exception = none)
    (hooks : ∀ visit ∈ history.hooks, LeavesCount visit ∧ visit.after.exception = none) :
    ready.exception = none ∧ history.steps = [] ∧
      ready.known? .redeliveryCounter = exchange.known? .redeliveryCounter ∧
      (exchange.isRollbackOnly = false → ready.isRollbackOnly = false) := by
  cases prepared with
  | first => exact ⟨unfailed rfl, rfl, rfl, id⟩
  | unhooked delay =>
      refine ⟨rfl, rfl, ?_, ?_⟩
      · simp
      · rw [isRollbackOnly_cleared]
        exact id
  | hooked =>
      obtain ⟨leaves, sound⟩ := hooks _ (List.mem_singleton_self _)
      refine ⟨sound, rfl, ?_, ?_⟩
      · rw [leaves.counter]
        simp
      · rw [← isRollbackOnly_cleared exchange]
        exact leaves.unmarked

/-- An attempt calls the step once and leaves the count alone. -/
theorem Attempted.leavesCount {handler : ErrorHandler} {preparation : Option Preparation}
    {exchange after : Exchange} {history : History}
    (attempted : Attempted handler preparation exchange history after)
    (unfailed : preparation = none → exchange.exception = none)
    (steps : ∀ visit ∈ history.steps, LeavesCount visit)
    (hooks : ∀ visit ∈ history.hooks, LeavesCount visit ∧ visit.after.exception = none) :
    (∃ visit, history.steps = [visit] ∧ visit.after = after) ∧
      after.known? .redeliveryCounter = exchange.known? .redeliveryCounter ∧
      (exchange.isRollbackOnly = false → after.isRollbackOnly = false) := by
  cases attempted with
  | @ran ready _ before prepared =>
      rw [History.hooks_append] at hooks
      rw [History.steps_append] at steps ⊢
      have atFirst : ∀ visit ∈ before.hooks, LeavesCount visit ∧ visit.after.exception = none :=
        fun visit called => hooks visit (List.mem_append_left _ called)
      obtain ⟨_, uncalled, counter, unmarked⟩ := prepared.leavesCount unfailed atFirst
      have leaves : LeavesCount ⟨ready, after⟩ :=
        steps _ (List.mem_append_right _ (List.mem_singleton_self _))
      refine ⟨⟨⟨ready, after⟩, ?_, rfl⟩, leaves.counter.trans counter, ?_⟩
      · rw [uncalled]
        rfl
      · intro atStart
        exact leaves.unmarked (unmarked atStart)
  | withheld prepared failed =>
      rw [(prepared.leavesCount unfailed hooks).1] at failed
      contradiction

/-! ## The invariant of the attempts -/

/-- What holds before every attempt: each redelivery that was counted stands for a call that failed,
and the exchange tells their number. -/
structure Counting (handler : ErrorHandler) (failures : ℕ∞) (earlier : History)
    (standing : Standing) : Prop where
  calls : earlier.steps.length = standing.redeliveries
  within : (standing.redeliveries : ℕ∞) ≤ min failures handler.rules.redelivery.limit
  counter : standing.exchange.known? .redeliveryCounter = counterAfter standing.redeliveries
  unmarked : standing.exchange.isRollbackOnly = false
  unfailed : standing.preparation = none → standing.exchange.exception = none

/-- The call of the step that an attempt makes. -/
theorem Counting.call {handler : ErrorHandler} {failures : ℕ∞} {earlier history : History}
    {standing : Standing} {after : Exchange}
    (counting : Counting handler failures earlier standing)
    (fails : FailsFirst handler failures (earlier ++ history))
    (attempted : Attempted handler standing.preparation standing.exchange history after) :
    (((standing.redeliveries : ℕ∞) < failures ∧
        ∃ failure, after.exception = some failure ∧ failure.isFatal = false ∧
          handler.policyFor failure = none) ∨
      (failures = standing.redeliveries ∧ after.isFailed = false)) ∧
      history.steps.length = 1 ∧
      after.known? .redeliveryCounter = counterAfter standing.redeliveries ∧
      after.isRollbackOnly = false := by
  have steps : ∀ visit ∈ history.steps, LeavesCount visit := by
    intro visit called
    apply fails.steps
    rw [History.steps_append]
    exact List.mem_append_right _ called
  have hooks : ∀ visit ∈ history.hooks, LeavesCount visit ∧ visit.after.exception = none := by
    intro visit called
    apply fails.hooks
    rw [History.hooks_append]
    exact List.mem_append_right _ called
  obtain ⟨⟨visit, called, rfl⟩, counter, unmarked⟩ :=
    attempted.leavesCount counting.unfailed steps hooks
  have indexed : (earlier ++ history : History).steps[standing.redeliveries]? = some visit := by
    rw [History.steps_append, called, ← counting.calls]
    exact List.getElem?_concat_length
  refine ⟨?_, ?_, counter.trans counting.counter, unmarked counting.unmarked⟩
  · rcases lt_or_ge (standing.redeliveries : ℕ∞) failures with early | late
    · exact .inl ⟨early, fails.fails standing.redeliveries visit indexed early⟩
    · have same : failures = standing.redeliveries :=
        le_antisymm late (counting.within.trans (min_le_left _ _))
      exact .inr ⟨same, fails.succeeds standing.redeliveries visit indexed late⟩
  · rw [called]
    rfl

/-- Whether a failure that no policy is meant for is followed by a redelivery. -/
theorem mayRedeliver_iff {handler : ErrorHandler} {after : Exchange} {failure : Failure}
    {redeliveries : Nat}
    (unmarked : after.isRollbackOnly = false)
    (general : handler.policyFor failure = none) :
    handler.mayRedeliver (handler.policyFor failure)
        (counted (after.setCaught failure) (redeliveries + 1)) (redeliveries + 1) = true ↔
      ((redeliveries + 1 : Nat) : ℕ∞) ≤ handler.rules.redelivery.limit := by
  have counts : (counted (after.setCaught failure) (redeliveries + 1)).isRollbackOnly = false := by
    rw [isRollbackOnly_counted]
    exact unmarked
  rw [general, ← RedeliveryPolicy.allowsAttempt_iff, mayRedeliver, counts]
  rfl

theorem counting_outset {handler : ErrorHandler} {failures : ℕ∞} {exchange : Exchange}
    (unfailed : exchange.exception = none)
    (unmarked : exchange.isRollbackOnly = false)
    (uncounted : exchange.known? .redeliveryCounter = none) :
    Counting handler failures [] (outset exchange) where
  calls := rfl
  within := zero_le
  counter := uncounted
  unmarked := unmarked
  unfailed _ := unfailed

theorem Counting.step {handler : ErrorHandler} {failures : ℕ∞} {earlier moments : History}
    {standing next : Standing}
    (counting : Counting handler failures earlier standing)
    (fails : FailsFirst handler failures (earlier ++ moments))
    (retried : Retried handler standing moments next) :
    Counting handler failures (earlier ++ moments) next := by
  cases retried with
  | @caught chance countable redeliveries _ _ after history failure attempted failed mild allowed =>
      rw [← List.append_assoc] at fails
      obtain ⟨early | ⟨_, sound⟩, called, _, unmarked⟩ := counting.call fails.beginning attempted
      · obtain ⟨early, raised, failed', _, general⟩ := early
        rw [failed] at failed'
        obtain rfl := Option.some.inj failed'
        have allowed := (mayRedeliver_iff unmarked general).mp allowed
        refine ⟨?_, ?_, ?_, ?_, ?_⟩
        · rw [History.steps_append, History.steps_append, List.length_append, List.length_append,
            counting.calls, called]
          rfl
        · exact le_min (Order.add_one_le_of_lt early) allowed
        · simp [counterAfter]
        · rw [isRollbackOnly_counted]
          exact unmarked
        · intro unprepared
          contradiction
      · rw [Exchange.exception_of_completed sound] at failed
        contradiction

theorem Reached.counting {handler : ErrorHandler} {failures : ℕ∞} {exchange : Exchange}
    {earlier : History} {standing : Standing}
    (reached : Reached handler (outset exchange) earlier standing)
    (fails : FailsFirst handler failures earlier)
    (unfailed : exchange.exception = none)
    (unmarked : exchange.isRollbackOnly = false)
    (uncounted : exchange.known? .redeliveryCounter = none) :
    Counting handler failures earlier standing := by
  induction reached with
  | start => exact counting_outset unfailed unmarked uncounted
  | again _ retried inductionHypothesis =>
      exact (inductionHypothesis fails.beginning).step fails retried

/-! ## Whole runs -/

/-- Attempts stop after a failure that no policy is meant for only at the limit, as long as the
count suffices. -/
theorem limit_of_stopped {handler : ErrorHandler} {failures : ℕ∞} {earlier : History}
    {standing : Standing} {after : Exchange} {failure : Failure}
    (counting : Counting handler failures earlier standing)
    (bounded : standing.countable + standing.redeliveries = maximumCount)
    (early : (standing.redeliveries : ℕ∞) < failures)
    (unmarked : after.isRollbackOnly = false)
    (general : handler.policyFor failure = none)
    (stopped : standing.countable = 0 ∨
      handler.mayRedeliver (handler.policyFor failure)
        (counted (after.setCaught failure) (standing.redeliveries + 1))
        (standing.redeliveries + 1) = false)
    (countable : min failures handler.rules.redelivery.limit < 4294967296) :
    handler.rules.redelivery.limit = standing.redeliveries := by
  have reached : (standing.redeliveries : ℕ∞) ≤ handler.rules.redelivery.limit :=
    counting.within.trans (min_le_right _ _)
  rcases reached.lt_or_eq with further | same
  · have nextWithin : ((standing.redeliveries + 1 : Nat) : ℕ∞) ≤ handler.rules.redelivery.limit :=
      Order.add_one_le_of_lt further
    have nextEarly : ((standing.redeliveries + 1 : Nat) : ℕ∞) ≤ failures :=
      Order.add_one_le_of_lt early
    rcases stopped with spent | refused
    · have count : standing.redeliveries + 1 = 4294967296 := by
        unfold maximumCount at bounded
        omega
      rw [count] at nextWithin nextEarly
      exact absurd countable (not_lt_of_ge (le_min nextEarly nextWithin))
    · rw [(mayRedeliver_iff unmarked general).mpr nextWithin] at refused
      contradiction
  · exact same.symm

/-- The run law, seen from the last attempt. -/
theorem Closing.runLaw {handler : ErrorHandler} {failures : ℕ∞} {entry : Option Message}
    {earlier last : History} {standing : Standing} {after : Exchange} {outcome : Outcome}
    (closing : Closing handler entry standing last (after, outcome))
    (counting : Counting handler failures earlier standing)
    (underway : Underway earlier standing)
    (fails : FailsFirst handler failures (earlier ++ last))
    (countable : min failures handler.rules.redelivery.limit < 4294967296) :
    last.steps.length = 1 ∧
      (failures = standing.redeliveries ∧ outcome = .success standing.redeliveries ∧
          after.known? .redeliveryCounter = counterAfter standing.redeliveries ∧
          last.exhaustions = [] ∨
        handler.rules.redelivery.limit = standing.redeliveries ∧
          (standing.redeliveries : ℕ∞) < failures ∧
          ∃ failed failure, last.exhaustions = [ranOut failed failure standing.redeliveries] ∧
            ∀ property, property ≠ .errorHandlerHandled ∧ property ≠ .failureEndpoint →
              (∀ name visit, (name, visit) ∈ last.deliveries →
                visit.after.known? property = visit.before.known? property) →
              after.known? property =
                (ranOut failed failure standing.redeliveries).known? property) := by
  cases closing with
  | succeeded attempted unfailed =>
      obtain ⟨⟨_, _, failed, _⟩ | ⟨same, _⟩, called, counter, _⟩ := counting.call fails attempted
      · rw [unfailed] at failed
        contradiction
      · exact ⟨called, .inl ⟨same, rfl, counter, attempted.moments.2.1⟩⟩
  | faulted attempted unfailed fault =>
      obtain ⟨⟨_, _, failed, _⟩ | ⟨_, sound⟩, _⟩ := counting.call fails attempted
      · rw [unfailed] at failed
        contradiction
      · rw [fault] at sound
        contradiction
  | misconfigured attempted failed fatal =>
      rw [← List.append_assoc] at fails
      obtain ⟨⟨_, _, failed', mild, _⟩ | ⟨_, sound⟩, _⟩ :=
        counting.call fails.beginning attempted
      · rw [failed] at failed'
        obtain rfl := Option.some.inj failed'
        rw [fatal] at mild
        contradiction
      · rw [Exchange.exception_of_completed sound] at failed
        contradiction
  | @exhausted failed attempt rest failure _ attempted raised mild stopped ended =>
      rw [← List.append_assoc] at fails
      obtain ⟨⟨early, _, failed', _, general⟩ | ⟨_, sound⟩, called, _, unmarked⟩ :=
        counting.call fails.beginning attempted
      · rw [raised] at failed'
        obtain rfl := Option.some.inj failed'
        obtain ⟨noSteps, _, _, noExhaustions, _⟩ := ended.moments
        have limit := limit_of_stopped counting underway.bounded early unmarked general stopped
          countable
        refine ⟨?_, .inr ⟨limit, early, failed, failure, ?_, ?_⟩⟩
        · rw [History.steps_append, List.length_append, called]
          exact congrArg (1 + List.length ·) noSteps
        · rw [History.exhaustions_append, attempted.moments.2.1]
          exact congrArg (ranOut failed failure standing.redeliveries :: ·) noExhaustions
        · intro property other kept
          apply ended.known?_eq other
          intro name visit delivered
          apply kept
          rw [History.deliveries_append, attempted.moments.2.2.1]
          exact delivered
      · rw [Exchange.exception_of_completed sound] at raised
        contradiction

/-- A step that fails its first `failures` calls and then succeeds is called once more than the
smaller of that number and the limit of redeliveries. If the limit suffices, the pass succeeds after
as many redeliveries as there were failures, else the exhausted path is entered once, after as many
as the limit; both are what the counter tells. The count has 32 bits and must hold that number. -/
theorem redelivery_run {handler : ErrorHandler} {exchange after : Exchange} {history : History}
    {outcome : Outcome} {failures : ℕ∞}
    (given : (handler.observe exchange).Gives history (after, outcome))
    (completed : exchange.isFailed = false)
    (unmarked : exchange.isRollbackOnly = false)
    (uncounted : exchange.known? .redeliveryCounter = none)
    (fails : FailsFirst handler failures history)
    (countable : min failures handler.rules.redelivery.limit < 4294967296) :
    (handler.observe exchange).result = handler.handle exchange ∧
      (history.steps.length : ℕ∞) = min failures handler.rules.redelivery.limit + 1 ∧
      (failures ≤ handler.rules.redelivery.limit →
        ∃ number : Nat, failures = number ∧ outcome = .success number ∧
          history.exhaustions = [] ∧
          after.known? .redeliveryCounter = if number = 0 then none else some (.ofNat number)) ∧
      (handler.rules.redelivery.limit < failures →
        ∃ (number : Nat) (marked : Exchange), handler.rules.redelivery.limit = number ∧
          history.exhaustions = [marked] ∧
          marked.known? .redeliveryExhausted = some (.bool true) ∧
          (marked.known? .redeliveryCounter =
            if number = 0 then none else some (.ofNat number)) ∧
          (marked.known? .redelivered = if number = 0 then none else some (.bool true)) ∧
          ∀ property ∈ [Property.redeliveryExhausted, .redeliveryCounter, .redelivered],
            (∀ name visit, (name, visit) ∈ history.deliveries →
              visit.after.known? property = visit.before.known? property) →
            after.known? property = marked.known? property) := by
  refine ⟨handler.result_observe exchange, ?_⟩
  obtain ⟨earlier, standing, last, reached, closing, rfl⟩ := course_of_observe given
  have unfailed := Exchange.exception_of_completed completed
  have counting := reached.counting fails.beginning unfailed unmarked uncounted
  have underway := reached.underway
  obtain ⟨called, law⟩ := closing.runLaw counting underway fails countable
  have calls : (earlier ++ last : History).steps.length = standing.redeliveries + 1 := by
    rw [History.steps_append, List.length_append, counting.calls, called]
  rw [calls, History.exhaustions_append, History.deliveries_append, underway.unexhausted,
    underway.undelivered, List.nil_append, List.nil_append]
  rcases law with
    ⟨same, success, counter, noExhaustions⟩ | ⟨limit, early, failed, failure, once, kept⟩
  · have sufficient : failures ≤ handler.rules.redelivery.limit := by
      rw [same]
      exact counting.within.trans (min_le_right _ _)
    refine ⟨?_, ?_, ?_⟩
    · rw [min_eq_left sufficient, same]
      rfl
    · intro _
      exact ⟨standing.redeliveries, same, success, noExhaustions, counter⟩
    · intro insufficient
      exact absurd sufficient (not_le_of_gt insufficient)
  · have insufficient : handler.rules.redelivery.limit < failures := by
      rw [limit]
      exact early
    refine ⟨?_, ?_, ?_⟩
    · rw [min_eq_right insufficient.le, limit]
      rfl
    · intro sufficient
      exact absurd sufficient (not_le_of_gt insufficient)
    · intro _
      refine ⟨standing.redeliveries, ranOut failed failure standing.redeliveries, limit, once, ?_,
        ?_, ?_, ?_⟩
      · rw [known?_ranOut]
      · rw [known?_ranOut]
        rfl
      · rw [known?_ranOut]
      · intro property listed
        apply kept
        simp only [List.mem_cons, List.not_mem_nil, or_false] at listed
        rcases listed with rfl | rfl | rfl <;> simp

def recovering : ErrorHandler where
  rules := { redelivery := { maximum := 2, pattern := some ⟨[]⟩ } }
  output := .ofFunction "recovering" fun exchange =>
    (exchange, if exchange.flag .redelivered then none else some (.plain "refused"))

theorem recovering_call {before after : Exchange}
    (given : (recovering.output.invoke before).Gives after) :
    after = if before.flag .redelivered then before else before.fail (.plain "refused") := by
  have ended := Routine.gives_done.mp given
  rw [ended]
  cases before.flag .redelivered <;> rfl

theorem recovering_failsFirst :
    FailsFirst recovering 1 ((recovering.observe fresh).alone default).1 := by
  have flags : (History.steps ((recovering.observe fresh).alone default).1).map
      (fun visit => (visit.before.flag .redelivered, visit.before.isFailed)) =
        [(false, false), (true, false)] := by decide +kernel
  have hooks : History.hooks ((recovering.observe fresh).alone default).1 = [] := by
    apply List.isEmpty_iff.mp
    decide +kernel
  have calls := calls_of_observe (Logged.gives_alone (recovering.observe fresh) default)
  have flag : ∀ (index : Nat) (visit : Visit),
      (History.steps ((recovering.observe fresh).alone default).1)[index]? = some visit →
        [(false, false), (true, false)][index]? =
          some (visit.before.flag .redelivered, visit.before.isFailed) := by
    intro index visit called
    rw [← flags, List.getElem?_map, called]
    rfl
  refine ⟨?_, ?_, ?_, ?_⟩
  · intro index visit called early
    obtain rfl : index = 0 := Nat.lt_one_iff.mp (ENat.natCast_lt_natCast.mp early)
    obtain ⟨first, _⟩ := Prod.mk.inj (Option.some.inj (flag 0 visit called))
    have after := recovering_call (calls visit (List.mem_of_getElem? called))
    rw [← first] at after
    refine ⟨.plain "refused", ?_, rfl, rfl⟩
    rw [after]
    rfl
  · intro index visit called late
    have later : 1 ≤ index := ENat.natCast_le_natCast.mp late
    have after := recovering_call (calls visit (List.mem_of_getElem? called))
    have within : index < 2 := (List.getElem?_eq_some_iff.mp (flag index visit called)).1
    obtain rfl : index = 1 := by omega
    obtain ⟨redelivered, completed⟩ := Prod.mk.inj (Option.some.inj (flag 1 visit called))
    rw [← redelivered] at after
    rw [after]
    exact completed.symm
  · intro visit called
    have after := recovering_call (calls visit called)
    constructor
    · rw [after]
      split <;> rfl
    · rw [after]
      split <;> exact id
  · intro visit called
    rw [hooks] at called
    exact absurd called List.not_mem_nil

/-- A step that fails once is called twice, and the pass succeeds after one redelivery. -/
theorem redelivery_run_recovering :
    ∃ (history : History) (after : Exchange),
      (recovering.observe fresh).Gives history (after, .success 1) ∧
        (history.steps.length : ℕ∞) = 2 ∧ after.known? .redeliveryCounter = some (.ofNat 1) := by
  have limit : recovering.rules.redelivery.limit = 2 := by
    simp [RedeliveryPolicy.limit, recovering]
  have given := Logged.gives_alone (recovering.observe fresh) default
  obtain ⟨_, calls, success, _⟩ := redelivery_run given rfl (by decide +kernel) rfl
    recovering_failsFirst (by rw [limit]; decide)
  obtain ⟨number, once, outcome, _, counter⟩ := success (by rw [limit]; decide)
  obtain rfl : 1 = number := ENat.natCast_inj.mp once
  refine ⟨((recovering.observe fresh).alone default).1,
    ((recovering.observe fresh).alone default).2.1, ?_, ?_, counter⟩
  · rw [← outcome]
    exact given
  · rw [calls, limit]
    rfl

end ErrorHandler

end MessageRouting
