import MessageRouting.Proofs.Redelivery.Course

/-!
# How a pass through an error handler ends

The outcome of a pass says what its caller finds on the exchange. A dead letter
destination is called once at most, by the last moment of a pass.
-/

namespace MessageRouting

/-- The failure that an outcome says is left on the exchange. -/
def Outcome.failure? : Outcome → Option Failure
  | fatal failure => some failure
  | _ => none

namespace ErrorHandler

/-! ## Outcome and exception -/

theorem exception_conclusion (handler : ErrorHandler) (policy : Option ExceptionPolicy)
    (failure : Failure) (deliveredTo : Option String) (exchange : Exchange) :
    (handler.conclusion policy failure deliveredTo exchange).1.exception =
      (handler.conclusion policy failure deliveredTo exchange).2.failure? := by
  unfold conclusion
  split
  · cases deliveredTo <;> rfl
  · rfl

theorem Ended.exception_eq {handler : ErrorHandler} {policy : Option ExceptionPolicy}
    {failure : Failure} {entry : Option Message} {marked : Exchange} {history : History}
    {result : Exchange × Outcome}
    (ended : Ended handler policy failure entry marked history result) :
    result.1.exception = result.2.failure? := by
  cases ended with
  | unavailable => rfl
  | undelivered => exact exception_conclusion handler policy failure none marked
  | refused _ _ _ failed => exact failed
  | @delivered _ deadLetter after =>
      exact exception_conclusion handler policy failure (some deadLetter.name) after

theorem Closing.exception_eq {handler : ErrorHandler} {entry : Option Message} {standing : Standing}
    {history : History} {result : Exchange × Outcome}
    (closing : Closing handler entry standing history result) :
    result.1.exception = result.2.failure? := by
  cases closing with
  | succeeded _ unfailed => exact unfailed
  | faulted _ unfailed => exact unfailed
  | misconfigured _ failed => exact failed
  | exhausted _ _ _ _ ended => exact ended.exception_eq

/-! ## Properties after the exhausted path -/

theorem known?_conclusion (handler : ErrorHandler) (policy : Option ExceptionPolicy)
    (failure : Failure) (deliveredTo : Option String) (exchange : Exchange) {property : Property}
    (other : property ≠ .errorHandlerHandled) :
    (handler.conclusion policy failure deliveredTo exchange).1.known? property =
      exchange.known? property := by
  unfold conclusion
  split <;> simp [other]

/-- The exhausted path itself writes two properties; any other is left to the dead letter
destination. -/
theorem Ended.known?_eq {handler : ErrorHandler} {policy : Option ExceptionPolicy}
    {failure : Failure} {entry : Option Message} {marked : Exchange} {history : History}
    {result : Exchange × Outcome} {property : Property}
    (ended : Ended handler policy failure entry marked history result)
    (other : property ≠ .errorHandlerHandled ∧ property ≠ .failureEndpoint)
    (kept : ∀ name visit, (name, visit) ∈ history.deliveries →
      visit.after.known? property = visit.before.known? property) :
    result.1.known? property = marked.known? property := by
  obtain ⟨otherThanHandled, otherThanEndpoint⟩ := other
  cases ended with
  | unavailable => rfl
  | undelivered => exact known?_conclusion handler policy failure none marked otherThanHandled
  | refused =>
      have same := kept _ _ (List.mem_singleton_self _)
      rw [known?_forDeadLetter, if_neg otherThanEndpoint] at same
      exact same
  | delivered =>
      have same := kept _ _ (List.mem_singleton_self _)
      rw [known?_forDeadLetter, if_neg otherThanEndpoint] at same
      rw [known?_conclusion handler policy failure _ _ otherThanHandled]
      exact same

/-! ## Before the last attempt -/

/-- What holds of the moments before an attempt. -/
structure Underway (earlier : History) (standing : Standing) : Prop where
  undelivered : earlier.deliveries = []
  unexhausted : earlier.exhaustions = []
  mendable : ∀ failure ∈ earlier.failures, failure.isFatal = false
  tallied : earlier.redeliveries + standing.preparation.isSome.toNat = standing.redeliveries
  bounded : standing.countable + standing.redeliveries = maximumCount

theorem underway_outset (exchange : Exchange) : Underway [] (outset exchange) where
  undelivered := rfl
  unexhausted := rfl
  mendable := by simp [History.failures]
  tallied := rfl
  bounded := rfl

theorem Underway.step {handler : ErrorHandler} {earlier moments : History}
    {standing next : Standing} (underway : Underway earlier standing)
    (retried : Retried handler standing moments next) :
    Underway (earlier ++ moments) next := by
  obtain ⟨undelivered, unexhausted, mendable, tallied, bounded⟩ := underway
  cases retried with
  | caught chance countable attempted failed mild allowed =>
      obtain ⟨noFailures, noExhaustions, noDeliveries, redeliveries⟩ := attempted.moments
      refine ⟨?_, ?_, ?_, ?_, ?_⟩
      · rw [History.deliveries_append, History.deliveries_append, undelivered, noDeliveries]
        rfl
      · rw [History.exhaustions_append, History.exhaustions_append, unexhausted, noExhaustions]
        rfl
      · intro caught found
        rw [History.failures_append, History.failures_append, noFailures] at found
        rcases List.mem_append.mp found with before | now
        · exact mendable caught before
        · obtain rfl := List.mem_singleton.mp now
          exact mild
      · rw [History.redeliveries_append, History.redeliveries_append, redeliveries]
        exact congrArg (· + 1) tallied
      · simp only at bounded ⊢
        omega

theorem Reached.underway {handler : ErrorHandler} {exchange : Exchange} {earlier : History}
    {standing : Standing} (reached : Reached handler (outset exchange) earlier standing) :
    Underway earlier standing := by
  induction reached with
  | start => exact underway_outset exchange
  | again _ retried inductionHypothesis => exact inductionHypothesis.step retried

/-! ## Misconfigurations -/

theorem Closing.fatal {handler : ErrorHandler} {entry : Option Message} {standing : Standing}
    {history : History} {result : Exchange × Outcome} {failure : Failure}
    (closing : Closing handler entry standing history result)
    (caught : failure ∈ history.failures)
    (fatal : failure.isFatal = true) :
    result.2 = .fatal failure ∧ ∃ attempt : History,
      history = attempt ++ [.caught failure] ∧ attempt.deliveries = [] := by
  cases closing with
  | succeeded attempted => simp [attempted.moments.1] at caught
  | faulted attempted => simp [attempted.moments.1] at caught
  | @misconfigured _ attempt _ attempted =>
      rw [History.failures_append, attempted.moments.1] at caught
      obtain rfl := List.mem_singleton.mp caught
      exact ⟨rfl, attempt, rfl, attempted.moments.2.2.1⟩
  | exhausted attempted _ mild _ ended =>
      rw [History.failures_append, attempted.moments.1] at caught
      obtain ⟨_, _, noFailures, _⟩ := ended.moments
      rcases List.mem_cons.mp caught with rfl | later
      · rw [fatal] at mild
        contradiction
      · exact absurd later (List.eq_nil_iff_forall_not_mem.mp noFailures failure)

/-! ## Deliveries -/

/-- The exchange goes to the dead letter destination of the given name, with the failure taken off
and the bookkeeping complete. -/
structure Delivers (handler : ErrorHandler) (failure : Failure) (redeliveries : Nat)
    (name : String) (visit : Visit) : Prop where
  destination : ∃ broker deadLetter,
    handler.destination (handler.policyFor failure) broker = .ok (some deadLetter) ∧
      deadLetter.name = name ∧ (deadLetter.processor.invoke visit.before).Gives visit.after
  unfailed : visit.before.exception = none
  caught : visit.before.caught = some failure
  caughtText : visit.before.known? .exceptionCaught = some (.text failure.display)
  endpoint : visit.before.known? .failureEndpoint = some (.text name)
  exhausted : visit.before.known? .redeliveryExhausted = some (.bool true)
  counter : visit.before.known? .redeliveryCounter = counterAfter redeliveries

theorem delivers_of_invoke {handler : ErrorHandler} {failure : Failure} {entry : Option Message}
    {broker : Broker} {deadLetter : DeadLetterStep} {earlier after : Exchange} {redeliveries : Nat}
    (found : handler.destination (handler.policyFor failure) broker = .ok (some deadLetter))
    (ran : (deadLetter.processor.invoke
      (handler.forDeadLetter (handler.policyFor failure) entry deadLetter.name
        (ranOut earlier failure redeliveries))).Gives after) :
    handler.Delivers failure redeliveries deadLetter.name
      ⟨handler.forDeadLetter (handler.policyFor failure) entry deadLetter.name
        (ranOut earlier failure redeliveries), after⟩ where
  destination := ⟨broker, deadLetter, found, rfl, ran⟩
  unfailed := rfl
  caught := by simp
  caughtText := by simp [known?_ranOut]
  endpoint := by simp
  exhausted := by simp [known?_ranOut]
  counter := by simp [known?_ranOut]

/-- The exhausted path makes one delivery at most. -/
theorem Ended.delivery {handler : ErrorHandler} {failure : Failure} {entry : Option Message}
    {earlier : Exchange} {redeliveries : Nat} {history : History} {result : Exchange × Outcome}
    (ended : Ended handler (handler.policyFor failure) failure entry
      (ranOut earlier failure redeliveries) history result) :
    history = [] ∨ ∃ name visit,
      history = [.delivery name visit] ∧ handler.Delivers failure redeliveries name visit := by
  cases ended with
  | unavailable => exact .inl rfl
  | undelivered => exact .inl rfl
  | refused _ found ran => exact .inr ⟨_, _, rfl, delivers_of_invoke found ran⟩
  | delivered _ found ran => exact .inr ⟨_, _, rfl, delivers_of_invoke found ran⟩

/-- The moments after the last attempt end with the only delivery, if there is one. -/
theorem Closing.delivery {handler : ErrorHandler} {entry : Option Message} {standing : Standing}
    {history : History} {result : Exchange × Outcome}
    (closing : Closing handler entry standing history result) :
    history.deliveries = [] ∨
      ∃ (before : History) (failure : Failure) (name : String) (visit : Visit),
        history = before ++ [.delivery name visit] ∧ before.deliveries = [] ∧
          before.failures = [failure] ∧
          before.redeliveries = standing.preparation.isSome.toNat ∧
          handler.Delivers failure standing.redeliveries name visit := by
  cases closing with
  | succeeded attempted => exact .inl attempted.moments.2.2.1
  | faulted attempted => exact .inl attempted.moments.2.2.1
  | misconfigured attempted =>
      rw [History.deliveries_append, attempted.moments.2.2.1]
      exact .inl rfl
  | @exhausted after attempt rest failure _ attempted _ _ _ ended =>
      obtain ⟨noFailures, _, noDeliveries, redeliveries⟩ := attempted.moments
      rcases ended.delivery with rfl | ⟨name, visit, rfl, delivers⟩
      · rw [History.deliveries_append, noDeliveries]
        exact .inl rfl
      · refine .inr
          ⟨attempt ++ [.caught failure, .exhausted (ranOut after failure standing.redeliveries)],
            failure, name, visit, ?_, ?_, ?_, ?_, delivers⟩
        · simp
        · rw [History.deliveries_append, noDeliveries]
          rfl
        · rw [History.failures_append, noFailures]
          rfl
        · rw [History.redeliveries_append, redeliveries]
          rfl

/-! ## Whole passes -/

/-- The outcome of a pass names the failure that is left on the exchange. -/
theorem exception_of_observe {handler : ErrorHandler} {exchange after : Exchange}
    {history : History} {outcome : Outcome}
    (given : (handler.observe exchange).Gives history (after, outcome)) :
    after.exception = outcome.failure? := by
  obtain ⟨_, _, _, _, closing, _⟩ := course_of_observe given
  exact closing.exception_eq

/-- A misconfiguration ends a pass at the attempt that reports it. -/
theorem fatal_of_observe {handler : ErrorHandler} {exchange after : Exchange} {history : History}
    {outcome : Outcome} {failure : Failure}
    (given : (handler.observe exchange).Gives history (after, outcome))
    (caught : failure ∈ history.failures)
    (fatal : failure.isFatal = true) :
    outcome = .fatal failure ∧ ∃ earlier : History,
      history = earlier ++ [.caught failure] ∧ earlier.deliveries = [] := by
  obtain ⟨earlier, standing, last, reached, closing, rfl⟩ := course_of_observe given
  have underway := reached.underway
  rw [History.failures_append] at caught
  rcases List.mem_append.mp caught with before | now
  · have mild := underway.mendable failure before
    rw [fatal] at mild
    contradiction
  · obtain ⟨ended, attempt, rfl, noDeliveries⟩ := closing.fatal now fatal
    refine ⟨ended, earlier ++ attempt, (List.append_assoc ..).symm, ?_⟩
    rw [History.deliveries_append, underway.undelivered, noDeliveries]
    rfl

/-- A delivery is the last moment of a pass and reports the last failure with the number of
redeliveries that ran. -/
theorem delivery_of_observe {handler : ErrorHandler} {exchange after : Exchange}
    {history : History} {outcome : Outcome}
    (given : (handler.observe exchange).Gives history (after, outcome)) :
    history.deliveries = [] ∨
      ∃ (earlier : History) (failure : Failure) (name : String) (visit : Visit),
        history = earlier ++ [.delivery name visit] ∧ earlier.deliveries = [] ∧
          earlier.failures.getLast? = some failure ∧ earlier.redeliveries ≤ maximumCount ∧
          handler.Delivers failure earlier.redeliveries name visit := by
  obtain ⟨earlier, standing, last, reached, closing, rfl⟩ := course_of_observe given
  obtain ⟨undelivered, _, _, tallied, bounded⟩ := reached.underway
  rcases closing.delivery with
    none | ⟨before, failure, name, visit, rfl, first, caught, own, delivers⟩
  · left
    rw [History.deliveries_append, undelivered, none]
    rfl
  · right
    have count : (earlier ++ before : History).redeliveries = standing.redeliveries := by
      rw [History.redeliveries_append, own]
      exact tallied
    refine ⟨earlier ++ before, failure, name, visit, (List.append_assoc ..).symm, ?_, ?_, ?_, ?_⟩
    · rw [History.deliveries_append, undelivered, first]
      rfl
    · rw [History.failures_append, caught]
      simp
    · omega
    · rw [count]
      exact delivers

/-- The outcome of a pass is fatal exactly if its failure is left on the exchange. A misconfiguration
ends the pass where it is caught, without a delivery. A dead letter destination is called once at
most, last of all, with the bookkeeping of the last failure on an exchange that is not failed. -/
theorem outcome_and_delivery {handler : ErrorHandler} {exchange after : Exchange}
    {history : History} {outcome : Outcome}
    (given : (handler.observe exchange).Gives history (after, outcome)) :
    (handler.observe exchange).result = handler.handle exchange ∧
      (∀ failure, outcome = .fatal failure ↔ after.exception = some failure) ∧
      ((∀ failure, outcome ≠ .fatal failure) → after.exception = none) ∧
      (∀ failure ∈ history.failures, failure.isFatal = true →
        outcome = .fatal failure ∧ ∃ earlier : History,
          history = earlier ++ [.caught failure] ∧ earlier.deliveries = []) ∧
      history.deliveries.length ≤ 1 ∧
      ∀ name visit, (name, visit) ∈ history.deliveries →
        ∃ (earlier : History) (failure : Failure),
          history = earlier ++ [.delivery name visit] ∧
            earlier.failures.getLast? = some failure ∧
            handler.Delivers failure earlier.redeliveries name visit ∧
            visit.before.redeliveryCount.toInt = earlier.redeliveries := by
  have exception := exception_of_observe given
  refine ⟨handler.result_observe exchange, ?_, ?_, ?_, ?_, ?_⟩
  · intro failure
    rw [exception]
    cases outcome <;> simp [Outcome.failure?]
  · intro other
    rw [exception]
    cases outcome with
    | fatal failure => exact absurd rfl (other failure)
    | _ => rfl
  · intro failure caught fatal
    exact fatal_of_observe given caught fatal
  · rcases delivery_of_observe given with none | ⟨earlier, _, _, _, rfl, first, _⟩
    · rw [none]
      exact Nat.zero_le 1
    · rw [History.deliveries_append, first]
      exact Nat.le_refl 1
  · intro name visit delivered
    rcases delivery_of_observe given with
      none | ⟨earlier, failure, name', visit', rfl, first, last, bounded, delivers⟩
    · rw [none] at delivered
      contradiction
    · rw [History.deliveries_append, first] at delivered
      obtain ⟨rfl, rfl⟩ := Prod.mk.inj (List.mem_singleton.mp delivered)
      exact ⟨earlier, failure, rfl, last, delivers,
        redeliveryCount_of_counter delivers.counter bounded⟩

/-- An exchange that has not been through any step. -/
def fresh : Exchange where
  id := default
  context := default
  inbound := { id := "message" }

/-- A handler around a step that never succeeds, with one redelivery and a dead letter
destination. -/
def persistent : ErrorHandler where
  rules :=
    { kind := .deadLetterChannel
      deadLetter := some ⟨"graveyard", .ofFunction "graveyard" fun exchange => (exchange, none)⟩
      redelivery := { maximum := 1, pattern := some ⟨[]⟩ } }
  output := .ofFunction "persistent" fun exchange => (exchange, some (.plain "refused"))

/-- A step that never succeeds leads to one delivery, after one redelivery. -/
theorem outcome_and_delivery_persistent :
    ∃ (history : History) (after : Exchange) (outcome : Outcome) (name : String) (visit : Visit),
      (persistent.observe fresh).Gives history (after, outcome) ∧ after.exception = none ∧
        history.deliveries = [(name, visit)] ∧ visit.before.exception = none ∧
        visit.before.redeliveryCount.toInt = 1 := by
  have given := Logged.gives_alone (persistent.observe fresh) default
  obtain ⟨_, _, unfailed, _, _, delivered⟩ := outcome_and_delivery given
  have once : (History.deliveries ((persistent.observe fresh).alone default).1).length = 1 := by
    decide +kernel
  have redelivered : History.redeliveries ((persistent.observe fresh).alone default).1 = 1 := by
    decide +kernel
  have success : ((persistent.observe fresh).alone default).2.2.isSuccess = true := by
    decide +kernel
  obtain ⟨⟨name, visit⟩, only⟩ := List.length_eq_one_iff.mp once
  obtain ⟨earlier, failure, whole, _, delivers, count⟩ :=
    delivered name visit (only ▸ List.mem_singleton_self _)
  refine ⟨_, _, _, name, visit, given, ?_, only, delivers.unfailed, ?_⟩
  · apply unfailed
    intro failure fatal
    rw [fatal] at success
    contradiction
  · rw [count]
    rw [whole, History.redeliveries_append] at redelivered
    exact congrArg Nat.cast redelivered

end ErrorHandler

end MessageRouting
