import MessageRouting.Proofs.Redelivery.Endings

/-!
# Faults that are left when a pass ends

A pass takes failures off the exchange, never a fault of the last call: declaring
a failure handled leaves the active message as the last processor left it. So a
successful outcome comes with a failed exchange exactly where that message
reports a fault.
-/

namespace MessageRouting

def Outcome.isDeclared : Outcome → Bool
  | handled | deadLettered _ => true
  | _ => false

theorem Outcome.isSuccess_of_isDeclared {outcome : Outcome} (declared : outcome.isDeclared = true) :
    outcome.isSuccess = true ∧ outcome.failure? = none := by
  cases outcome with
  | handled => exact ⟨rfl, rfl⟩
  | deadLettered => exact ⟨rfl, rfl⟩
  | _ => contradiction

namespace ErrorHandler

/-! ## The active message -/

theorem activeMessage_conclusion (handler : ErrorHandler) (policy : Option ExceptionPolicy)
    (failure : Failure) (deliveredTo : Option String) (exchange : Exchange) :
    (handler.conclusion policy failure deliveredTo exchange).1.activeMessage =
      exchange.activeMessage := by
  unfold conclusion
  split <;> rfl

/-- The exhausted path ends with the active message that a delivery left, or that it found. -/
theorem Ended.activeMessage_eq {handler : ErrorHandler} {policy : Option ExceptionPolicy}
    {failure : Failure} {entry : Option Message} {marked : Exchange} {history : History}
    {result : Exchange × Outcome}
    (ended : Ended handler policy failure entry marked history result) :
    (history.visits = [] ∧ result.1.activeMessage = marked.activeMessage) ∨
      ∃ visit, history.visits = [visit] ∧
        result.1.activeMessage = visit.after.activeMessage := by
  cases ended with
  | unavailable => exact .inl ⟨rfl, rfl⟩
  | undelivered => exact .inl ⟨rfl, activeMessage_conclusion handler policy failure none marked⟩
  | refused => exact .inr ⟨_, rfl, rfl⟩
  | @delivered _ deadLetter after =>
      exact .inr ⟨_, rfl,
        activeMessage_conclusion handler policy failure (some deadLetter.name) after⟩

/-- An attempt ends with the call of the step, or with a failure of what runs before it. -/
theorem Attempted.last_visit {handler : ErrorHandler} {preparation : Option Preparation}
    {exchange after : Exchange} {history : History}
    (attempted : Attempted handler preparation exchange history after)
    (unfailed : preparation = none → exchange.exception = none) :
    ∃ visit, history.visits.getLast? = some visit ∧ visit.after = after := by
  cases attempted with
  | @ran ready _ before =>
      have visits : (before ++ [.step ⟨ready, after⟩] : History).visits =
          before.visits ++ [⟨ready, after⟩] :=
        History.visits_append before [.step ⟨ready, after⟩]
      rw [visits]
      exact ⟨_, List.getLast?_concat, rfl⟩
  | withheld prepared failed =>
      cases prepared with
      | first =>
          rw [unfailed rfl] at failed
          contradiction
      | unhooked => contradiction
      | hooked => exact ⟨_, rfl, rfl⟩

theorem Reached.first {handler : ErrorHandler} {exchange : Exchange} {earlier : History}
    {standing : Standing} (reached : Reached handler (outset exchange) earlier standing)
    (unprepared : standing.preparation = none) :
    standing.exchange = exchange := by
  cases reached with
  | start => rfl
  | again _ retried =>
      cases retried
      contradiction

/-- The last attempt and what follows it leave the active message of the last call. -/
theorem Closing.activeMessage_eq {handler : ErrorHandler} {entry : Option Message} {standing : Standing}
    {history : History} {result : Exchange × Outcome}
    (closing : Closing handler entry standing history result)
    (unfailed : standing.preparation = none → standing.exchange.exception = none) :
    ∃ visit, history.visits.getLast? = some visit ∧
      result.1.activeMessage = visit.after.activeMessage := by
  cases closing with
  | succeeded attempted =>
      obtain ⟨visit, last, rfl⟩ := attempted.last_visit unfailed
      exact ⟨visit, last, rfl⟩
  | faulted attempted =>
      obtain ⟨visit, last, rfl⟩ := attempted.last_visit unfailed
      exact ⟨visit, last, rfl⟩
  | misconfigured attempted =>
      obtain ⟨visit, last, rfl⟩ := attempted.last_visit unfailed
      refine ⟨visit, ?_, Exchange.activeMessage_setCaught visit.after _⟩
      rw [History.visits_append]
      simpa [History.visits] using last
  | @exhausted after attempt rest failure _ attempted _ _ _ ended =>
      obtain ⟨visit, last, rfl⟩ := attempted.last_visit unfailed
      have visits : (attempt ++ .caught failure ::
          .exhausted (ranOut visit.after failure standing.redeliveries) :: rest : History).visits =
            attempt.visits ++ rest.visits :=
        History.visits_append attempt (_ :: _ :: rest)
      rw [visits]
      rcases ended.activeMessage_eq with ⟨none, same⟩ | ⟨delivery, only, same⟩
      · refine ⟨visit, ?_, ?_⟩
        · rw [none, List.append_nil]
          exact last
        · rw [same, activeMessage_ranOut]
      · refine ⟨delivery, ?_, same⟩
        rw [only]
        exact List.getLast?_concat

/-! ## Outcome and fault -/

theorem outcome_conclusion (handler : ErrorHandler) (policy : Option ExceptionPolicy)
    (failure : Failure) (deliveredTo : Option String) (exchange : Exchange) :
    (handler.conclusion policy failure deliveredTo exchange).2.isDeclared = true ∨
      (handler.conclusion policy failure deliveredTo exchange).2 = .fatal failure := by
  unfold conclusion
  split
  · left
    cases deliveredTo <;> rfl
  · exact .inr rfl

/-- The exhausted path declares a failure handled or leaves one on the exchange. -/
theorem Ended.outcome {handler : ErrorHandler} {policy : Option ExceptionPolicy}
    {failure : Failure} {entry : Option Message} {marked : Exchange} {history : History}
    {result : Exchange × Outcome}
    (ended : Ended handler policy failure entry marked history result) :
    result.2.isDeclared = true ∨ ∃ left, result.2 = .fatal left := by
  cases ended with
  | unavailable => exact .inr ⟨_, rfl⟩
  | undelivered =>
      rcases outcome_conclusion handler policy failure none marked with declared | fatal
      · exact .inl declared
      · exact .inr ⟨failure, fatal⟩
  | refused => exact .inr ⟨_, rfl⟩
  | @delivered _ deadLetter after =>
      rcases outcome_conclusion handler policy failure (some deadLetter.name) after with
        declared | fatal
      · exact .inl declared
      · exact .inr ⟨failure, fatal⟩

/-- Unless its failure is declared handled, the outcome of a pass agrees with the exchange. -/
theorem Closing.isFailed_eq {handler : ErrorHandler} {entry : Option Message} {standing : Standing}
    {history : History} {result : Exchange × Outcome}
    (closing : Closing handler entry standing history result)
    (undeclared : result.2.isDeclared = false) :
    result.1.isFailed = !result.2.isSuccess := by
  cases closing with
  | succeeded _ _ sound => exact sound
  | faulted _ _ fault => exact fault
  | misconfigured _ failed => exact Exchange.isFailed_of_exception failed
  | exhausted _ _ _ _ ended =>
      rcases ended.outcome with declared | ⟨left, fatal⟩
      · rw [undeclared] at declared
        contradiction
      · have exception := ended.exception_eq
        rw [fatal] at exception ⊢
        exact Exchange.isFailed_of_exception exception

/-- The outcome of a pass is a success exactly if the exchange is not failed, except where a failure
was declared handled and the last call left a message that reports a fault. -/
theorem isSuccess_iff_completed {handler : ErrorHandler} {exchange after : Exchange}
    {history : History} {outcome : Outcome}
    (given : (handler.observe exchange).Gives history (after, outcome))
    (unfailed : exchange.exception = none) :
    (handler.observe exchange).result = handler.handle exchange ∧
      ∃ last, history.visits.getLast? = some last ∧
        ((outcome.isSuccess = true ↔ after.isFailed = false) ↔
          ¬(outcome.isDeclared = true ∧ last.after.activeMessage.isFault = true)) := by
  obtain ⟨earlier, standing, final, reached, closing, rfl⟩ := course_of_observe given
  have ready : standing.preparation = none → standing.exchange.exception = none := by
    intro unprepared
    rw [reached.first unprepared]
    exact unfailed
  obtain ⟨last, found, message⟩ := closing.activeMessage_eq ready
  refine ⟨handler.result_observe exchange, last, ?_, ?_⟩
  · rw [History.visits_append, List.getLast?_append, found]
    rfl
  · cases declared : outcome.isDeclared with
    | false =>
        have agrees : after.isFailed = !outcome.isSuccess := closing.isFailed_eq declared
        simp [agrees]
    | true =>
        obtain ⟨success, noFailure⟩ := Outcome.isSuccess_of_isDeclared declared
        have exception : after.exception = none := closing.exception_eq.trans noFailure
        have failed : after.isFailed = last.after.activeMessage.isFault := by
          rw [Exchange.isFailed_of_unfailed exception]
          exact congrArg Message.isFault message
        simp [failed, success]

/-- A handler around a step that leaves a fault message and fails, with the failure declared
handled. -/
def disguising : ErrorHandler where
  rules := { handled := some fun _ => true, redelivery := { pattern := some ⟨[]⟩ } }
  output := .ofFunction "disguising" fun exchange =>
    (exchange.setFault { id := "fault" }, some (.plain "refused"))

/-- The outcome of this pass is a success, and the exchange is failed. -/
theorem disguising_fault :
    fresh.isFailed = false ∧ ((disguising.handle fresh).run default).1.2.isSuccess = true ∧
      ((disguising.handle fresh).run default).1.1.isFailed = true := by
  decide +kernel

theorem isSuccess_iff_completed_disguising :
    ∃ (history : History) (after : Exchange) (outcome : Outcome),
      (disguising.observe fresh).Gives history (after, outcome) ∧
        ¬(outcome.isSuccess = true ↔ after.isFailed = false) := by
  have given := Logged.gives_alone (disguising.observe fresh) default
  obtain ⟨_, last, found, agrees⟩ := isSuccess_iff_completed given rfl
  have fault : (History.visits ((disguising.observe fresh).alone default).1).getLast?.any
      (fun visit => visit.after.activeMessage.isFault) = true := by
    decide +kernel
  rw [found] at fault
  refine ⟨_, _, _, given, ?_⟩
  rw [agrees, Classical.not_not]
  exact ⟨by decide +kernel, fault⟩

end ErrorHandler

end MessageRouting
