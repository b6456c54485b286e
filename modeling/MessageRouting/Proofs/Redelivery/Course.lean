import MessageRouting.Proofs.Exchange.Bookkeeping
import MessageRouting.Proofs.Redelivery.History

/-!
# The course of a pass through an error handler

The ways in which a pass can go, as rules: how an attempt is prepared and made,
what follows it, and how the exhausted path ends. Every run of an error handler
with its history is derived by these rules, so what they preserve holds of every
pass.
-/

namespace MessageRouting

namespace ErrorHandler

/-- An attempt is made ready: the exchange at first, the history, the exchange then. -/
inductive Prepared : Option Preparation → Exchange → History → Exchange → Prop
  | first (exchange : Exchange) : Prepared none exchange [] exchange
  | unhooked (delay : Duration) (exchange : Exchange) :
      Prepared (some ⟨delay, none⟩) exchange [.redelivery delay] (cleared exchange)
  | hooked (delay : Duration) {hook : Processor} {exchange after : Exchange} :
      (hook.invoke (cleared exchange)).Gives after →
      Prepared (some ⟨delay, some hook⟩) exchange
        [.redelivery delay, .hook ⟨cleared exchange, after⟩] after

/-- An attempt is made. A preparation that failed takes the place of the step. -/
inductive Attempted (handler : ErrorHandler) :
    Option Preparation → Exchange → History → Exchange → Prop
  | ran {preparation : Option Preparation} {exchange ready after : Exchange} {history : History} :
      Prepared preparation exchange history ready →
      ready.exception = none →
      (handler.output.invoke ready).Gives after →
      Attempted handler preparation exchange (history ++ [.step ⟨ready, after⟩]) after
  | withheld {preparation : Option Preparation} {exchange ready : Exchange} {history : History}
      {failure : Failure} :
      Prepared preparation exchange history ready →
      ready.exception = some failure →
      Attempted handler preparation exchange history ready

/-- An attempt catches nothing and delivers nothing. -/
theorem Attempted.moments {handler : ErrorHandler} {preparation : Option Preparation}
    {exchange after : Exchange} {history : History}
    (attempted : Attempted handler preparation exchange history after) :
    history.failures = [] ∧ history.exhaustions = [] ∧ history.deliveries = [] ∧
      history.redeliveries = preparation.isSome.toNat := by
  cases attempted with
  | ran prepared =>
      cases prepared <;>
        simp [History.failures, History.exhaustions, History.deliveries, History.redeliveries]
  | withheld prepared =>
      cases prepared <;>
        simp [History.failures, History.exhaustions, History.deliveries, History.redeliveries]

theorem Prepared.steps_eq {preparation : Option Preparation} {exchange ready : Exchange}
    {history : History} (prepared : Prepared preparation exchange history ready) :
    history.steps = [] := by
  cases prepared <;> rfl

/-- What is recorded as a call of the step is one. -/
theorem Attempted.calls {handler : ErrorHandler} {preparation : Option Preparation}
    {exchange after : Exchange} {history : History}
    (attempted : Attempted handler preparation exchange history after) :
    ∀ visit ∈ history.steps, (handler.output.invoke visit.before).Gives visit.after := by
  cases attempted with
  | ran prepared _ ran =>
      intro visit called
      rw [History.steps_append, prepared.steps_eq] at called
      obtain rfl := List.mem_singleton.mp called
      exact ran
  | withheld prepared =>
      intro visit called
      rw [prepared.steps_eq] at called
      contradiction

def conclusion (handler : ErrorHandler) (policy : Option ExceptionPolicy) (failure : Failure)
    (deliveredTo : Option String) (exchange : Exchange) : Exchange × Outcome :=
  if handler.isHandled policy exchange then
    (exchange.clearException.put .errorHandlerHandled (.bool true),
      match deliveredTo with
      | some endpoint => .deadLettered endpoint
      | none => .handled)
  else ((exchange.put .errorHandlerHandled (.bool false)).setException failure, .fatal failure)

/-- The exhausted path goes on from an exchange that is marked. -/
inductive Ended (handler : ErrorHandler) (policy : Option ExceptionPolicy) (failure : Failure)
    (entry : Option Message) (marked : Exchange) : History → Exchange × Outcome → Prop
  | unavailable (broker : Broker) {missing : Failure} :
      handler.destination policy broker = .error missing →
      Ended handler policy failure entry marked [] (marked.setException missing, .fatal missing)
  | undelivered (broker : Broker) :
      handler.destination policy broker = .ok none →
      Ended handler policy failure entry marked [] (handler.conclusion policy failure none marked)
  | refused (broker : Broker) {deadLetter : DeadLetterStep} {after : Exchange} {failed : Failure} :
      handler.destination policy broker = .ok (some deadLetter) →
      (deadLetter.processor.invoke
        (handler.forDeadLetter policy entry deadLetter.name marked)).Gives after →
      after.exception = some failed →
      Ended handler policy failure entry marked
        [.delivery deadLetter.name
          ⟨handler.forDeadLetter policy entry deadLetter.name marked, after⟩]
        (after, .fatal failed)
  | delivered (broker : Broker) {deadLetter : DeadLetterStep} {after : Exchange} :
      handler.destination policy broker = .ok (some deadLetter) →
      (deadLetter.processor.invoke
        (handler.forDeadLetter policy entry deadLetter.name marked)).Gives after →
      after.exception = none →
      Ended handler policy failure entry marked
        [.delivery deadLetter.name
          ⟨handler.forDeadLetter policy entry deadLetter.name marked, after⟩]
        (handler.conclusion policy failure (some deadLetter.name) after)

/-- The exhausted path runs no attempt and catches nothing. -/
theorem Ended.moments {handler : ErrorHandler} {policy : Option ExceptionPolicy}
    {failure : Failure} {entry : Option Message} {marked : Exchange} {history : History}
    {result : Exchange × Outcome}
    (ended : Ended handler policy failure entry marked history result) :
    history.steps = [] ∧ history.hooks = [] ∧ history.failures = [] ∧ history.exhaustions = [] ∧
      history.redeliveries = 0 := by
  cases ended <;> exact ⟨rfl, rfl, rfl, rfl, rfl⟩

def ranOut (after : Exchange) (failure : Failure) (redeliveries : Nat) : Exchange :=
  markedExhausted (settled (counted (after.setCaught failure) (redeliveries + 1)) redeliveries)

theorem known?_ranOut (after : Exchange) (failure : Failure) (redeliveries : Nat)
    (property : Property) :
    (ranOut after failure redeliveries).known? property =
      match property with
      | .redeliveryExhausted | .failureHandled => some (.bool true)
      | .redeliveryCounter => counterAfter redeliveries
      | .redelivered => if redeliveries = 0 then none else some (.bool true)
      | .exceptionCaught => some (.text failure.display)
      | property => after.known? property := by
  unfold ranOut markedExhausted
  cases property <;> simp

@[simp]
theorem caught_ranOut (after : Exchange) (failure : Failure) (redeliveries : Nat) :
    (ranOut after failure redeliveries).caught = some failure := by
  simp [ranOut, markedExhausted]

@[simp]
theorem activeMessage_ranOut (after : Exchange) (failure : Failure) (redeliveries : Nat) :
    (ranOut after failure redeliveries).activeMessage = after.activeMessage := by
  simp [ranOut, markedExhausted]

/-- Where a pass stands before an attempt: the redeliveries that can still be counted, those that
were, this attempt among them, and what precedes it. -/
structure Standing where
  countable : Nat
  redeliveries : Nat
  preparation : Option Preparation
  exchange : Exchange

/-- An attempt failed, and the pass goes on with a redelivery. -/
inductive Retried (handler : ErrorHandler) : Standing → History → Standing → Prop
  | caught (chance countable : Nat) {redeliveries : Nat} {preparation : Option Preparation}
      {exchange after : Exchange} {history : History} {failure : Failure} :
      Attempted handler preparation exchange history after →
      after.exception = some failure →
      failure.isFatal = false →
      handler.mayRedeliver (handler.policyFor failure)
        (counted (after.setCaught failure) (redeliveries + 1)) (redeliveries + 1) = true →
      Retried handler ⟨countable + 1, redeliveries, preparation, exchange⟩
        (history ++ [.caught failure])
        ⟨countable, redeliveries + 1,
          some
            ⟨(handler.redeliveryUnder (handler.policyFor failure)).delayFor (redeliveries + 1)
                chance,
              handler.hookUnder (handler.policyFor failure)⟩,
          counted (after.setCaught failure) (redeliveries + 1)⟩

/-- The attempts before the last one. -/
inductive Reached (handler : ErrorHandler) (start : Standing) : History → Standing → Prop
  | start : Reached handler start [] start
  | again {standing next : Standing} {earlier moments : History} :
      Reached handler start earlier standing →
      Retried handler standing moments next →
      Reached handler start (earlier ++ moments) next

/-- The last attempt of a pass and what follows it. -/
inductive Closing (handler : ErrorHandler) (entry : Option Message) (standing : Standing) :
    History → Exchange × Outcome → Prop
  | succeeded {after : Exchange} {history : History} :
      Attempted handler standing.preparation standing.exchange history after →
      after.exception = none →
      after.isFailed = false →
      Closing handler entry standing history (after, .success standing.redeliveries)
  | faulted {after : Exchange} {history : History} :
      Attempted handler standing.preparation standing.exchange history after →
      after.exception = none →
      after.isFailed = true →
      Closing handler entry standing history (after, .fault)
  | misconfigured {after : Exchange} {history : History} {failure : Failure} :
      Attempted handler standing.preparation standing.exchange history after →
      after.exception = some failure →
      failure.isFatal = true →
      Closing handler entry standing (history ++ [.caught failure])
        (after.setCaught failure, .fatal failure)
  | exhausted {after : Exchange} {history rest : History} {failure : Failure}
      {result : Exchange × Outcome} :
      Attempted handler standing.preparation standing.exchange history after →
      after.exception = some failure →
      failure.isFatal = false →
      (standing.countable = 0 ∨
        handler.mayRedeliver (handler.policyFor failure)
          (counted (after.setCaught failure) (standing.redeliveries + 1))
          (standing.redeliveries + 1) = false) →
      Ended handler (handler.policyFor failure) failure entry
        (ranOut after failure standing.redeliveries) rest result →
      Closing handler entry standing
        (history ++ .caught failure ::
          .exhausted (ranOut after failure standing.redeliveries) :: rest)
        result

theorem Reached.head {handler : ErrorHandler} {start next reached : Standing}
    {moments rest : History} (retried : Retried handler start moments next)
    (reachedLater : Reached handler next rest reached) :
    Reached handler start (moments ++ rest) reached := by
  induction reachedLater with
  | start => simpa using Reached.again .start retried
  | again _ last inductionHypothesis =>
      rw [← List.append_assoc]
      exact .again inductionHypothesis last

/-! ## Every run takes such a course -/

theorem prepared_of_gives {preparation : Preparation} {exchange after : Exchange}
    {history : History} (given : (observePrepare preparation exchange).Gives history after) :
    Prepared (some preparation) exchange history after := by
  obtain ⟨delay, hook⟩ := preparation
  obtain ⟨rest, waited, rfl⟩ := Logged.gives_log_bind.mp given
  obtain ⟨_, _, hooked⟩ := Logged.gives_lift_bind.mp waited
  cases hook with
  | none =>
      obtain ⟨rfl, rfl⟩ := Logged.gives_pure.mp hooked
      exact .unhooked delay exchange
  | some hook =>
      obtain ⟨after, ran, called⟩ := Logged.gives_lift_bind.mp hooked
      obtain ⟨_, left, rfl⟩ := Logged.gives_log_bind.mp called
      obtain ⟨rfl, rfl⟩ := Logged.gives_pure.mp left
      exact .hooked delay ran

theorem attempted_of_prepared {handler : ErrorHandler} {preparation : Option Preparation}
    {exchange ready after : Exchange} {before rest : History}
    (prepared : Prepared preparation exchange before ready)
    (given : (handler.observeStep ready).Gives rest after) :
    Attempted handler preparation exchange (before ++ rest) after := by
  unfold observeStep at given
  cases failed : ready.exception with
  | none =>
      rw [failed] at given
      obtain ⟨_, ran, called⟩ := Logged.gives_lift_bind.mp given
      obtain ⟨_, left, rfl⟩ := Logged.gives_log_bind.mp called
      obtain ⟨rfl, rfl⟩ := Logged.gives_pure.mp left
      exact .ran prepared failed ran
  | some failure =>
      rw [failed] at given
      obtain ⟨rfl, rfl⟩ := Logged.gives_pure.mp given
      rw [List.append_nil]
      exact .withheld prepared failed

theorem attempted_of_gives {handler : ErrorHandler} {preparation : Option Preparation}
    {exchange after : Exchange} {history : History}
    (given : (handler.observeAttempt preparation exchange).Gives history after) :
    Attempted handler preparation exchange history after := by
  cases preparation with
  | none => exact attempted_of_prepared (.first exchange) given
  | some preparation =>
      obtain ⟨before, ready, rest, prepared, stepped, rfl⟩ := Logged.gives_bind.mp given
      exact attempted_of_prepared (prepared_of_gives prepared) stepped

theorem conclude_gives {handler : ErrorHandler} {policy : Option ExceptionPolicy}
    {failure : Failure} {deliveredTo : Option String} {exchange : Exchange}
    {result : Exchange × Outcome}
    (given : (handler.conclude policy failure deliveredTo exchange).Gives result) :
    result = handler.conclusion policy failure deliveredTo exchange := by
  unfold conclude at given
  unfold conclusion
  by_cases handled : handler.isHandled policy exchange
  · rw [if_pos handled] at given ⊢
    cases logged : (handler.redeliveryUnder policy).logHandled with
    | true =>
        rw [if_pos logged] at given
        obtain ⟨_, _, counted⟩ := Routine.gives_bind.mp given
        obtain ⟨_, _, ended⟩ := Routine.gives_bind.mp counted
        exact Routine.gives_pure.mp ended
    | false =>
        rw [if_neg (Bool.eq_false_iff.mp logged)] at given
        obtain ⟨_, _, ended⟩ := Routine.gives_bind.mp given
        exact Routine.gives_pure.mp ended
  · rw [if_neg handled] at given ⊢
    exact Routine.gives_pure.mp given

theorem ended_of_deliver {handler : ErrorHandler} {policy : Option ExceptionPolicy}
    {failure : Failure} {entry : Option Message} {deadLetter : DeadLetterStep} {marked : Exchange}
    {history : History} {result : Exchange × Outcome} (broker : Broker)
    (found : handler.destination policy broker = .ok (some deadLetter))
    (given : (handler.observeDeliver policy failure entry deadLetter marked).Gives history result) :
    Ended handler policy failure entry marked history result := by
  simp only [observeDeliver, Logged.gives_lift_bind, Logged.gives_log_bind] at given
  obtain ⟨after, ran, rest, ended, rfl⟩ := given
  cases failed : after.exception with
  | some _ =>
      rw [failed] at ended
      obtain ⟨_, _, left⟩ := Logged.gives_lift_bind.mp ended
      obtain ⟨rfl, rfl⟩ := Logged.gives_pure.mp left
      exact .refused broker found ran failed
  | none =>
      rw [failed] at ended
      obtain ⟨_, _, counted⟩ := Logged.gives_lift_bind.mp ended
      obtain ⟨_, _, left⟩ := Logged.gives_lift_bind.mp counted
      obtain ⟨rfl, concluded⟩ := Logged.gives_lift.mp left
      rw [conclude_gives concluded]
      exact .delivered broker found ran failed

theorem ended_of_exhaust {handler : ErrorHandler} {policy : Option ExceptionPolicy}
    {failure : Failure} {entry : Option Message} {exchange : Exchange} {history : History}
    {result : Exchange × Outcome}
    (given : (handler.observeExhaust policy failure entry exchange).Gives history result) :
    ∃ rest, history = .exhausted (markedExhausted exchange) :: rest ∧
      Ended handler policy failure entry (markedExhausted exchange) rest result := by
  simp only [observeExhaust, Logged.gives_lift_bind, Logged.gives_log_bind,
    Routine.gives_look] at given
  obtain ⟨rest, ⟨_, _, _, _, _, ⟨broker, rfl⟩, ended⟩, rfl⟩ := given
  refine ⟨rest, rfl, ?_⟩
  cases found : handler.destination policy broker with
  | error missing =>
      rw [found] at ended
      obtain ⟨_, _, left⟩ := Logged.gives_lift_bind.mp ended
      obtain ⟨rfl, rfl⟩ := Logged.gives_pure.mp left
      exact .unavailable broker found
  | ok destination =>
      cases destination with
      | none =>
          rw [found] at ended
          obtain ⟨rfl, concluded⟩ := Logged.gives_lift.mp ended
          rw [conclude_gives concluded]
          exact .undelivered broker found
      | some deadLetter =>
          rw [found] at ended
          exact ended_of_deliver broker found ended

def Course (handler : ErrorHandler) (entry : Option Message) (start : Standing) (history : History)
    (result : Exchange × Outcome) : Prop :=
  ∃ earlier standing last,
    Reached handler start earlier standing ∧
      Closing handler entry standing last result ∧ history = earlier ++ last

theorem Closing.course {handler : ErrorHandler} {entry : Option Message} {standing : Standing}
    {history : History} {result : Exchange × Outcome}
    (closing : Closing handler entry standing history result) :
    Course handler entry standing history result :=
  ⟨[], standing, history, .start, closing, rfl⟩

theorem Course.head {handler : ErrorHandler} {entry : Option Message} {start next : Standing}
    {moments history : History} {result : Exchange × Outcome}
    (retried : Retried handler start moments next)
    (course : Course handler entry next history result) :
    Course handler entry start (moments ++ history) result := by
  obtain ⟨earlier, standing, last, reached, closing, rfl⟩ := course
  exact ⟨moments ++ earlier, standing, last, reached.head retried, closing,
    (List.append_assoc moments earlier last).symm⟩

theorem course_of_attempts {handler : ErrorHandler} {entry : Option Message}
    {countable redeliveries : Nat} {preparation : Option Preparation} {exchange : Exchange}
    {history : History} {result : Exchange × Outcome}
    (later : ∀ fewer preparation exchange history,
      countable = fewer + 1 →
      (handler.observeAttempts entry fewer (redeliveries + 1) preparation exchange).Gives
        history result →
      Course handler entry ⟨fewer, redeliveries + 1, preparation, exchange⟩ history result)
    (given : (handler.observeAttempts entry countable redeliveries preparation exchange).Gives
      history result) :
    Course handler entry ⟨countable, redeliveries, preparation, exchange⟩ history result := by
  unfold observeAttempts at given
  obtain ⟨before, after, rest, made, followed, rfl⟩ := Logged.gives_bind.mp given
  have attempted := attempted_of_gives made
  cases failed : after.exception with
  | none =>
      rw [failed] at followed
      cases fault : after.isFailed with
      | true =>
          rw [fault] at followed
          obtain ⟨_, _, left⟩ := Logged.gives_lift_bind.mp followed
          obtain ⟨rfl, rfl⟩ := Logged.gives_pure.mp left
          rw [List.append_nil]
          exact Closing.course (.faulted attempted failed fault)
      | false =>
          rw [fault] at followed
          obtain ⟨rfl, rfl⟩ := Logged.gives_pure.mp followed
          rw [List.append_nil]
          exact Closing.course (.succeeded attempted failed fault)
  | some failure =>
      rw [failed] at followed
      obtain ⟨rest, caught, rfl⟩ := Logged.gives_log_bind.mp followed
      cases fatal : failure.isFatal with
      | true =>
          rw [fatal] at caught
          obtain ⟨_, _, left⟩ := Logged.gives_lift_bind.mp caught
          obtain ⟨rfl, rfl⟩ := Logged.gives_pure.mp left
          exact Closing.course (.misconfigured attempted failed fatal)
      | false =>
          rw [fatal] at caught
          cases countable with
          | zero =>
              obtain ⟨rest, rfl, ended⟩ := ended_of_exhaust caught
              exact Closing.course (.exhausted attempted failed fatal (.inl rfl) ended)
          | succ countable =>
              cases allowed : handler.mayRedeliver (handler.policyFor failure)
                  (counted (after.setCaught failure) (redeliveries + 1)) (redeliveries + 1) with
              | true =>
                  dsimp only at caught
                  rw [if_neg Bool.false_ne_true, if_pos allowed] at caught
                  obtain ⟨chance, _, reported⟩ := Logged.gives_lift_bind.mp caught
                  obtain ⟨_, _, metered⟩ := Logged.gives_lift_bind.mp reported
                  obtain ⟨_, _, again⟩ := Logged.gives_lift_bind.mp metered
                  have retried := Retried.caught chance countable attempted failed fatal allowed
                  rw [List.append_cons]
                  exact Course.head retried (later countable _ _ _ rfl again)
              | false =>
                  dsimp only at caught
                  rw [if_neg Bool.false_ne_true, if_neg (Bool.eq_false_iff.mp allowed)] at caught
                  obtain ⟨rest, rfl, ended⟩ := ended_of_exhaust caught
                  exact Closing.course (.exhausted attempted failed fatal (.inr allowed) ended)

theorem course_of_gives {handler : ErrorHandler} {entry : Option Message}
    {countable redeliveries : Nat} {preparation : Option Preparation} {exchange : Exchange}
    {history : History} {result : Exchange × Outcome}
    (given : (handler.observeAttempts entry countable redeliveries preparation exchange).Gives
      history result) :
    Course handler entry ⟨countable, redeliveries, preparation, exchange⟩ history result := by
  induction countable generalizing redeliveries preparation exchange history with
  | zero =>
      refine course_of_attempts ?_ given
      intro fewer _ _ _ impossible _
      exact absurd impossible (Nat.succ_ne_zero fewer).symm
  | succ countable inductionHypothesis =>
      refine course_of_attempts ?_ given
      intro fewer _ _ _ same again
      obtain rfl := Nat.succ.inj same
      exact inductionHypothesis again

/-- Where every pass through a handler stands at first. -/
def outset (exchange : Exchange) : Standing :=
  ⟨maximumCount, 0, none, exchange⟩

/-- Every pass makes the attempts before the last one, then the last. -/
theorem course_of_observe {handler : ErrorHandler} {exchange : Exchange} {history : History}
    {result : Exchange × Outcome} (given : (handler.observe exchange).Gives history result) :
    Course handler (handler.entryOf exchange) (outset exchange) history result :=
  course_of_gives given

/-! ## The calls of a pass -/

theorem Reached.calls {handler : ErrorHandler} {start standing : Standing} {earlier : History}
    (reached : Reached handler start earlier standing) :
    ∀ visit ∈ earlier.steps, (handler.output.invoke visit.before).Gives visit.after := by
  induction reached with
  | start =>
      intro visit called
      exact absurd called List.not_mem_nil
  | again _ retried inductionHypothesis =>
      intro visit called
      rw [History.steps_append] at called
      rcases List.mem_append.mp called with before | now
      · exact inductionHypothesis visit before
      · cases retried with
        | caught _ _ attempted =>
            rw [History.steps_append] at now
            rcases List.mem_append.mp now with now | none
            · exact attempted.calls visit now
            · contradiction

theorem Closing.calls {handler : ErrorHandler} {entry : Option Message} {standing : Standing}
    {history : History} {result : Exchange × Outcome}
    (closing : Closing handler entry standing history result) :
    ∀ visit ∈ history.steps, (handler.output.invoke visit.before).Gives visit.after := by
  intro visit called
  cases closing with
  | succeeded attempted => exact attempted.calls visit called
  | faulted attempted => exact attempted.calls visit called
  | misconfigured attempted =>
      rw [History.steps_append] at called
      rcases List.mem_append.mp called with called | none
      · exact attempted.calls visit called
      · contradiction
  | exhausted attempted _ _ _ ended =>
      rw [History.steps_append] at called
      rcases List.mem_append.mp called with called | none
      · exact attempted.calls visit called
      · exact absurd none (List.eq_nil_iff_forall_not_mem.mp ended.moments.1 visit)

/-- Every call that the history of a pass shows is a call of the guarded step. -/
theorem calls_of_observe {handler : ErrorHandler} {exchange : Exchange} {history : History}
    {result : Exchange × Outcome} (given : (handler.observe exchange).Gives history result) :
    ∀ visit ∈ history.steps, (handler.output.invoke visit.before).Gives visit.after := by
  obtain ⟨earlier, standing, last, reached, closing, rfl⟩ := course_of_observe given
  intro visit called
  rw [History.steps_append] at called
  rcases List.mem_append.mp called with before | now
  · exact reached.calls visit before
  · exact closing.calls visit now

end ErrorHandler

end MessageRouting
