import MessageRouting.Proofs.Engine.Replay
import MessageRouting.Proofs.Redelivery.Course

/-!
# The account of a pass through an error handler

Everything that a handler does in a pass is written down in the order in which it is
done: the processors that it calls, the failures that it catches, the chances that it
draws, what it reports and counts, and how long it waits. Replaying the account of a
pass that runs alone gives the broker and the time of that pass.
-/

namespace MessageRouting

inductive Tally where
  | redelivery
  | exhausted
  | deadLettered
  | handled
deriving DecidableEq

/-- The change of the metrics with which something is counted. -/
def Tally.record : Tally → Metrics → Metrics
  | redelivery => Metrics.recordRedelivery
  | exhausted => Metrics.recordExhausted
  | deadLettered => Metrics.recordDeadLettered
  | handled => Metrics.recordHandled

inductive Role where
  | step
  | hook
  | delivery (name : String)
deriving DecidableEq

/-- Something that a handler does. It draws a chance for the delay of a redelivery, and enters the
exhausted path before anything is known of how that ends. -/
inductive Act where
  | called (role : Role) (processor : Processor) (visit : Visit)
  | caught (failure : Failure)
  | drew (chance : Nat)
  | reported (event : RedeliveryEvent)
  | counted (metrics : Nat) (tally : Tally)
  | waited (delay : Duration)
  | exhausted

namespace Act

def perform : Act → Broker → Broker × Duration
  | called _ processor visit, broker => ((processor.invoke visit.before).run broker).2
  | drew _, broker => ((Broker.drawChance).run broker).2
  | reported event, broker => ({ broker with events := event :: broker.events }, ⟨0⟩)
  | counted metrics tally, broker =>
      ({ broker with metrics := broker.metrics.modify metrics tally.record }, ⟨0⟩)
  | waited delay, broker => (broker, delay)
  | caught _, broker => (broker, ⟨0⟩)
  | exhausted, broker => (broker, ⟨0⟩)

/-! ## Doing and writing down -/

def call (role : Role) (processor : Processor) (exchange : Exchange) :
    Logged Act Broker Exchange :=
  Logged.act (processor.invoke exchange) fun after => .called role processor ⟨exchange, after⟩

/-- Reports an event, unless its level is `off`. -/
def report (event : RedeliveryEvent) : Logged Act Broker Unit :=
  if event.level = .off then pure ()
  else Logged.act (Broker.report event) fun _ => .reported event

def count : Option Nat → Tally → Logged Act Broker Unit
  | some metrics, tally =>
      Logged.act (Broker.count (some metrics) tally.record) fun _ => .counted metrics tally
  | none, _ => pure ()

def draw : Logged Act Broker Nat :=
  Logged.act Broker.drawChance .drew

def announce (delay : Duration) : Logged Act Broker Unit :=
  if delay.isZero then pure () else report (.waiting delay)

def pause (delay : Duration) : Logged Act Broker Unit := do
  announce delay
  Logged.act (Routine.wait delay) fun _ => .waited delay

@[simp]
theorem result_call (role : Role) (processor : Processor) (exchange : Exchange) :
    (call role processor exchange).result = processor.invoke exchange :=
  Logged.result_act _ _

@[simp]
theorem result_report (event : RedeliveryEvent) : (report event).result = Broker.report event := by
  unfold report
  by_cases silent : event.level = .off
  · rw [if_pos silent, Broker.report, if_pos silent]
    rfl
  · rw [if_neg silent, Logged.result_act]

@[simp]
theorem result_count (metrics : Option Nat) (tally : Tally) :
    (count metrics tally).result = Broker.count metrics tally.record := by
  cases metrics with
  | none => rfl
  | some metrics => exact Logged.result_act _ _

@[simp]
theorem result_draw : draw.result = Broker.drawChance :=
  Logged.result_act _ _

@[simp]
theorem result_pause (delay : Duration) : (pause delay).result = ErrorHandler.pause delay := by
  unfold pause announce ErrorHandler.pause
  rw [Logged.result_bind, Logged.result_act]
  cases delay.isZero with
  | true => rfl
  | false =>
      have reported := result_report (.waiting delay)
      exact congrArg (fun routine => routine >>= fun _ => Routine.wait delay) reported

/-! ## Nothing is left out -/

/-- The account says everything about the broker and the time. -/
abbrev Explained {α : Type} (logged : Logged Act Broker α) : Prop :=
  Logged.Explained perform logged

theorem explained_call (role : Role) (processor : Processor) (exchange : Exchange) :
    Explained (call role processor exchange) :=
  Logged.explained_act fun _ => rfl

theorem explained_report (event : RedeliveryEvent) : Explained (report event) := by
  unfold report
  split
  · exact Logged.explained_pure ()
  · rename_i loud
    apply Logged.explained_act
    intro broker
    rw [Broker.report, if_neg loud]
    rfl

theorem explained_count (metrics : Option Nat) (tally : Tally) :
    Explained (count metrics tally) := by
  cases metrics with
  | none => exact Logged.explained_pure ()
  | some metrics => exact Logged.explained_act fun _ => rfl

theorem explained_draw : Explained draw :=
  Logged.explained_act fun _ => rfl

theorem explained_wait (delay : Duration) :
    Explained (Logged.act (Routine.wait delay) fun _ => Act.waited delay) := by
  apply Logged.explained_act
  intro broker
  unfold Routine.wait
  cases zero : delay.isZero with
  | true =>
      have none : delay = ⟨0⟩ := by
        have nanoseconds : delay.nanoseconds = 0 := by simpa [Duration.isZero] using zero
        rw [← nanoseconds]
      rw [none]
      rfl
  | false => rfl

theorem explained_pause (delay : Duration) : Explained (pause delay) := by
  refine Logged.explained_bind ?_ fun _ => explained_wait delay
  exact Logged.explained_ite (Logged.explained_pure ()) (explained_report _)

/-! ## What can be written down -/

theorem gives_call {role : Role} {processor : Processor} {exchange after : Exchange}
    {acts : List Act} :
    (call role processor exchange).Gives acts after ↔
      acts = [.called role processor ⟨exchange, after⟩] ∧
        (processor.invoke exchange).Gives after :=
  Logged.gives_act

def reports (event : RedeliveryEvent) : List Act :=
  if event.level = .off then [] else [.reported event]

theorem reports_of_gives {event : RedeliveryEvent} {acts : List Act}
    (given : (report event).Gives acts ()) : acts = reports event := by
  unfold report at given
  unfold reports
  by_cases silent : event.level = .off
  · rw [if_pos silent] at given ⊢
    exact (Logged.gives_pure.mp given).1
  · rw [if_neg silent] at given ⊢
    exact (Logged.gives_act.mp given).1

def counts : Option Nat → Tally → List Act
  | some metrics, tally => [.counted metrics tally]
  | none, _ => []

theorem counts_of_gives {metrics : Option Nat} {tally : Tally} {acts : List Act}
    (given : (count metrics tally).Gives acts ()) : acts = counts metrics tally := by
  cases metrics with
  | none => exact (Logged.gives_pure.mp given).1
  | some metrics => exact (Logged.gives_act.mp given).1

/-- What is written down when the handler waits. -/
def pauses (delay : Duration) : List Act :=
  (if delay.isZero then [] else reports (.waiting delay)) ++ [.waited delay]

theorem pauses_of_gives {delay : Duration} {acts : List Act}
    (given : (pause delay).Gives acts ()) : acts = pauses delay := by
  obtain ⟨notice, _, rest, noticed, waited, rfl⟩ := Logged.gives_bind.mp given
  obtain ⟨rfl, _⟩ := Logged.gives_act.mp waited
  have same : notice = if delay.isZero then [] else reports (.waiting delay) := by
    unfold announce at noticed
    cases zero : delay.isZero with
    | true =>
        rw [zero] at noticed
        exact (Logged.gives_pure.mp noticed).1
    | false =>
        rw [zero, if_neg Bool.false_ne_true] at noticed
        exact reports_of_gives noticed
  rw [same]
  rfl

end Act

namespace ErrorHandler

/-! ## The parts of a pass, with their account

`step` runs the guarded step and writes down what it likes. -/

/-- What is to run before a redelivery. -/
def accountHook : Option Processor → Exchange → Logged Act Broker Exchange
  | some hook, exchange => Act.call .hook hook exchange
  | none, exchange => return exchange

def accountPrepare (preparation : Preparation) (exchange : Exchange) :
    Logged Act Broker Exchange := do
  Act.pause preparation.delay
  accountHook preparation.hook (cleared exchange)

/-- The guarded step runs unless the preparation failed. -/
def accountStep (step : Exchange → Logged Act Broker Exchange) (ready : Exchange) :
    Logged Act Broker Exchange :=
  if ready.exception.isNone then step ready else return ready

def accountAttempt (step : Exchange → Logged Act Broker Exchange) :
    Option Preparation → Exchange → Logged Act Broker Exchange
  | some preparation, exchange => do
      accountStep step (← accountPrepare preparation exchange)
  | none, exchange => accountStep step exchange

def accountHandled (redelivery : RedeliveryPolicy) (failure : Failure) : Logged Act Broker Unit :=
  if redelivery.logHandled then Act.report (.handled failure.display) else pure ()

def accountConclude (handler : ErrorHandler) (policy : Option ExceptionPolicy) (failure : Failure)
    (deliveredTo : Option String) (exchange : Exchange) :
    Logged Act Broker (Exchange × Outcome) :=
  if handler.isHandled policy exchange then do
    accountHandled (handler.redeliveryUnder policy) failure
    Act.count handler.rules.metrics .handled
    return handler.conclusion policy failure deliveredTo exchange
  else return handler.conclusion policy failure deliveredTo exchange

def accountDeliver (handler : ErrorHandler) (policy : Option ExceptionPolicy) (failure : Failure)
    (entry : Option Message) (deadLetter : DeadLetterStep) (exchange : Exchange) :
    Logged Act Broker (Exchange × Outcome) := do
  let exchange ← Act.call (.delivery deadLetter.name) deadLetter.processor
    (handler.forDeadLetter policy entry deadLetter.name exchange)
  match exchange.exception with
  | some failed =>
      Act.report (.destinationFailed deadLetter.name failed.display)
      return (exchange, .fatal failed)
  | none =>
      Act.report (.deadLettered deadLetter.name)
      Act.count handler.rules.metrics .deadLettered
      handler.accountConclude policy failure (some deadLetter.name) exchange

def accountExhaustion (redelivery : RedeliveryPolicy) (exchange : Exchange) (failure : Failure) :
    Logged Act Broker Unit :=
  if redelivery.logExhausted then
    Act.report (.exhausted (levelFor exchange redelivery.exhaustedLevel) exchange.redeliveryCount
      (detail redelivery failure))
  else pure ()

def accountExhaust (handler : ErrorHandler) (policy : Option ExceptionPolicy) (failure : Failure)
    (entry : Option Message) (exchange : Exchange) : Logged Act Broker (Exchange × Outcome) := do
  let exchange := markedExhausted exchange
  Logged.log .exhausted
  accountExhaustion (handler.redeliveryUnder policy) exchange failure
  Act.count handler.rules.metrics .exhausted
  match ← Logged.lift (Routine.look (handler.destination policy)) with
  | .error unavailable =>
      Act.report (.destinationUnavailable unavailable.display)
      return (exchange.setException unavailable, .fatal unavailable)
  | .ok none => handler.accountConclude policy failure none exchange
  | .ok (some deadLetter) => handler.accountDeliver policy failure entry deadLetter exchange

/-- The report that the step will be tried again. -/
def accountRedelivery (redelivery : RedeliveryPolicy) (exchange : Exchange) (failure : Failure)
    (number : Nat) (delay : Duration) : Logged Act Broker Unit :=
  if redelivery.logRetry then
    Act.report (.redelivery (levelFor exchange redelivery.retryLevel) number delay
      (detail redelivery failure))
  else pure ()

def accountAttempts (handler : ErrorHandler) (step : Exchange → Logged Act Broker Exchange)
    (entry : Option Message) (countable redeliveries : Nat) (preparation : Option Preparation)
    (exchange : Exchange) : Logged Act Broker (Exchange × Outcome) := do
  let exchange ← accountAttempt step preparation exchange
  match exchange.exception with
  | none =>
      if exchange.isFailed then
        Act.report .faultReturned
        return (exchange, .fault)
      else return (exchange, .success redeliveries)
  | some failure =>
      Logged.log (.caught failure)
      let exchange := exchange.setCaught failure
      let policy := handler.policyFor failure
      if failure.isFatal then
        Act.report (.fatal failure.renderChain)
        return (exchange, .fatal failure)
      else
        let exchange := counted exchange (redeliveries + 1)
        match countable with
        | 0 => handler.accountExhaust policy failure entry (settled exchange redeliveries)
        | countable + 1 =>
            if handler.mayRedeliver policy exchange (redeliveries + 1) then
              let redelivery := handler.redeliveryUnder policy
              let delay := redelivery.delayFor (redeliveries + 1) (← Act.draw)
              accountRedelivery redelivery exchange failure (redeliveries + 1) delay
              Act.count handler.rules.metrics .redelivery
              handler.accountAttempts step entry countable (redeliveries + 1)
                (some ⟨delay, handler.hookUnder policy⟩) exchange
            else handler.accountExhaust policy failure entry (settled exchange redeliveries)

/-- `handle`, with its account; `step` runs the guarded step. -/
def accountWith (handler : ErrorHandler) (step : Exchange → Logged Act Broker Exchange)
    (exchange : Exchange) : Logged Act Broker (Exchange × Outcome) :=
  handler.accountAttempts step (handler.entryOf exchange) maximumCount 0 none exchange

/-- `handle`, with its account. A call of the guarded step is one entry of it. -/
def account (handler : ErrorHandler) : Exchange → Logged Act Broker (Exchange × Outcome) :=
  handler.accountWith (Act.call .step handler.output)

/-! ## Writing it down changes nothing -/

section

variable (handler : ErrorHandler) (policy : Option ExceptionPolicy) (failure : Failure)
  (entry : Option Message)

@[simp]
theorem result_accountHook (hook : Option Processor) (exchange : Exchange) :
    (accountHook hook exchange).result =
      match hook with
      | some hook => hook.invoke exchange
      | none => pure exchange := by
  cases hook with
  | none => rfl
  | some hook => exact Act.result_call .hook hook exchange

@[simp]
theorem result_accountPrepare (preparation : Preparation) (exchange : Exchange) :
    (accountPrepare preparation exchange).result = prepare preparation exchange := by
  obtain ⟨delay, hook⟩ := preparation
  have unwatched := result_observePrepare ⟨delay, hook⟩ exchange
  rw [← unwatched, accountPrepare, observePrepare]
  cases hook <;> simp [observeHook]

@[simp]
theorem result_accountConclude (deliveredTo : Option String) (exchange : Exchange) :
    (handler.accountConclude policy failure deliveredTo exchange).result =
      handler.conclude policy failure deliveredTo exchange := by
  unfold accountConclude conclude conclusion accountHandled
  by_cases handled : handler.isHandled policy exchange
  · by_cases logged : (handler.redeliveryUnder policy).logHandled <;> cases deliveredTo <;>
      simp [handled, logged, Tally.record]
  · simp [handled]

@[simp]
theorem result_accountDeliver (deadLetter : DeadLetterStep) (exchange : Exchange) :
    (handler.accountDeliver policy failure entry deadLetter exchange).result =
      handler.deliver policy failure entry deadLetter exchange := by
  unfold accountDeliver deliver
  rw [Logged.result_bind, Act.result_call]
  congr 1
  funext after
  cases after.exception <;> simp [Tally.record]

@[simp]
theorem result_accountExhaust (exchange : Exchange) :
    (handler.accountExhaust policy failure entry exchange).result =
      handler.exhaust policy failure entry exchange := by
  have reported : (accountExhaustion (handler.redeliveryUnder policy) (markedExhausted exchange)
      failure).result =
        reportExhausted (handler.redeliveryUnder policy) (markedExhausted exchange) failure := by
    unfold accountExhaustion reportExhausted
    split <;> simp
  unfold accountExhaust exhaust
  simp only [Logged.result_bind, Logged.result_log, pure_bind, reported, Act.result_count,
    Logged.result_lift]
  congr 1
  funext _
  congr 1
  funext _
  congr 1
  funext destination
  cases destination with
  | error => simp [markedExhausted]
  | ok found => cases found <;> simp [markedExhausted]

variable {step : Exchange → Logged Act Broker Exchange}
  (faithful : ∀ exchange, (step exchange).result = handler.output.invoke exchange)

include faithful

theorem result_accountAttempt (preparation : Option Preparation) (exchange : Exchange) :
    (accountAttempt step preparation exchange).result = handler.attempt preparation exchange := by
  cases preparation <;> simp [accountAttempt, accountStep, attempt, faithful]

theorem result_accountAttempts (countable redeliveries : Nat) (preparation : Option Preparation)
    (exchange : Exchange) :
    (handler.accountAttempts step entry countable redeliveries preparation exchange).result =
      handler.attempts entry countable redeliveries preparation exchange := by
  induction countable generalizing redeliveries preparation exchange with
  | zero =>
      unfold accountAttempts attempts
      rw [Logged.result_bind, result_accountAttempt handler faithful]
      congr 1
      funext after
      cases after.exception <;> simp
  | succ countable inductionHypothesis =>
      unfold accountAttempts attempts
      rw [Logged.result_bind, result_accountAttempt handler faithful]
      congr 1
      funext after
      cases after.exception with
      | none => simp
      | some failure =>
          have reported (redelivery : RedeliveryPolicy) (exchange : Exchange) (number : Nat)
              (delay : Duration) :
              (accountRedelivery redelivery exchange failure number delay).result =
                reportRedelivery redelivery exchange failure number delay := by
            unfold accountRedelivery reportRedelivery
            split <;> simp
          simp [inductionHypothesis, reported, Tally.record]

theorem result_accountWith (exchange : Exchange) :
    (handler.accountWith step exchange).result = handler.handle exchange :=
  handler.result_accountAttempts (handler.entryOf exchange) faithful maximumCount 0 none exchange

omit faithful

theorem result_account (exchange : Exchange) :
    (handler.account exchange).result = handler.handle exchange :=
  handler.result_accountWith (Act.result_call .step handler.output) exchange

end

/-! ## Nothing is left out -/

section

variable {handler : ErrorHandler}

theorem explained_attempt (preparation : Option Preparation) (exchange : Exchange) :
    Act.Explained
      (accountAttempt (Act.call .step handler.output) preparation exchange) := by
  have stepped (ready : Exchange) :
      Act.Explained (accountStep (Act.call .step handler.output) ready) :=
    Logged.explained_ite (Act.explained_call _ _ _) (Logged.explained_pure _)
  cases preparation with
  | none => exact stepped exchange
  | some preparation =>
      refine Logged.explained_bind (Logged.explained_bind (Act.explained_pause _) fun _ => ?_) stepped
      cases preparation.hook with
      | none => exact Logged.explained_pure _
      | some hook => exact Act.explained_call _ _ _

theorem explained_conclude (policy : Option ExceptionPolicy) (failure : Failure)
    (deliveredTo : Option String) (exchange : Exchange) :
    Act.Explained (handler.accountConclude policy failure deliveredTo exchange) := by
  refine Logged.explained_ite ?_ (Logged.explained_pure _)
  refine Logged.explained_bind ?_ fun _ =>
    Logged.explained_bind (Act.explained_count _ _) fun _ => Logged.explained_pure _
  exact Logged.explained_ite (Act.explained_report _) (Logged.explained_pure _)

theorem explained_exhaust (policy : Option ExceptionPolicy) (failure : Failure) (entry : Option Message)
    (exchange : Exchange) :
    Act.Explained (handler.accountExhaust policy failure entry exchange) := by
  refine Logged.explained_bind (Logged.explained_log fun _ => rfl) fun _ => ?_
  refine Logged.explained_bind
    (Logged.explained_ite (Act.explained_report _) (Logged.explained_pure _)) fun _ => ?_
  refine Logged.explained_bind (Act.explained_count _ _) fun _ => ?_
  refine Logged.explained_bind (Logged.explained_look _) fun destination => ?_
  match destination with
  | .error unavailable =>
      exact Logged.explained_bind (Act.explained_report _) fun _ => Logged.explained_pure _
  | .ok none => exact explained_conclude policy failure none _
  | .ok (some deadLetter) =>
      refine Logged.explained_bind (Act.explained_call _ _ _) fun after => ?_
      cases after.exception with
      | some failed =>
          exact Logged.explained_bind (Act.explained_report _) fun _ => Logged.explained_pure _
      | none =>
          refine Logged.explained_bind (Act.explained_report _) fun _ => ?_
          refine Logged.explained_bind (Act.explained_count _ _) fun _ => ?_
          exact explained_conclude policy failure _ after

theorem explained_attempts (entry : Option Message) (countable redeliveries : Nat)
    (preparation : Option Preparation) (exchange : Exchange) :
    Act.Explained (handler.accountAttempts (Act.call .step handler.output) entry countable
      redeliveries preparation exchange) := by
  induction countable generalizing redeliveries preparation exchange with
  | zero =>
      unfold accountAttempts
      refine Logged.explained_bind (explained_attempt preparation exchange) fun after => ?_
      cases after.exception with
      | none =>
          refine Logged.explained_ite ?_ (Logged.explained_pure _)
          exact Logged.explained_bind (Act.explained_report _) fun _ => Logged.explained_pure _
      | some failure =>
          refine Logged.explained_bind (Logged.explained_log fun _ => rfl) fun _ => ?_
          refine Logged.explained_ite ?_ (explained_exhaust _ _ _ _)
          exact Logged.explained_bind (Act.explained_report _) fun _ => Logged.explained_pure _
  | succ countable inductionHypothesis =>
      unfold accountAttempts
      refine Logged.explained_bind (explained_attempt preparation exchange) fun after => ?_
      cases after.exception with
      | none =>
          refine Logged.explained_ite ?_ (Logged.explained_pure _)
          exact Logged.explained_bind (Act.explained_report _) fun _ => Logged.explained_pure _
      | some failure =>
          refine Logged.explained_bind (Logged.explained_log fun _ => rfl) fun _ => ?_
          refine Logged.explained_ite ?_ (Logged.explained_ite ?_ (explained_exhaust _ _ _ _))
          · exact Logged.explained_bind (Act.explained_report _) fun _ => Logged.explained_pure _
          · refine Logged.explained_bind Act.explained_draw fun chance => ?_
            refine Logged.explained_bind
              (Logged.explained_ite (Act.explained_report _) (Logged.explained_pure _)) fun _ => ?_
            refine Logged.explained_bind (Act.explained_count _ _) fun _ => ?_
            exact inductionHypothesis _ _ _

/-- A pass that runs alone does to the broker what its account says, and takes as long. -/
theorem run_account (exchange : Exchange) (broker : Broker) :
    (((handler.handle exchange).run broker).2.1,
        ((handler.handle exchange).run broker).2.2.nanoseconds) =
      replay Act.perform ((handler.account exchange).alone broker).1 broker := by
  rw [← handler.result_account exchange]
  exact Logged.run_of_explained (explained_attempts _ _ _ _ _) broker

end

end ErrorHandler

end MessageRouting
