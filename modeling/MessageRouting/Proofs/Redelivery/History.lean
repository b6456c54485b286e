import MessageRouting.Proofs.Engine.Log
import MessageRouting.Redelivery.ErrorHandler

/-!
# The history of a pass through an error handler

A pass is watched by writing down, in the order in which they happen, the
redeliveries, the calls of processors, the failures that are caught and the
exhausted path. `observe` is `handle` with that log, and without the log it is
`handle`.
-/

namespace MessageRouting

/-- One call of a processor: the exchange before and after it. -/
structure Visit where
  before : Exchange
  after : Exchange

/-- Something that happens in a pass through an error handler. A redelivery begins with a wait, and
`exhausted` shows the exchange with its marks. -/
inductive Moment where
  | redelivery (delay : Duration)
  | hook (visit : Visit)
  | step (visit : Visit)
  | caught (failure : Failure)
  | exhausted (exchange : Exchange)
  | delivery (name : String) (visit : Visit)

/-- What happened in a pass, in order. -/
abbrev History := List Moment

namespace History

/-- The calls of the guarded step. -/
def steps (history : History) : List Visit :=
  history.filterMap fun
    | .step visit => some visit
    | _ => none

/-- The calls of what runs before a redelivery. -/
def hooks (history : History) : List Visit :=
  history.filterMap fun
    | .hook visit => some visit
    | _ => none

/-- The calls of processors of any kind. -/
def visits (history : History) : List Visit :=
  history.filterMap fun
    | .hook visit => some visit
    | .step visit => some visit
    | .delivery _ visit => some visit
    | _ => none

def failures (history : History) : List Failure :=
  history.filterMap fun
    | .caught failure => some failure
    | _ => none

def redeliveries (history : History) : Nat :=
  history.countP fun
    | .redelivery _ => true
    | _ => false

def exhaustions (history : History) : List Exchange :=
  history.filterMap fun
    | .exhausted exchange => some exchange
    | _ => none

/-- The calls of dead letter destinations. -/
def deliveries (history : History) : List (String × Visit) :=
  history.filterMap fun
    | .delivery name visit => some (name, visit)
    | _ => none

variable (first second : History)

@[simp]
theorem steps_append : (first ++ second : History).steps = first.steps ++ second.steps :=
  List.filterMap_append

@[simp]
theorem hooks_append : (first ++ second : History).hooks = first.hooks ++ second.hooks :=
  List.filterMap_append

@[simp]
theorem visits_append : (first ++ second : History).visits = first.visits ++ second.visits :=
  List.filterMap_append

@[simp]
theorem failures_append :
    (first ++ second : History).failures = first.failures ++ second.failures :=
  List.filterMap_append

@[simp]
theorem redeliveries_append :
    (first ++ second : History).redeliveries = first.redeliveries + second.redeliveries :=
  List.countP_append

@[simp]
theorem exhaustions_append :
    (first ++ second : History).exhaustions = first.exhaustions ++ second.exhaustions :=
  List.filterMap_append

@[simp]
theorem deliveries_append :
    (first ++ second : History).deliveries = first.deliveries ++ second.deliveries :=
  List.filterMap_append

end History

namespace ErrorHandler

def pause (delay : Duration) : Routine Broker Unit := do
  if !delay.isZero then
    Broker.report (.waiting delay)
  Routine.wait delay

/-- What is to run before a redelivery, watched. -/
def observeHook : Option Processor → Exchange → Logged Moment Broker Exchange
  | some hook, exchange => do
      let after ← Logged.lift (hook.invoke exchange)
      Logged.log (.hook ⟨exchange, after⟩)
      return after
  | none, exchange => return exchange

def observePrepare (preparation : Preparation) (exchange : Exchange) :
    Logged Moment Broker Exchange := do
  Logged.log (.redelivery preparation.delay)
  Logged.lift (pause preparation.delay)
  observeHook preparation.hook (cleared exchange)

/-- The guarded step, watched. It runs unless the preparation failed. -/
def observeStep (handler : ErrorHandler) (ready : Exchange) : Logged Moment Broker Exchange :=
  if ready.exception.isNone then do
    let after ← Logged.lift (handler.output.invoke ready)
    Logged.log (.step ⟨ready, after⟩)
    return after
  else return ready

def observeAttempt (handler : ErrorHandler) :
    Option Preparation → Exchange → Logged Moment Broker Exchange
  | some preparation, exchange => do
      handler.observeStep (← observePrepare preparation exchange)
  | none, exchange => handler.observeStep exchange

def observeDeliver (handler : ErrorHandler) (policy : Option ExceptionPolicy) (failure : Failure)
    (entry : Option Message) (deadLetter : DeadLetterStep) (exchange : Exchange) :
    Logged Moment Broker (Exchange × Outcome) := do
  let delivered := handler.forDeadLetter policy entry deadLetter.name exchange
  let exchange ← Logged.lift (deadLetter.processor.invoke delivered)
  Logged.log (.delivery deadLetter.name ⟨delivered, exchange⟩)
  match exchange.exception with
  | some failed =>
      Logged.lift (Broker.report (.destinationFailed deadLetter.name failed.display))
      return (exchange, .fatal failed)
  | none =>
      Logged.lift (Broker.report (.deadLettered deadLetter.name))
      Logged.lift (Broker.count handler.rules.metrics Metrics.recordDeadLettered)
      Logged.lift (handler.conclude policy failure (some deadLetter.name) exchange)

def markedExhausted (exchange : Exchange) : Exchange :=
  (exchange.put .redeliveryExhausted (.bool true)).put .failureHandled (.bool true)

def observeExhaust (handler : ErrorHandler) (policy : Option ExceptionPolicy) (failure : Failure)
    (entry : Option Message) (exchange : Exchange) : Logged Moment Broker (Exchange × Outcome) := do
  let exchange := markedExhausted exchange
  Logged.log (.exhausted exchange)
  Logged.lift (reportExhausted (handler.redeliveryUnder policy) exchange failure)
  Logged.lift (Broker.count handler.rules.metrics Metrics.recordExhausted)
  match ← Logged.lift (Routine.look (handler.destination policy)) with
  | .error unavailable =>
      Logged.lift (Broker.report (.destinationUnavailable unavailable.display))
      return (exchange.setException unavailable, .fatal unavailable)
  | .ok none => Logged.lift (handler.conclude policy failure none exchange)
  | .ok (some deadLetter) => handler.observeDeliver policy failure entry deadLetter exchange

def observeAttempts (handler : ErrorHandler) (entry : Option Message) (countable redeliveries : Nat)
    (preparation : Option Preparation) (exchange : Exchange) :
    Logged Moment Broker (Exchange × Outcome) := do
  let exchange ← handler.observeAttempt preparation exchange
  match exchange.exception with
  | none =>
      if exchange.isFailed then
        Logged.lift (Broker.report .faultReturned)
        return (exchange, .fault)
      else return (exchange, .success redeliveries)
  | some failure =>
      Logged.log (.caught failure)
      let exchange := exchange.setCaught failure
      let policy := handler.policyFor failure
      if failure.isFatal then
        Logged.lift (Broker.report (.fatal failure.renderChain))
        return (exchange, .fatal failure)
      else
        let exchange := counted exchange (redeliveries + 1)
        match countable with
        | 0 => handler.observeExhaust policy failure entry (settled exchange redeliveries)
        | countable + 1 =>
            if handler.mayRedeliver policy exchange (redeliveries + 1) then
              let redelivery := handler.redeliveryUnder policy
              let delay := redelivery.delayFor (redeliveries + 1) (← Logged.lift Broker.drawChance)
              Logged.lift (reportRedelivery redelivery exchange failure (redeliveries + 1) delay)
              Logged.lift (Broker.count handler.rules.metrics Metrics.recordRedelivery)
              handler.observeAttempts entry countable (redeliveries + 1)
                (some ⟨delay, handler.hookUnder policy⟩) exchange
            else handler.observeExhaust policy failure entry (settled exchange redeliveries)

def observe (handler : ErrorHandler) (exchange : Exchange) :
    Logged Moment Broker (Exchange × Outcome) :=
  handler.observeAttempts (handler.entryOf exchange) maximumCount 0 none exchange

/-! ## Watching changes nothing -/

@[simp]
theorem result_observePrepare (preparation : Preparation) (exchange : Exchange) :
    (observePrepare preparation exchange).result = prepare preparation exchange := by
  obtain ⟨delay, hook⟩ := preparation
  cases isZero : delay.isZero <;> cases hook <;>
    simp [observePrepare, observeHook, pause, prepare, isZero]

@[simp]
theorem result_observeAttempt (handler : ErrorHandler) (preparation : Option Preparation)
    (exchange : Exchange) :
    (handler.observeAttempt preparation exchange).result =
      handler.attempt preparation exchange := by
  cases preparation <;> simp [observeAttempt, observeStep, attempt]

@[simp]
theorem result_observeDeliver (handler : ErrorHandler) (policy : Option ExceptionPolicy)
    (failure : Failure) (entry : Option Message) (deadLetter : DeadLetterStep) (exchange : Exchange) :
    (handler.observeDeliver policy failure entry deadLetter exchange).result =
      handler.deliver policy failure entry deadLetter exchange := by
  unfold observeDeliver deliver
  simp only [Logged.result_bind, Logged.result_lift, Logged.result_log, pure_bind]
  congr 1
  funext after
  cases after.exception <;> simp

@[simp]
theorem result_observeExhaust (handler : ErrorHandler) (policy : Option ExceptionPolicy)
    (failure : Failure) (entry : Option Message) (exchange : Exchange) :
    (handler.observeExhaust policy failure entry exchange).result =
      handler.exhaust policy failure entry exchange := by
  unfold observeExhaust exhaust
  simp only [Logged.result_bind, Logged.result_lift, Logged.result_log, pure_bind]
  congr 1
  funext _
  congr 1
  funext _
  congr 1
  funext destination
  cases destination with
  | error => simp [markedExhausted]
  | ok found => cases found <;> simp [markedExhausted]

@[simp]
theorem result_observeAttempts (handler : ErrorHandler) (entry : Option Message)
    (countable redeliveries : Nat) (preparation : Option Preparation) (exchange : Exchange) :
    (handler.observeAttempts entry countable redeliveries preparation exchange).result =
      handler.attempts entry countable redeliveries preparation exchange := by
  induction countable generalizing redeliveries preparation exchange with
  | zero =>
      unfold observeAttempts attempts
      rw [Logged.result_bind, result_observeAttempt]
      congr 1
      funext after
      cases after.exception <;> simp
  | succ countable inductionHypothesis =>
      unfold observeAttempts attempts
      rw [Logged.result_bind, result_observeAttempt]
      congr 1
      funext after
      cases after.exception <;> simp [inductionHypothesis]

theorem result_observe (handler : ErrorHandler) (exchange : Exchange) :
    (handler.observe exchange).result = handler.handle exchange :=
  result_observeAttempts handler (handler.entryOf exchange) maximumCount 0 none exchange

/-- A pass can give exactly the results that come with some history. -/
theorem handle_gives {handler : ErrorHandler} {exchange : Exchange} {result : Exchange × Outcome} :
    (handler.handle exchange).Gives result ↔
      ∃ history, (handler.observe exchange).Gives history result := by
  rw [← result_observe]
  exact Logged.result_gives

end ErrorHandler

end MessageRouting
