import MessageRouting.Endpoint.Producer
import MessageRouting.Redelivery.ExceptionPolicy
import MessageRouting.Redelivery.HandlerKind

/-!
# Error handlers

An error handler guards a step. It runs the step and, while the step fails and
the rules of redelivery allow it, waits and runs it again. When redeliveries ran
out, the exchange may go to a dead letter destination, and the failure is either
declared handled or left on the exchange.

The counter of redeliveries goes up with every failure and down once when
redeliveries ran out, so that it counts the redeliveries that ran.
-/

namespace MessageRouting

/-- How one pass through an error handler ends. The step succeeded after some redeliveries, or left
a fault message without reporting a failure; or the redeliveries ran out, and the failure was
declared handled, with or without a dead letter destination, or is left on the exchange. -/
inductive Outcome where
  | success (redeliveries : Nat)
  | handled
  | deadLettered (endpoint : String)
  | fault
  | fatal (failure : Failure)
deriving Inhabited

/-- The caller may go on with the exchange. -/
def Outcome.isSuccess : Outcome → Bool
  | success _ | handled | deadLettered _ => true
  | fault | fatal _ => false

/-! ## Rules -/

/-- The rules of an error handler, with a dead letter destination of type `δ`. Where `handled` is
missing, the kind decides; `onRedelivery` runs before each redelivery; `useArrival` delivers the
message as it was before routing. -/
structure HandlerRules (δ : Type) where
  kind : HandlerKind := .standard
  deadLetter : Option δ := none
  redelivery : RedeliveryPolicy := {}
  handled : Option (Exchange → Bool) := none
  onRedelivery : Option Processor := none
  useArrival : Bool := false
  policies : List ExceptionPolicy := []
  strategy : PolicyStrategy := PolicyStrategy.innermost
  metrics : Option Nat := none

/-- A dead letter destination before it is looked up. -/
inductive Destination where
  | uri (uri : String)
  | step (name : String) (processor : Processor)

/-- A dead letter destination that can be delivered to. -/
structure DeadLetterStep where
  name : String
  processor : Processor

/-- The rules of an error handler as they are written down. -/
abbrev HandlerPlan := HandlerRules Destination

namespace HandlerPlan

/-- Redelivers, then leaves exhausted failures on the exchange. -/
def standard : HandlerPlan := {}

/-- Redelivers, then delivers to the given destination. -/
def deadLetterChannel (destination : Destination) : HandlerPlan :=
  { kind := .deadLetterChannel, deadLetter := some destination }

end HandlerPlan

structure ErrorHandler where
  rules : HandlerRules DeadLetterStep
  output : Processor

namespace HandlerPlan

/-- The destination in a form that can be delivered to. -/
def resolve (broker : Broker) : Destination → Except Failure DeadLetterStep
  | .uri uri => do return ⟨uri, ← broker.producer uri⟩
  | .step name processor => .ok ⟨name, processor⟩

/-- The error handler around a step; its dead letter endpoint is looked up now. -/
def build (plan : HandlerPlan) (broker : Broker) (output : Processor) :
    Except Failure ErrorHandler := do
  let deadLetter ← plan.deadLetter.mapM (resolve broker)
  return { rules := { plan with deadLetter := deadLetter }, output := output }

end HandlerPlan

namespace ErrorHandler

/-! ## What applies to a failure -/

def policyFor (handler : ErrorHandler) (failure : Failure) : Option ExceptionPolicy :=
  handler.rules.strategy handler.rules.policies failure

def redeliveryUnder (handler : ErrorHandler) (policy : Option ExceptionPolicy) : RedeliveryPolicy :=
  (policy.bind ExceptionPolicy.redelivery).getD handler.rules.redelivery

def hookUnder (handler : ErrorHandler) (policy : Option ExceptionPolicy) : Option Processor :=
  (policy.bind ExceptionPolicy.onRedelivery).or handler.rules.onRedelivery

/-- The dead letter gets the message as it was before routing. -/
def usesArrival (handler : ErrorHandler) (policy : Option ExceptionPolicy) : Bool :=
  (policy.bind ExceptionPolicy.useArrival).getD handler.rules.useArrival

/-- An exhausted failure is handled. -/
def isHandled (handler : ErrorHandler) (policy : Option ExceptionPolicy) (exchange : Exchange) :
    Bool :=
  match (policy.bind ExceptionPolicy.handled).or handler.rules.handled with
  | some isHandled => isHandled exchange
  | none => handler.rules.kind == .deadLetterChannel

/-- The redelivery with the given number may run; on a rollback-only exchange none does. -/
def mayRedeliver (handler : ErrorHandler) (policy : Option ExceptionPolicy) (exchange : Exchange)
    (attempt : Nat) : Bool :=
  !exchange.isRollbackOnly &&
    (handler.redeliveryUnder policy).shouldRedeliver (policy.bind ExceptionPolicy.retryWhile)
      exchange attempt

/-! ## Reports -/

/-- A failure as events show it. -/
def detail (redelivery : RedeliveryPolicy) (failure : Failure) : String :=
  if redelivery.logStackTrace then failure.renderChain else failure.display

def levelFor (exchange : Exchange) (level : Level) : Level :=
  if exchange.isRollbackOnly && level == .error then .warn else level

/-- Reports that the step will be tried again. -/
def reportRedelivery (redelivery : RedeliveryPolicy) (exchange : Exchange) (failure : Failure)
    (attempt : Nat) (delay : Duration) : Routine Broker Unit :=
  if redelivery.logRetry then
    Broker.report (.redelivery (levelFor exchange redelivery.retryLevel) attempt delay
      (detail redelivery failure))
  else pure ()

def reportExhausted (redelivery : RedeliveryPolicy) (exchange : Exchange) (failure : Failure) :
    Routine Broker Unit :=
  if redelivery.logExhausted then
    Broker.report (.exhausted (levelFor exchange redelivery.exhaustedLevel) exchange.redeliveryCount
      (detail redelivery failure))
  else pure ()

/-! ## When redeliveries ran out -/

/-- The dead letter destination under a policy, if there is one. The endpoint that a policy names is
looked up now. -/
def destination (handler : ErrorHandler) (policy : Option ExceptionPolicy) (broker : Broker) :
    Except Failure (Option DeadLetterStep) :=
  match policy.bind ExceptionPolicy.deadLetter with
  | some uri => do return some ⟨uri, ← broker.producer uri⟩
  | none => .ok handler.rules.deadLetter

/-- The message that takes the place of the inbound one for a dead letter, if any does: the one that
the unit of work keeps, else the one kept at the start of the pass. -/
def original? (handler : ErrorHandler) (policy : Option ExceptionPolicy) (entry : Option Message)
    (exchange : Exchange) : Option Message :=
  if handler.usesArrival policy then exchange.arrival?.or entry else none

def forDeadLetter (handler : ErrorHandler) (policy : Option ExceptionPolicy) (entry : Option Message)
    (name : String) (exchange : Exchange) : Exchange :=
  let exchange := match handler.original? policy entry exchange with
    | some original => { exchange with inbound := original, outbound := none }
    | none => exchange
  exchange.clearException.put .failureEndpoint (.text name)

def conclude (handler : ErrorHandler) (policy : Option ExceptionPolicy) (failure : Failure)
    (deliveredTo : Option String) (exchange : Exchange) : Routine Broker (Exchange × Outcome) :=
  if handler.isHandled policy exchange then do
    if (handler.redeliveryUnder policy).logHandled then
      Broker.report (.handled failure.display)
    Broker.count handler.rules.metrics Metrics.recordHandled
    let outcome := match deliveredTo with
      | some endpoint => .deadLettered endpoint
      | none => .handled
    return (exchange.clearException.put .errorHandlerHandled (.bool true), outcome)
  else
    return ((exchange.put .errorHandlerHandled (.bool false)).setException failure, .fatal failure)

/-- Delivers an exchange to a dead letter destination and concludes. A failure of that delivery
takes the place of the one that led there. -/
def deliver (handler : ErrorHandler) (policy : Option ExceptionPolicy) (failure : Failure)
    (entry : Option Message) (deadLetter : DeadLetterStep) (exchange : Exchange) :
    Routine Broker (Exchange × Outcome) := do
  let exchange ← deadLetter.processor.invoke
    (handler.forDeadLetter policy entry deadLetter.name exchange)
  match exchange.exception with
  | some failed =>
      Broker.report (.destinationFailed deadLetter.name failed.display)
      return (exchange, .fatal failed)
  | none =>
      Broker.report (.deadLettered deadLetter.name)
      Broker.count handler.rules.metrics Metrics.recordDeadLettered
      handler.conclude policy failure (some deadLetter.name) exchange

/-- Ends a pass whose redeliveries ran out. `entry` is the message that was kept at the start of it. -/
def exhaust (handler : ErrorHandler) (policy : Option ExceptionPolicy) (failure : Failure)
    (entry : Option Message) (exchange : Exchange) : Routine Broker (Exchange × Outcome) := do
  let exchange := (exchange.put .redeliveryExhausted (.bool true)).put .failureHandled (.bool true)
  reportExhausted (handler.redeliveryUnder policy) exchange failure
  Broker.count handler.rules.metrics Metrics.recordExhausted
  match ← Routine.look (handler.destination policy) with
  | .error unavailable =>
      Broker.report (.destinationUnavailable unavailable.display)
      return (exchange.setException unavailable, .fatal unavailable)
  | .ok none => handler.conclude policy failure none exchange
  | .ok (some deadLetter) => handler.deliver policy failure entry deadLetter exchange

/-! ## Attempts -/

/-- What precedes a redelivery: a time to wait, and what runs then. -/
structure Preparation where
  delay : Duration
  hook : Option Processor

/-- The exchange without the traces of the attempt before. -/
def cleared (exchange : Exchange) : Exchange :=
  exchange.clearException.clearFault.drop .errorHandlerHandled

/-- Clears the exchange, waits, and runs what is to run before a redelivery. -/
def prepare (preparation : Preparation) (exchange : Exchange) : Routine Broker Exchange := do
  if !preparation.delay.isZero then
    Broker.report (.waiting preparation.delay)
  Routine.wait preparation.delay
  match preparation.hook with
  | some hook => hook.invoke (cleared exchange)
  | none => return cleared exchange

/-- One attempt, with its preparation if it is a redelivery. The step runs unless the preparation
failed. -/
def attempt (handler : ErrorHandler) (preparation : Option Preparation) (exchange : Exchange) :
    Routine Broker Exchange := do
  let exchange ← match preparation with
    | some preparation => prepare preparation exchange
    | none => pure exchange
  if exchange.exception.isNone then handler.output.invoke exchange else return exchange

/-- The exchange with the number of redeliveries, the latest of which is to come. -/
def counted (exchange : Exchange) (redeliveries : Nat) : Exchange :=
  (exchange.put .redeliveryCounter (.ofNat redeliveries)).put .redelivered (.bool true)

def settled (exchange : Exchange) (redeliveries : Nat) : Exchange :=
  if redeliveries = 0 then (exchange.drop .redeliveryCounter).drop .redelivered
  else exchange.put .redeliveryCounter (.ofNat redeliveries)

/-- Makes attempts until one succeeds or no further one may be made. `redeliveries` have run, and at
most `countable` more can be counted. -/
def attempts (handler : ErrorHandler) (entry : Option Message) (countable redeliveries : Nat)
    (preparation : Option Preparation) (exchange : Exchange) :
    Routine Broker (Exchange × Outcome) := do
  let exchange ← handler.attempt preparation exchange
  match exchange.exception with
  | none =>
      if exchange.isFailed then
        Broker.report .faultReturned
        return (exchange, .fault)
      else return (exchange, .success redeliveries)
  | some failure =>
      let exchange := exchange.setCaught failure
      let policy := handler.policyFor failure
      if failure.isFatal then
        Broker.report (.fatal failure.renderChain)
        return (exchange, .fatal failure)
      else
        let exchange := counted exchange (redeliveries + 1)
        match countable with
        | 0 => handler.exhaust policy failure entry (settled exchange redeliveries)
        | countable + 1 =>
            if handler.mayRedeliver policy exchange (redeliveries + 1) then
              let redelivery := handler.redeliveryUnder policy
              let delay := redelivery.delayFor (redeliveries + 1) (← Broker.drawChance)
              reportRedelivery redelivery exchange failure (redeliveries + 1) delay
              Broker.count handler.rules.metrics Metrics.recordRedelivery
              handler.attempts entry countable (redeliveries + 1)
                (some ⟨delay, handler.hookUnder policy⟩) exchange
            else handler.exhaust policy failure entry (settled exchange redeliveries)

/-- The number of redeliveries that can be counted in one pass. The counter has 32 bits, and one more
failure would overflow it: what the program does then (it panics, or goes on from zero where overflow
is not checked) is left out, and the pass ends here as one whose redeliveries ran out. -/
def maximumCount : Nat := 4294967295

/-- The inbound message at the start of a pass, which is kept only if the handler or one of its
listed policies asks for it. A policy that the strategy finds elsewhere is not looked at. -/
def entryOf (handler : ErrorHandler) (exchange : Exchange) : Option Message :=
  if handler.rules.useArrival || handler.rules.policies.any (·.useArrival == some true) then
    some exchange.inbound
  else none

def handle (handler : ErrorHandler) (exchange : Exchange) : Routine Broker (Exchange × Outcome) :=
  handler.attempts (handler.entryOf exchange) maximumCount 0 none exchange

def toProcessor (handler : ErrorHandler) : Processor :=
  .silent
    (match handler.rules.kind with
    | .standard => "error-handler"
    | .deadLetterChannel => "dead-letter-channel")
    fun exchange => do return (← handler.handle exchange).1

end ErrorHandler

end MessageRouting
