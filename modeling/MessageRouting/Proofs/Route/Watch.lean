import MessageRouting.Proofs.Engine.Watched
import MessageRouting.Proofs.Redelivery.History
import MessageRouting.Route.Basic

/-!
# Watched routes

A route is watched by writing down, in the order in which they begin, the runs
of its steps: the position of the step in the route, its calls, and the outcome
of the error handler that guards it. Without the log, a watched route is the
route that is built, and sends what that route sends.
-/

namespace MessageRouting

/-- One run of a step of a route, at a position from zero: its calls, of which there are several if
it was redelivered, and the outcome of the error handler that guards it. -/
structure StepRun where
  position : Nat
  visits : List Visit
  outcome : Option Outcome

namespace Watched

/-- A step without an error handler. -/
def plain (position : Nat) (processor : Processor) : Watched StepRun where
  processor := processor
  observe exchange := do
    let ended ← Logged.lift (processor.process exchange)
    Logged.log ⟨position, [⟨exchange, ended.1.recording ended.2⟩], none⟩
    return ended
  faithful exchange := by simp

def guarded (position : Nat) (handler : ErrorHandler) : Watched StepRun :=
  silent handler.toProcessor.name
    (fun exchange => do return (← handler.handle exchange).1)
    (fun exchange => do
      let ended ← (handler.observe exchange).reshape fun history ended =>
        [⟨position, History.steps history, some ended.2⟩]
      return ended.1)
    (by simp [ErrorHandler.result_observe])

end Watched

namespace IdempotentConsumer

def observeDuplicate (consumer : IdempotentConsumer) (inner : Watched StepRun)
    (exchange : Exchange) : Logged StepRun Broker Exchange := do
  Logged.lift (Routine.modify fun broker =>
    { broker with duplicates := broker.duplicates.modify consumer.duplicates (· + 1) })
  Logged.lift (Broker.count consumer.metrics Metrics.recordDuplicate)
  let exchange := exchange.put .duplicateMessage (.bool true)
  if consumer.options.skipDuplicate then return exchange else inner.invoke exchange

def observeLetThrough (consumer : IdempotentConsumer) (inner : Watched StepRun) (key : String)
    (exchange : Exchange) : Logged StepRun Broker Exchange := do
  let completion := Completion.settleKey consumer.repository key consumer.options
  if exchange.isInUnitOfWork then
    inner.invoke (exchange.addCompletion completion)
  else
    let after ← inner.invoke exchange
    Logged.lift (completion.carryOut after)
    return after

def observe (consumer : IdempotentConsumer) (inner : Watched StepRun) (exchange : Exchange) :
    Logged StepRun Broker (Exchange × Option Failure) :=
  match consumer.keyOf exchange with
  | none => return (exchange, some (.noMessageId exchange.id.text))
  | some key => do
      if ← Logged.lift (consumer.accept key) then
        let after ← consumer.observeLetThrough inner key exchange
        return (after, none)
      else
        let after ← consumer.observeDuplicate inner exchange
        return (after, none)

theorem result_observeDuplicate {consumer : IdempotentConsumer} {inner : Watched StepRun}
    (within : consumer.inner = inner.processor) (exchange : Exchange) :
    (consumer.observeDuplicate inner exchange).result = consumer.duplicate exchange := by
  simp [observeDuplicate, duplicate, within]

theorem result_observeLetThrough {consumer : IdempotentConsumer} {inner : Watched StepRun}
    (within : consumer.inner = inner.processor) (key : String) (exchange : Exchange) :
    (consumer.observeLetThrough inner key exchange).result = consumer.letThrough key exchange := by
  simp [observeLetThrough, letThrough, within]

theorem result_observe {consumer : IdempotentConsumer} {inner : Watched StepRun}
    (within : consumer.inner = inner.processor) (exchange : Exchange) :
    (consumer.observe inner exchange).result = consumer.toProcessor.process exchange := by
  unfold observe toProcessor
  cases found : consumer.keyOf exchange with
  | none => simp [found]
  | some key =>
      simp [found, result_observeDuplicate within, result_observeLetThrough within]

end IdempotentConsumer

namespace Watched

/-- A consumer that holds back duplicates, with the steps behind it. Its own run begins before
theirs. -/
def idempotent (position : Nat) (consumer : IdempotentConsumer) (inner : Watched StepRun)
    (within : consumer.inner = inner.processor) : Watched StepRun where
  processor := consumer.toProcessor
  observe exchange :=
    (consumer.observe inner exchange).reshape fun runs ended =>
      ⟨position, [⟨exchange, ended.1.recording ended.2⟩], none⟩ :: runs
  faithful exchange := by
    rw [Logged.result_reshape]
    exact IdempotentConsumer.result_observe within exchange

end Watched

/-! ## Routes that are built -/

namespace RoutePlan

def watchGuarded (plan : RoutePlan) (broker : Broker) (position : Nat) (processor : Processor) :
    Except Failure (Watched StepRun) :=
  match plan.handlerPlan with
  | some rules => (rules.build broker processor).map (Watched.guarded position)
  | none => .ok (.plain position processor)

def watchSteps (plan : RoutePlan) (position : Nat) :
    List RouteStep → Broker → Except Failure (List (Watched StepRun) × Broker)
  | [], broker => .ok ([], broker)
  | .process processor :: rest, broker => do
      let first ← plan.watchGuarded broker position processor
      let (others, broker) ← plan.watchSteps (position + 1) rest broker
      return (first :: others, broker)
  | .send uri :: rest, broker => do
      let first ← plan.watchGuarded broker position (.sendTo uri (← broker.producer uri))
      let (others, broker) ← plan.watchSteps (position + 1) rest broker
      return (first :: others, broker)
  | .idempotent key repository options :: rest, broker => do
      let (inner, broker) ← plan.watchSteps (position + 1) rest broker
      let consumer : IdempotentConsumer :=
        { key := key
          repository := repository
          options := options
          duplicates := broker.duplicates.next
          metrics := plan.metrics
          inner := .pipeline plan.id (inner.map Watched.processor) }
      return ([Watched.idempotent position consumer (.pipeline plan.id inner) rfl],
        { broker with duplicates := broker.duplicates.add 0 })

def forget (watched : List (Watched StepRun) × Broker) : List Processor × Broker :=
  (watched.1.map Watched.processor, watched.2)

theorem map_watchGuarded (plan : RoutePlan) (broker : Broker) (position : Nat)
    (processor : Processor) :
    (plan.watchGuarded broker position processor).map Watched.processor =
      plan.guarded broker processor := by
  unfold watchGuarded guarded
  cases plan.handlerPlan with
  | none => rfl
  | some rules =>
      dsimp only
      cases rules.build broker processor <;> rfl

theorem map_watchSteps (plan : RoutePlan) (position : Nat) (steps : List RouteStep)
    (broker : Broker) :
    (plan.watchSteps position steps broker).map forget = plan.assemble steps broker := by
  induction steps generalizing position with
  | nil => rfl
  | cons step rest inductionHypothesis =>
      cases step with
      | process processor =>
          unfold watchSteps assemble
          rw [← inductionHypothesis (position + 1), ← map_watchGuarded plan broker position]
          cases plan.watchGuarded broker position processor with
          | error => rfl
          | ok first => cases plan.watchSteps (position + 1) rest broker <;> rfl
      | send uri =>
          unfold watchSteps assemble
          rw [← inductionHypothesis (position + 1)]
          cases broker.producer uri with
          | error => rfl
          | ok producer =>
              dsimp only [Bind.bind, Except.bind]
              rw [← map_watchGuarded plan broker position]
              cases plan.watchGuarded broker position (.sendTo uri producer) with
              | error => rfl
              | ok first => cases plan.watchSteps (position + 1) rest broker <;> rfl
      | idempotent key repository options =>
          unfold watchSteps assemble
          rw [← inductionHypothesis (position + 1)]
          cases plan.watchSteps (position + 1) rest broker <;> rfl

end RoutePlan

/-- A route and its watched processor. -/
structure WatchedRoute where
  route : Route
  watched : Watched StepRun
  same : watched.processor = route.processor

namespace RoutePlan

def watch (plan : RoutePlan) (broker : Broker) : Except Failure (WatchedRoute × Broker) := do
  if plan.steps.isEmpty then throw (.invalidConfig ("route " ++ plan.id ++ " has no steps"))
  if let some uri := plan.source then
    let _ ← broker.endpoint uri
  let (steps, broker) ← plan.watchSteps 0 plan.steps broker
  return (
    { route :=
        { id := plan.id
          source := plan.source
          processor := (Processor.pipeline plan.id (steps.map Watched.processor)).inUnitOfWork
          metrics := plan.metrics }
      watched := (Watched.pipeline plan.id steps).inUnitOfWork
      same := rfl },
    broker)

def unwatched (built : WatchedRoute × Broker) : Route × Broker :=
  (built.1.route, built.2)

theorem map_watch (plan : RoutePlan) (broker : Broker) :
    (plan.watch broker).map unwatched = plan.build broker := by
  unfold watch build
  rw [← map_watchSteps plan 0 plan.steps broker]
  cases plan.steps.isEmpty with
  | true => rfl
  | false =>
      cases plan.source with
      | none => cases plan.watchSteps 0 plan.steps broker <;> rfl
      | some uri =>
          dsimp only
          cases broker.endpoint uri with
          | error => rfl
          | ok _ => cases plan.watchSteps 0 plan.steps broker <;> rfl

end RoutePlan

namespace WatchedRoute

def send (watched : WatchedRoute) (exchange : Exchange) :
    Logged StepRun Broker (Except Failure Exchange) := do
  let started ← Logged.lift Broker.readCalendar
  let exchange ← watched.watched.invoke exchange
  Logged.lift (Broker.count watched.route.metrics fun metrics =>
    metrics.recordExchange exchange.isFailed)
  let ended ← Logged.lift Broker.readCalendar
  Logged.lift (Broker.count watched.route.metrics fun metrics =>
    metrics.recordLatency ⟨ended - started⟩)
  return match exchange.exception with
    | some source => .error (.routing exchange.id.text source)
    | none => .ok exchange

theorem result_send (watched : WatchedRoute) (exchange : Exchange) :
    (watched.send exchange).result = watched.route.send exchange := by
  unfold send Route.send
  rw [Logged.result_bind, Logged.result_lift]
  congr 1
  funext started
  rw [Logged.result_bind, Watched.result_invoke, watched.same]
  congr 1
  funext after
  cases failed : after.exception <;> simp

end WatchedRoute

end MessageRouting
