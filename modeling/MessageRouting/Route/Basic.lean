import MessageRouting.Engine.Pipeline
import MessageRouting.Idempotent.Consumer
import MessageRouting.Redelivery.ErrorHandler

/-!
# Routes

A route is written down as a list of steps and then built. Every step is guarded
by the error handler of the route, the steps run as a pipeline, and the pipeline
runs in a unit of work.
-/

namespace MessageRouting

/-- A step of a route. Behind an idempotent step the others run for new keys only. -/
inductive RouteStep where
  | process (processor : Processor)
  | send (uri : String)
  | idempotent (key : Exchange → Option Value) (repository : Nat) (options : IdempotentOptions)

/-- A route as it is written down. -/
structure RoutePlan where
  id : String
  source : Option String := none
  steps : List RouteStep := []
  errorHandler : Option HandlerPlan := none
  metrics : Option Nat := none

/-- A route that accepts exchanges. -/
structure Route where
  id : String
  source : Option String
  processor : Processor
  metrics : Option Nat

namespace Processor

/-- Notes the destination on the exchange and delivers to it. -/
def sendTo (uri : String) (producer : Processor) : Processor where
  name := uri
  process exchange := producer.process (exchange.put .toEndpoint (.text uri))

end Processor

namespace RoutePlan

/-- The rules of the error handler; it shares the metrics of the route. -/
def handlerPlan (plan : RoutePlan) : Option HandlerPlan :=
  plan.errorHandler.map fun rules => { rules with metrics := plan.metrics.or rules.metrics }

def guarded (plan : RoutePlan) (broker : Broker) (processor : Processor) :
    Except Failure Processor :=
  match plan.handlerPlan with
  | some rules => (rules.build broker processor).map ErrorHandler.toProcessor
  | none => .ok processor

/-- The processors for some steps, or the first thing that stands in the way of one. -/
def assemble (plan : RoutePlan) : List RouteStep → Broker → Except Failure (List Processor × Broker)
  | [], broker => .ok ([], broker)
  | .process processor :: rest, broker => do
      let first ← plan.guarded broker processor
      let (others, broker) ← plan.assemble rest broker
      return (first :: others, broker)
  | .send uri :: rest, broker => do
      let first ← plan.guarded broker (.sendTo uri (← broker.producer uri))
      let (others, broker) ← plan.assemble rest broker
      return (first :: others, broker)
  | .idempotent key repository options :: rest, broker => do
      let (inner, broker) ← plan.assemble rest broker
      let consumer : IdempotentConsumer :=
        { key := key
          repository := repository
          options := options
          duplicates := broker.duplicates.next
          metrics := plan.metrics
          inner := .pipeline plan.id inner }
      return ([consumer.toProcessor], { broker with duplicates := broker.duplicates.add 0 })

/-- The route, and the broker with the components that it needs. A route needs a step, and the
endpoint it is fed from must be registered. -/
def build (plan : RoutePlan) (broker : Broker) : Except Failure (Route × Broker) := do
  if plan.steps.isEmpty then throw (.invalidConfig ("route " ++ plan.id ++ " has no steps"))
  if let some uri := plan.source then
    let _ ← broker.endpoint uri
  let (steps, broker) ← plan.assemble plan.steps broker
  return (
    { id := plan.id
      source := plan.source
      processor := (Processor.pipeline plan.id steps).inUnitOfWork
      metrics := plan.metrics },
    broker)

end RoutePlan

namespace Route

def toProcessor (route : Route) : Processor :=
  route.processor.rename route.id

def send (route : Route) (exchange : Exchange) : Routine Broker (Except Failure Exchange) := do
  let started ← Broker.readCalendar
  let exchange ← route.processor.invoke exchange
  Broker.count route.metrics fun metrics => metrics.recordExchange exchange.isFailed
  let ended ← Broker.readCalendar
  Broker.count route.metrics fun metrics => metrics.recordLatency ⟨ended - started⟩
  return match exchange.exception with
    | some source => .error (.routing exchange.id.text source)
    | none => .ok exchange

def sendBody (route : Route) (body : Value) : Routine Broker (Except Failure Exchange) := do
  let exchange ← Broker.newExchange .inOnly
  route.send (({ exchange with fromEndpoint := route.source }).mapInbound fun message =>
    message.setBody body)

end Route

end MessageRouting
