import MessageRouting.Config.Handler
import MessageRouting.DeadLetter.Document
import MessageRouting.Expression
import MessageRouting.Route.Basic

/-!
# Simulations

A simulation sends generated messages along a route that fails a fixed number of
times for each of them, and sums up what became of them under the error handler
and the idempotent consumer of a configuration.
-/

namespace MessageRouting

/-- What is sent in a simulation: so many messages, each so often, which fail so many times before
they succeed. -/
structure Simulation where
  failures : Nat := 1
  messages : Nat := 10
  repetitions : Nat := 1
deriving DecidableEq, Repr

/-- What became of the messages of a simulation. -/
structure SimulationSummary where
  sent : Nat
  completed : Nat := 0
  failed : Nat := 0
  counters : Counters := {}
  deadLetters : List DeadLetter := []

namespace Simulation

/-- The step that fails for as long as a message has been redelivered less than `failures` times. -/
def failingStep (failures : Nat) : Processor :=
  .ofFunction "flaky" fun exchange =>
    let attempt := exchange.redeliveryCount.toInt
    (exchange,
      if attempt < failures then
        some (.plain ("simulated failure on attempt " ++ Text.showInt (attempt + 1)))
      else none)

def queueName (uri : String) : Except Failure String :=
  match uri.toList with
  | 'd' :: 'l' :: 'q' :: ':' :: name => .ok (String.ofList name)
  | _ =>
      .error (.invalidConfig
        ("simulation only supports dlq: dead letter endpoints, got " ++ uri))

/-- The broker of a simulation: metrics, a repository, and a dead letter queue if the configuration
names one. -/
def broker (config : RoutingConfig) (chance : Nat) : Except Failure Broker := do
  let broker : Broker :=
    { context := ⟨"simulate", Converter.standard⟩
      chance := chance
      metrics := Register.add {} {}
      repositories := Register.add {} config.repository }
  match config.errorHandler.deadLetterUri with
  | none => return broker
  | some uri =>
      let name ← queueName uri
      return { broker with
        queues := broker.queues.add (DeadLetterQueue.new config.deadLetterQueue)
        endpoints := broker.endpoints.set ("dlq:" ++ name) (.deadLetter broker.queues.next) }

def plan (simulation : Simulation) (config : RoutingConfig) : Except Failure RoutePlan := do
  return {
    id := "simulation"
    errorHandler := some (← config.handlerPlan)
    metrics := some 0
    steps :=
      [.idempotent (fun exchange => (Expression.header "messageId").evaluate exchange) 0
          config.idempotent.options,
        .process (failingStep simulation.failures)] }

def sendMessage (route : Route) (number : Nat) : Routine Broker (Except Failure Exchange) := do
  let exchange ← Broker.newExchange .inOnly
  route.send (exchange.mapInbound fun message =>
    (message.setHeader "messageId" (.text ("msg-" ++ Text.showNat number))).setBody
      (.text ("payload-" ++ Text.showNat number)))

def sendCounted (route : Route) (progress : SimulationSummary × Broker) (number : Nat) :
    SimulationSummary × Broker :=
  let (summary, broker) := progress
  let (result, broker, _) := (sendMessage route number).run broker
  match result with
  | .ok _ => ({ summary with completed := summary.completed + 1 }, broker)
  | .error _ => ({ summary with failed := summary.failed + 1 }, broker)

def numbers (simulation : Simulation) : List Nat :=
  (List.range simulation.messages).flatMap fun number =>
    List.replicate simulation.repetitions number

def run (simulation : Simulation) (config : RoutingConfig) (chance : Nat) :
    Except Failure SimulationSummary := do
  let broker ← broker config chance
  let (route, broker) ← (← simulation.plan config).build broker
  let sent := min (simulation.messages * simulation.repetitions) Text.maxU32
  let (summary, broker) := simulation.numbers.foldl (sendCounted route) ({ sent := sent }, broker)
  return { summary with
    counters := (broker.metrics.getD 0).counters
    deadLetters := ((broker.queues.get? 0).map DeadLetterQueue.entries).getD [] }

end Simulation

def Counters.toDocument (counters : Counters) : Json :=
  .object
    [("exchanges_total", .int counters.exchanges),
      ("failures_total", .int counters.failures),
      ("redeliveries_total", .int counters.redeliveries),
      ("exhausted_total", .int counters.exhausted),
      ("dead_lettered_total", .int counters.deadLettered),
      ("handled_total", .int counters.handled),
      ("duplicates_total", .int counters.duplicates),
      ("latency_ms", .object
        [("p50", .float counters.latency.p50),
          ("p95", .float counters.latency.p95),
          ("p99", .float counters.latency.p99),
          ("max", .float counters.latency.maximum)])]

def SimulationSummary.toDocument (summary : SimulationSummary) : Json :=
  .object
    [("messages_sent", .int summary.sent),
      ("completed", .int summary.completed),
      ("failed", .int summary.failed),
      ("duplicates", .int summary.counters.duplicates),
      ("dead_lettered", .int summary.deadLetters.length),
      ("metrics", summary.counters.toDocument),
      ("dead_letters", .array (summary.deadLetters.map DeadLetter.toDocument))]

/-- The summary of a simulation under a configuration, which is the standard one if no text is
given. -/
def RoutingConfig.simulate (text : Option String) (simulation : Simulation) (chance : Nat) :
    Except Failure Json := do
  let config ← match text with
    | some text => RoutingConfig.read text
    | none => pure {}
  return (← simulation.run config chance).toDocument

end MessageRouting
