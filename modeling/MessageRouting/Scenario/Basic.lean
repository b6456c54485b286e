import MessageRouting.Config.Handler
import MessageRouting.Engine.Asynchronous
import MessageRouting.Route.Lifecycle
import MessageRouting.Scenario.Action

/-!
# Scenarios

A scenario runs a route, or parts of one, on a timeline and keeps what it works
with under names: exchanges, processors, routes, consumers, and the components
of the broker.
-/

namespace MessageRouting

structure Scenario where
  timeline : Timeline := {}
  slots : Table Exchange := {}
  processors : Table Processor := {}
  handlers : Table ErrorHandler := {}
  routes : Table RouteState := {}
  consumers : Table ConsumerState := {}
  recordings : Table Nat := {}
  queues : Table Nat := {}
  repositories : Table Nat := {}
  calls : Table Nat := {}
  deduplicators : Table IdempotentConsumer := {}
  sources : Table Nat := {}
  metrics : Option Nat := none

/-- What happened while a part of a scenario ran, oldest entries first. -/
structure Report where
  elapsed : Duration
  journal : List JournalEntry
  events : List RedeliveryEvent

/-- A part of a scenario. When it fails, what it did before remains. -/
abbrev Scene := EStateM Failure Scenario

namespace Scenario

def new (context : Context) : Scenario :=
  { timeline := { broker := { context := context } } }

/-- The failure for a part of a scenario that cannot be read. -/
def malformed (message : String) : Failure :=
  .named "BadInput" message

/-- The failure for a name under which nothing is kept. -/
def unknown (name : String) : Failure :=
  malformed ("unknown name " ++ name)

/-! ## Access -/

def look (view : Broker → α) : Scene α := do
  return view (← get).timeline.broker

def alter (change : Broker → Broker) : Scene Unit :=
  modify fun scenario =>
    { scenario with timeline :=
        { scenario.timeline with broker := change scenario.timeline.broker } }

/-- Runs a routine in the foreground. -/
def run (routine : Routine Broker α) : Scene α :=
  modifyGet fun scenario =>
    let (value, timeline) := Timeline.run routine scenario.timeline
    (value, { scenario with timeline := timeline })

def onTimeline (step : Timeline → α × Timeline) : Scene α :=
  modifyGet fun scenario =>
    let (value, timeline) := step scenario.timeline
    (value, { scenario with timeline := timeline })

def find (table : Scenario → Table α) (name : String) : Scene α := do
  match (table (← get)).get? name with
  | some item => return item
  | none => throw (unknown name)

def expect (result : Except Failure α) : Scene α :=
  match result with
  | .ok item => return item
  | .error failure => throw failure

/-- The result of a function that may fail on the broker. -/
def lookUp (view : Broker → Except Failure α) : Scene α := do
  expect (← look view)

/-- Runs a part of a scenario: its result or its failure, what happened meanwhile, and the scenario
afterwards, whose journal begins anew. -/
def observe (part : Scene α) (scenario : Scenario) : Except Failure α × Report × Scenario :=
  let (result, after) : Except Failure α × Scenario := match part.run scenario with
    | .ok value after => (.ok value, after)
    | .error failure after => (.error failure, after)
  let broker := after.timeline.broker
  (result,
    { elapsed := ⟨after.timeline.now - scenario.timeline.now⟩
      journal := broker.journal.reverse
      events := broker.events.reverse },
    { after with timeline :=
        { after.timeline with broker := { broker with journal := [], events := [] } } })

/-! ## Exchanges -/

def keep (slot : String) (exchange : Exchange) : Scene Unit :=
  modify fun scenario => { scenario with slots := scenario.slots.set slot exchange }

def slot (name : String) : Scene Exchange :=
  find Scenario.slots name

/-- Takes the exchange of a slot away. -/
def release (name : String) : Scene Unit :=
  modify fun scenario => { scenario with slots := scenario.slots.erase name }

def make (draft : ExchangeDraft) (actions : List Action) : Scene Exchange :=
  run do
    let exchange ← draft.carryOut
    return (← Action.performAll "" actions exchange).1

def act (name : String) (action : Action) : Scene Performance := do
  let exchange ← slot name
  let performance ← run (action.perform exchange)
  keep name performance.exchange
  return performance

def copy (source target : String) : Scene Exchange := do
  let exchange ← slot source
  let copied := exchange.copyAs ⟨← run Broker.freshNumber⟩
  keep target copied
  return copied

/-- Moves what the exchange of a slot carries into another slot, leaving it without content: what is
left and what was taken. -/
def take (source target : String) : Scene (Exchange × Exchange) := do
  let exchange ← slot source
  let left := exchange.blank (← run Broker.freshId)
  keep source left
  keep target exchange
  return (left, exchange)

/-- Moves completions from the exchange of a slot to that of another. -/
def handOver (source target : String) : Scene (Exchange × Exchange) := do
  let (giver, taker) := (← slot source).handOver (← slot target)
  keep source giver
  keep target taker
  return (giver, taker)

/-! ## Endpoints and components -/

def register (uri : String) (endpoint : Endpoint) : Scene (Option String) := do
  let replaced ← look fun broker => broker.endpoints.contains uri
  run (Broker.register uri endpoint)
  return if replaced then some uri else none

/-- Adds a recording endpoint, which refuses every delivery if `refusal` is given. -/
def addRecording (uri : String) (refusal : Option String) : Scene (Option String) := do
  let handle ← look fun broker => broker.recordings.next
  alter fun broker =>
    { broker with recordings := broker.recordings.add { refusal := refusal } }
  modify fun scenario => { scenario with recordings := scenario.recordings.set uri handle }
  register uri (.recording handle)

def recording (uri : String) : Scene DeliveryRecord := do
  let handle ← find Scenario.recordings uri
  look fun broker => broker.recordings.getD handle

def onRecording (uri : String) (change : DeliveryRecord → DeliveryRecord) : Scene Unit := do
  let handle ← find Scenario.recordings uri
  alter fun broker => { broker with recordings := broker.recordings.modify handle change }

def addQueue (name : String) (config : QueueConfig) : Scene (Option String) := do
  let handle ← look fun broker => broker.queues.next
  alter fun broker =>
    { broker with queues := broker.queues.add (DeadLetterQueue.new config) }
  modify fun scenario => { scenario with queues := scenario.queues.set name handle }
  register ("dlq:" ++ name) (.deadLetter handle)

/-- Adds an endpoint that offers the items of a source. -/
def addPolling (uri source : String) (config : PollConfig) : Scene (Option String) := do
  let handle ← find Scenario.sources source
  register uri (.polling handle config)

/-- Takes an endpoint away and gives its URI if there was one. -/
def removeEndpoint (uri : String) : Scene (Option String) := do
  let present ← look fun broker => broker.endpoints.contains uri
  alter fun broker => { broker with endpoints := broker.endpoints.erase uri }
  return if present then some uri else none

def endpointExchange (uri : String) (pattern : Pattern) : Scene Exchange := do
  let _ ← lookUp fun broker => broker.endpoint uri
  let exchange ← run (Broker.newExchange pattern)
  return { exchange with fromEndpoint := some uri }

def addRepository (name : String) (capacity : Nat) : Scene Nat := do
  let handle ← look fun broker => broker.repositories.next
  let repository := KeyRepository.new capacity
  alter fun broker => { broker with repositories := broker.repositories.add repository }
  modify fun scenario => { scenario with repositories := scenario.repositories.set name handle }
  return repository.capacity

def onRepository (name : String) (step : KeyRepository → α × KeyRepository) : Scene α := do
  let handle ← find Scenario.repositories name
  match ← run (Broker.withRepository handle none fun held =>
      (some (step held).1, (step held).2)) with
  | some answer => return answer
  | none => throw (unknown name)

def keepMetrics : Scene Unit := do
  let handle ← look fun broker => broker.metrics.next
  alter fun broker => { broker with metrics := broker.metrics.add {} }
  modify fun scenario => { scenario with metrics := some handle }

def counters : Scene Counters := do
  match (← get).metrics with
  | some handle => look fun broker => (broker.metrics.getD handle).counters
  | none => return {}

def resetMetrics : Scene Unit := do
  run (Broker.count (← get).metrics Metrics.reset)

/-! ## Dead letter queues -/

def onQueue (name : String) (step : Nat → DeadLetterQueue → α × DeadLetterQueue) : Scene α := do
  let handle ← find Scenario.queues name
  let now ← run Broker.readCalendar
  let queue ← look fun broker => broker.queues.getD handle
  let (answer, queue) := step now queue
  alter fun broker => { broker with queues := broker.queues.modify handle fun _ => queue }
  return answer

def withExpiry (letters : List DeadLetter) : Scene (List (DeadLetter × Bool)) := do
  let now ← run Broker.readCalendar
  return letters.map fun letter => (letter, letter.isExpired now)

def cleanUpFor (name : String) (interval span : Duration) : Scene QueueStats := do
  let handle ← find Scenario.queues name
  let now := (← get).timeline.now
  let task ← onTimeline fun timeline => timeline.start (.cleanUp handle interval now)
  run (Routine.wait span)
  onTimeline fun timeline => ((), timeline.drop task)
  look fun broker => (broker.queues.getD handle).stats

/-! ## Sources and consumers -/

def addSource (name : String) (mode : SourceMode) : Scene Unit := do
  let handle ← look fun broker => broker.sources.next
  alter fun broker => { broker with sources := broker.sources.add { mode := mode } }
  modify fun scenario => { scenario with sources := scenario.sources.set name handle }

/-- The number of items that a source has on offer. -/
def pending (name : String) : Scene Nat := do
  let handle ← find Scenario.sources name
  look fun broker => (broker.sources.getD handle).pending

/-- Puts an item on offer and gives the number of items. -/
def push (name key : String) (draft : MessageDraft) : Scene Nat := do
  let handle ← find Scenario.sources name
  let message ← run draft.carryOut
  alter fun broker =>
    { broker with sources := broker.sources.modify handle fun held => held.push key message }
  pending name

def addConsumer (name uri source : String) (config : PollConfig) (processor : Processor) :
    Scene Unit := do
  let handle ← find Scenario.sources source
  let claims ← look fun broker => broker.claims.next
  alter fun broker => { broker with claims := broker.claims.add [] }
  let consumer : PollingConsumer :=
    { uri := uri, source := handle, claims := claims, processor := processor, config := config }
  modify fun scenario =>
    { scenario with consumers := scenario.consumers.set name { consumer := consumer } }

/-- The number of items that a consumer is routing. -/
def inProgress (name : String) : Scene Nat := do
  let state ← find Scenario.consumers name
  look fun broker => (broker.claims.getD state.consumer.claims).length

def poll (name : String) : Scene Nat := do
  let state ← find Scenario.consumers name
  expect (← run state.consumer.pollOnce)

/-- What two overlapping polls give. -/
structure Overlap where
  first : Except Failure Nat
  second : Except Failure Nat
  inProgressBetween : Nat

def pollOverlapping (name : String) (gap : Duration) : Scene Overlap := do
  let state ← find Scenario.consumers name
  let begin_ : Scene Nat := onTimeline fun timeline =>
    timeline.start (.poll state.consumer.pollOnce)
  let first ← begin_
  run (Routine.wait gap)
  let between ← inProgress name
  let second ← begin_
  return {
    first := ← onTimeline fun timeline => timeline.await first
    second := ← onTimeline fun timeline => timeline.await second
    inProgressBetween := between }

def startConsumer (name : String) : Scene Unit := do
  let state ← find Scenario.consumers name
  let (state, timeline) ← expect (state.start (← get).timeline)
  modify fun scenario =>
    { scenario with timeline := timeline, consumers := scenario.consumers.set name state }

def stopConsumer (name : String) : Scene Unit := do
  let state ← find Scenario.consumers name
  let state ← onTimeline (state.stop 0)
  modify fun scenario => { scenario with consumers := scenario.consumers.set name state }

/-! ## Processors -/

def keepProcessor (name : String) (processor : Processor) : Scene Unit :=
  modify fun scenario => { scenario with processors := scenario.processors.set name processor }

def processor (name : String) : Scene Processor :=
  find Scenario.processors name

/-- A step that fails on a script; its calls are kept under the name `record`. A failure that is not
given is made from the message and the number of the call. -/
def scripted (record name : String) (failures : Option Nat) (message : String)
    (failure : Option Failure) : Scene Processor := do
  let handle ← look fun broker => broker.calls.next
  alter fun broker => { broker with calls := broker.calls.add {} }
  modify fun scenario => { scenario with calls := scenario.calls.set record handle }
  return .scripted name failures (fun attempt => failure.getD (.scripted message attempt)) handle

/-- The calls of a step that fails on a script. -/
def callsOf (name : String) : Scene CallRecord := do
  let handle ← find Scenario.calls name
  look fun broker => broker.calls.getD handle

/-- Starts a step that fails on a script from the beginning. -/
def resetCalls (name : String) : Scene Unit := do
  let handle ← find Scenario.calls name
  alter fun broker => { broker with calls := broker.calls.modify handle fun _ => {} }

/-- The producer of the endpoint registered under a URI. -/
def producer (uri : String) : Scene Processor :=
  lookUp fun broker => broker.producer uri

def idempotent (name : String) (key : Expression) (repository : String)
    (options : IdempotentOptions) (counted : Bool) (inner : Processor) : Scene Processor := do
  let handle ← find Scenario.repositories repository
  let duplicates ← look fun broker => broker.duplicates.next
  alter fun broker => { broker with duplicates := broker.duplicates.add 0 }
  let metrics := (← get).metrics
  let consumer : IdempotentConsumer :=
    { key := fun exchange => key.evaluate exchange
      repository := handle
      options := options
      duplicates := duplicates
      metrics := if counted then metrics else none
      inner := inner }
  modify fun scenario =>
    { scenario with deduplicators := scenario.deduplicators.set name consumer }
  return consumer.toProcessor

def duplicatesOf (name : String) : Scene (Nat × IdempotentOptions) := do
  let consumer ← find Scenario.deduplicators name
  return (← look fun broker => broker.duplicates.getD consumer.duplicates, consumer.options)

/-- The error handler for some rules around a step. -/
def guard (plan : HandlerPlan) (inner : Processor) : Scene ErrorHandler :=
  lookUp fun broker => plan.build broker inner

def keepHandler (name : String) (handler : ErrorHandler) : Scene Unit := do
  modify fun scenario => { scenario with handlers := scenario.handlers.set name handler }
  keepProcessor name handler.toProcessor

def handler (name : String) : Scene ErrorHandler :=
  find Scenario.handlers name

/-! ## Routes -/

def addRoute (plan : RoutePlan) : Scene Route := do
  let (route, broker) ← lookUp fun broker => plan.build broker
  alter fun _ => broker
  modify fun scenario =>
    { scenario with routes := scenario.routes.set plan.id { route := route } }
  return route

def route (id : String) : Scene RouteState :=
  find Scenario.routes id

def send (id : String) (exchange : Exchange) : Scene Exchange := do
  expect (← run ((← route id).route.send exchange))

def sendBody (id : String) (body : Value) : Scene Exchange := do
  expect (← run ((← route id).route.sendBody body))

def startRoute (id : String) : Scene Unit := do
  let (state, timeline) ← expect ((← route id).start (← get).timeline)
  modify fun scenario =>
    { scenario with timeline := timeline, routes := scenario.routes.set id state }

def stopRoute (id : String) : Scene Unit := do
  let state ← onTimeline ((← route id).stop 0)
  modify fun scenario => { scenario with routes := scenario.routes.set id state }

end Scenario

end MessageRouting
