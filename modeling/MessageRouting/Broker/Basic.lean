import MessageRouting.Broker.Endpoint
import MessageRouting.Broker.Journal
import MessageRouting.DeadLetter.Queue
import MessageRouting.Engine.Routine
import MessageRouting.Idempotent.Repository
import MessageRouting.Metrics
import MessageRouting.Redelivery.Delay
import MessageRouting.Redelivery.Event
import MessageRouting.Register

/-!
# The broker

The broker holds everything that the steps of a route share: the endpoints, the
queues and repositories, what has been recorded, and the sources of ids, times
and chances. Steps are routines over the broker.
-/

namespace MessageRouting

/-- An exchange as a recording endpoint saw it. -/
structure Delivery where
  exchange : ExchangeId
  message : Message
  redelivered : Bool
deriving Inhabited

/-- What a recording endpoint keeps: the deliveries, oldest first, the number that is expected of
them, and the failure that each of them is answered with, if any. -/
structure DeliveryRecord where
  deliveries : List Delivery := []
  expected : Option Nat := none
  refusal : Option String := none
deriving Inhabited

def DeliveryRecord.isSatisfied (record : DeliveryRecord) : Bool :=
  match record.expected with
  | some count => record.deliveries.length == count
  | none => true

/-- The inbound text of each call of a step that fails on a script, oldest first; empty where there
was none. -/
structure CallRecord where
  bodies : List String := []
deriving Inhabited

/-- A record of the ends of units of work, oldest first. Completions that enter into it may move to
another exchange if it is `movable`. -/
structure EndingRecord where
  movable : Bool := true
  completed : List ExchangeId := []
  failed : List ExchangeId := []
deriving Inhabited

/-- What the steps of a route share. Registers are looked up by handle and tables by name. The
calendar shows its next reading in nanoseconds, `issued` ids have been given out, and the journal
and the events begin with the newest. -/
structure Broker where
  context : Context := ⟨"", Converter.standard⟩
  issued : Nat := 0
  calendar : Nat := 1767225600000000000
  chance : Nat := 0
  endpoints : Table Endpoint := {}
  recordings : Register DeliveryRecord := {}
  queues : Register DeadLetterQueue := {}
  repositories : Register KeyRepository := {}
  duplicates : Register Nat := {}
  calls : Register CallRecord := {}
  endings : Table EndingRecord := {}
  metrics : Register Metrics := {}
  sources : Register PollSource := {}
  claims : Register (List String) := {}
  journal : List JournalEntry := []
  events : List RedeliveryEvent := []
deriving Inhabited

namespace Broker

/-! ## Ids, times and chances -/

/-- Gives out an id that was not given out before. -/
def freshNumber : Routine Broker Nat :=
  Routine.change fun broker => (broker.issued, { broker with issued := broker.issued + 1 })

/-- Gives out the id of a message. -/
def freshId : Routine Broker String := do
  return generatedId (← freshNumber)

/-- Reads the calendar. Every reading is later than the one before: that a clock is set back is left
out. -/
def readCalendar : Routine Broker Nat :=
  Routine.change fun broker =>
    (broker.calendar, { broker with calendar := broker.calendar + 1 })

def drawChance : Routine Broker Nat :=
  Routine.change fun broker =>
    (chanceDraw broker.chance, { broker with chance := nextChance broker.chance })

def newExchange (pattern : Pattern) : Routine Broker Exchange := do
  let context ← Routine.look Broker.context
  let number ← freshNumber
  let message ← freshId
  let createdAt ← readCalendar
  return {
    id := ⟨number⟩
    pattern := pattern
    context := context
    inbound := { id := message }
    createdAt := createdAt }

/-! ## Journal and events -/

def enter (entry : JournalEntry) : Routine Broker Unit :=
  Routine.modify fun broker => { broker with journal := entry :: broker.journal }

/-- Notes that something happened. -/
def note (text : String) : Routine Broker Unit :=
  enter (.note text)

/-- Reports an event; an event whose level is `off` is not reported. -/
def report (event : RedeliveryEvent) : Routine Broker Unit :=
  if event.level = .off then pure ()
  else Routine.modify fun broker => { broker with events := event :: broker.events }

/-! ## Components -/

def count (metrics : Option Nat) (change : Metrics → Metrics) : Routine Broker Unit :=
  match metrics with
  | some handle =>
      Routine.modify fun broker =>
        { broker with metrics := broker.metrics.modify handle change }
  | none => pure ()

def withRepository (handle : Nat) (standard : α) (step : KeyRepository → α × KeyRepository) :
    Routine Broker α :=
  Routine.change fun broker =>
    match broker.repositories.get? handle with
    | some repository =>
        ((step repository).1,
          { broker with repositories :=
              broker.repositories.modify handle fun held => (step held).2 })
    | none => (standard, broker)

/-- Registers an endpoint under a URI; the endpoint registered before is replaced. -/
def register (uri : String) (endpoint : Endpoint) : Routine Broker Unit :=
  Routine.modify fun broker =>
    { broker with endpoints := broker.endpoints.set uri endpoint }

def endpoint (broker : Broker) (uri : String) : Except Failure Endpoint :=
  match broker.endpoints.get? uri with
  | some endpoint => .ok endpoint
  | none => .error (.endpointNotFound uri)

end Broker

end MessageRouting
