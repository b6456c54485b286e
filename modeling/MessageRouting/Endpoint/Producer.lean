import MessageRouting.Engine.Processor

/-!
# Producers

The producer of an endpoint is the processor that delivers exchanges to it. Not
every endpoint has one.
-/

namespace MessageRouting

namespace DeliveryRecord

def add (record : DeliveryRecord) (exchange : Exchange) : DeliveryRecord :=
  { record with deliveries := record.deliveries ++
      [{ exchange := exchange.id
         message := exchange.inbound
         redelivered := exchange.flag .redelivered }] }

def reset (record : DeliveryRecord) : DeliveryRecord :=
  { record with deliveries := [], expected := none }

def bodies (record : DeliveryRecord) : List Value :=
  record.deliveries.filterMap fun delivery => delivery.message.body

end DeliveryRecord

namespace Processor

def recordDelivery (uri : String) (recording : Nat) : Processor where
  name := uri
  process exchange := do
    Routine.modify fun broker =>
      { broker with recordings := broker.recordings.modify recording fun held => held.add exchange }
    let refusal ← Routine.look fun broker =>
      (broker.recordings.get? recording).bind DeliveryRecord.refusal
    return (exchange, refusal.map Failure.plain)

/-- Adds the exchange to a dead letter queue. -/
def addToQueue (uri : String) (queue : Nat) : Processor :=
  silent uri fun exchange => do
    let now ← Broker.readCalendar
    Routine.modify fun broker =>
      { broker with queues := broker.queues.modify queue fun held => held.add exchange now }
    return exchange

/-- Fails its first calls, all of them if `failures` is missing, with the failure for the number of
the call, which counts from one. -/
def scripted (name : String) (failures : Option Nat) (failure : Nat → Failure) (calls : Nat) :
    Processor where
  name := name
  process exchange := do
    let body := (exchange.inbound.body.bind Value.text?).getD ""
    Routine.modify fun broker =>
      { broker with calls := broker.calls.modify calls fun held =>
          { held with bodies := held.bodies ++ [body] } }
    let attempt ← Routine.look fun broker =>
      ((broker.calls.get? calls).map fun held => held.bodies.length).getD 0
    let fails := failures.all fun count => attempt ≤ count
    return (exchange, if fails then some (failure attempt) else none)

end Processor

namespace Endpoint

def producer (uri : String) : Endpoint → Except Failure Processor
  | recording record => .ok (Processor.recordDelivery uri record)
  | deadLetter queue => .ok (Processor.addToQueue uri queue)
  | polling .. => .error (.unsupported ("polling endpoint " ++ uri ++ " cannot produce"))
  | closed => .error (.unsupported ("stub " ++ uri ++ " cannot produce"))

end Endpoint

namespace Broker

def producer (broker : Broker) (uri : String) : Except Failure Processor := do
  (← broker.endpoint uri).producer uri

end Broker

end MessageRouting
