import MessageRouting.Engine.UnitOfWork

/-!
# Idempotent consumers

An idempotent consumer lets an exchange through only if its key was not seen
before. The key is remembered in a repository, either before the exchange is let
through or when it is done; inside a unit of work that is its end.
-/

namespace MessageRouting

/-- A step that holds back duplicates, by the keys in the repository with the handle. It counts them
under the handle `duplicates`, and in metrics if it keeps any. -/
structure IdempotentConsumer where
  key : Exchange → Option Value
  repository : Nat
  options : IdempotentOptions := {}
  duplicates : Nat
  metrics : Option Nat := none
  inner : Processor

namespace IdempotentConsumer

def keyOf (consumer : IdempotentConsumer) (exchange : Exchange) : Option String :=
  (consumer.key exchange).bind fun value =>
    if value.isNull then none else exchange.context.converter.asText value

/-- Asks the repository whether a key is new; in eager mode the key is claimed at once. -/
def accept (consumer : IdempotentConsumer) (key : String) : Routine Broker Bool :=
  Broker.withRepository consumer.repository false fun repository =>
    if consumer.options.eager then repository.add key else (!repository.contains key, repository)

/-- Counts a duplicate and drops it or lets it through, marked. -/
def duplicate (consumer : IdempotentConsumer) (exchange : Exchange) : Routine Broker Exchange := do
  Routine.modify fun broker =>
    { broker with duplicates := broker.duplicates.modify consumer.duplicates (· + 1) }
  Broker.count consumer.metrics Metrics.recordDuplicate
  let exchange := exchange.put .duplicateMessage (.bool true)
  if consumer.options.skipDuplicate then return exchange else consumer.inner.invoke exchange

def letThrough (consumer : IdempotentConsumer) (key : String) (exchange : Exchange) :
    Routine Broker Exchange := do
  let completion := Completion.settleKey consumer.repository key consumer.options
  if exchange.isInUnitOfWork then
    consumer.inner.invoke (exchange.addCompletion completion)
  else
    let exchange ← consumer.inner.invoke exchange
    completion.carryOut exchange
    return exchange

def toProcessor (consumer : IdempotentConsumer) : Processor where
  name := "idempotent-consumer"
  process exchange := do
    match consumer.keyOf exchange with
    | none => return (exchange, some (.noMessageId exchange.id.text))
    | some key =>
        if ← consumer.accept key then return (← consumer.letThrough key exchange, none)
        else return (← consumer.duplicate exchange, none)

end IdempotentConsumer

end MessageRouting
