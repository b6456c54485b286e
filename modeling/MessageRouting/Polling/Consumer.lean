import MessageRouting.Engine.UnitOfWork

/-!
# Polling consumers

A polling consumer takes the items that a source offers and routes each as an
exchange of its own, stamped with its place in the batch. The key of an item is
claimed when the batch is put together and released at the end of the item's
unit of work, so that an item which is still being routed is not taken again.
-/

namespace MessageRouting

/-- A consumer of the items of a source, which go through a processor as exchanges from its URI. The
keys of items in progress are claimed under the handle `claims`. -/
structure PollingConsumer where
  uri : String
  source : Nat
  claims : Nat
  processor : Processor
  config : PollConfig

namespace PollSource

def poll (source : PollSource) : Except Failure (List PolledItem) :=
  match source.mode with
  | .closed => .error (.lifecycle "source closed")
  | _ => .ok source.items

/-- The source after an item was routed: a success takes the items of that key away, where the
source does that. -/
def settle (source : PollSource) (succeeded : Bool) (key : String) : PollSource :=
  match source.mode, succeeded with
  | .memory, true => source.commit key
  | _, _ => source

def settlementNote (source : PollSource) (succeeded : Bool) (key : String) : Option String :=
  match source.mode with
  | .memory | .unsettled => some ((if succeeded then "commit:" else "rollback:") ++ key)
  | .sticky | .closed => none

end PollSource

namespace PollingConsumer

/-- Puts a batch together: the items whose keys are not claimed, until `limit` items are taken, and
the claims afterwards. A limit of 0 is no limit. -/
def claimBatch (limit taken : Nat) (claims : List String) :
    List PolledItem → List PolledItem × List String
  | [] => ([], claims)
  | item :: rest =>
      if 0 < limit ∧ taken = limit then ([], claims)
      else if claims.contains item.key then claimBatch limit taken claims rest
      else
        let (batch, claims) := claimBatch limit (taken + 1) (claims ++ [item.key]) rest
        (item :: batch, claims)

def claim (consumer : PollingConsumer) : Routine Broker (Except Failure (List PolledItem)) :=
  Routine.change fun broker =>
    match (broker.sources.getD consumer.source).poll with
    | .error failure => (.error failure, broker)
    | .ok items =>
        let claims := broker.claims.getD consumer.claims
        let (batch, claims) := claimBatch consumer.config.maximumItems 0 claims items
        (.ok batch, { broker with claims := broker.claims.modify consumer.claims fun _ => claims })

def exchangeFor (consumer : PollingConsumer) (index total : Nat) (item : PolledItem) :
    Routine Broker Exchange := do
  let exchange ← Broker.newExchange .inOnly
  let exchange := { exchange with fromEndpoint := some consumer.uri, inbound := item.message }
  let exchange := exchange.put .batchIndex (.ofNat index)
  let exchange := exchange.put .batchSize (.ofNat total)
  let exchange := exchange.put .batchComplete (.bool (index + 1 == total))
  return exchange.addCompletion (.releaseItem consumer.claims item.key)

/-- Tells the source what became of an item. -/
def settle (consumer : PollingConsumer) (succeeded : Bool) (key : String) :
    Routine Broker Unit := do
  let source ← Routine.look fun broker => broker.sources.getD consumer.source
  if let some text := source.settlementNote succeeded key then
    Broker.note text
  Routine.modify fun broker =>
    { broker with sources := broker.sources.modify consumer.source fun source =>
        source.settle succeeded key }

def routeBatch (consumer : PollingConsumer) (total : Nat) :
    Nat → List PolledItem → Routine Broker Unit
  | _, [] => pure ()
  | index, item :: rest => do
      let exchange ← consumer.processor.inUnitOfWork.invoke
        (← consumer.exchangeFor index total item)
      consumer.settle (!exchange.isFailed) item.key
      consumer.routeBatch total (index + 1) rest

def pollOnce (consumer : PollingConsumer) : Routine Broker (Except Failure Nat) := do
  match ← consumer.claim with
  | .error failure => return .error failure
  | .ok batch =>
      consumer.routeBatch batch.length 0 batch
      return .ok batch.length

end PollingConsumer

namespace Endpoint

/-- The consumer that feeds a processor from the endpoint registered under a URI; `claims` keeps its
claims. Only endpoints that are polled have one. -/
def consumer (uri : String) (processor : Processor) (claims : Nat) :
    Endpoint → Except Failure PollingConsumer
  | polling source config =>
      .ok
        { uri := uri
          source := source
          claims := claims
          processor := processor
          config := config }
  | _ => .error (.unsupported ("endpoint " ++ uri ++ " does not support consumers"))

end Endpoint

end MessageRouting
