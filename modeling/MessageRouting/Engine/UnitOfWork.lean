import MessageRouting.Engine.Processor

/-!
# Running in a unit of work

A processor that runs in a unit of work begins one, unless the exchange is in
the hands of another such processor already, and ends it afterwards. Each
completion is then carried out once, in the order of registration: as a failure
if the exchange is failed at that moment, as a success otherwise.
-/

namespace MessageRouting

namespace Completion

/-- What a completion makes of the broker when the exchange ended in a success. An idempotent
consumer looks at the exchange again: a handled failure is none of its successes. -/
def complete (exchange : Exchange) (broker : Broker) : Completion → Broker
  | note label _ => { broker with journal := .note (label ++ ":complete") :: broker.journal }
  | record name _ =>
      { broker with endings := broker.endings.update name fun record =>
          { record with completed := record.completed ++ [exchange.id] } }
  | settleKey repository key options =>
      { broker with repositories := broker.repositories.modify repository fun held =>
          held.settle options (!exchange.isFailed && !exchange.flag .failureHandled) key }
  | releaseItem claims key =>
      { broker with claims := broker.claims.modify claims fun keys =>
          keys.filter fun other => other != key }

def fail (exchange : Exchange) (broker : Broker) : Completion → Broker
  | note label _ => { broker with journal := .note (label ++ ":failure") :: broker.journal }
  | record name _ =>
      { broker with endings := broker.endings.update name fun record =>
          { record with failed := record.failed ++ [exchange.id] } }
  | settleKey repository key options =>
      { broker with repositories := broker.repositories.modify repository fun held =>
          held.settle options false key }
  | releaseItem claims key =>
      { broker with claims := broker.claims.modify claims fun keys =>
          keys.filter fun other => other != key }

/-- Carries out a completion for an exchange at its end: as a failure if the exchange is failed, as a
success otherwise. -/
def carryOut (exchange : Exchange) (completion : Completion) : Routine Broker Unit :=
  Routine.modify fun broker =>
    if exchange.isFailed then completion.fail exchange broker
    else completion.complete exchange broker

variable (exchange : Exchange)

theorem carryOut_note (label : String) (movable : Bool) :
    (note label movable).carryOut exchange =
      Broker.note (label ++ (if exchange.isFailed then ":failure" else ":complete")) := by
  unfold carryOut
  cases exchange.isFailed <;> rfl

theorem carryOut_record (name : String) (movable : Bool) :
    (record name movable).carryOut exchange =
      Routine.modify fun broker =>
        { broker with endings := broker.endings.update name fun record =>
            if exchange.isFailed then { record with failed := record.failed ++ [exchange.id] }
            else { record with completed := record.completed ++ [exchange.id] } } := by
  unfold carryOut
  cases exchange.isFailed <;> rfl

theorem carryOut_settleKey (repository : Nat) (key : String) (options : IdempotentOptions) :
    (settleKey repository key options).carryOut exchange =
      Routine.modify fun broker =>
        { broker with repositories := broker.repositories.modify repository fun held =>
            held.settle options (!exchange.isFailed && !exchange.flag .failureHandled) key } := by
  unfold carryOut
  cases failed : exchange.isFailed with
  | true => rfl
  | false =>
      unfold complete
      rw [failed]
      rfl

theorem carryOut_releaseItem (claims : Nat) (key : String) :
    (releaseItem claims key).carryOut exchange =
      Routine.modify fun broker =>
        { broker with claims := broker.claims.modify claims fun keys =>
            keys.filter fun other => other != key } := by
  unfold carryOut
  cases exchange.isFailed <;> rfl

end Completion

namespace Exchange

def endUnitOfWork (exchange : Exchange) : Routine Broker Exchange :=
  match exchange.unitOfWork with
  | some unit => do
      let exchange := { exchange with unitOfWork := none }
      Routine.forEach unit.completions (Completion.carryOut exchange)
      return exchange
  | none => pure exchange

def isInUnitOfWork (exchange : Exchange) : Bool :=
  exchange.unitOfWork.any UnitOfWork.isActive

/-- Takes the unit of work of the exchange in hand, beginning one if there is none. -/
def enterUnitOfWork (exchange : Exchange) : Exchange :=
  { exchange with unitOfWork := some exchange.unitOfWorkOrNew.activate }

end Exchange

namespace Processor

/-- Runs a step in a unit of work. Inside of another one the step just runs. -/
def inUnitOfWork (inner : Processor) : Processor :=
  silent "unit-of-work" fun exchange =>
    if exchange.isInUnitOfWork then inner.invoke exchange
    else do
      let exchange ← inner.invoke exchange.enterUnitOfWork
      exchange.endUnitOfWork

end Processor

end MessageRouting
