import MessageRouting.Engine.Processor

/-!
# Pipelines

A pipeline runs its steps in order on the same exchange. The outbound message of
a step becomes the inbound message of the next one. The pipeline ends with the
first step that leaves the exchange failed, marked as rollback-only or handled
by an error handler, and it starts no step on an exchange that asks to stop.
-/

namespace MessageRouting

/-- The next step may run on the exchange. -/
def Exchange.mayContinue (exchange : Exchange) : Bool :=
  !exchange.isFailed && !exchange.isRollbackOnly && !exchange.flag .errorHandlerHandled

namespace Processor

/-- Runs steps in order. `promoting` says that a step ran before, whose outbound message becomes the
inbound message of the first of these. -/
def runSteps (promoting : Bool) : List Processor → Exchange → Routine Broker Exchange
  | [], exchange => pure exchange
  | step :: rest, exchange =>
      if exchange.flag .routeStop then pure exchange
      else do
        let exchange ← step.invoke (if promoting then exchange.promote else exchange)
        if exchange.mayContinue then runSteps true rest exchange else pure exchange

def pipeline (name : String) (steps : List Processor) : Processor :=
  silent name (runSteps false steps)

end Processor

end MessageRouting
