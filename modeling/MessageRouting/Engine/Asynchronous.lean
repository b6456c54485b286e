import MessageRouting.Engine.Processor

/-!
# Asynchronous steps

An asynchronous step takes an exchange over together with a callback. It either
calls back before it returns, or returns and calls back later, or gives the
callback up. Any processor can be run in this form, and any step of this form
can be run as a processor, which then waits for the callback.
-/

namespace MessageRouting

/-- What has become of an exchange when an asynchronous step returns: the callback was called with
it, will be called with the result of the rest, or was given up and the exchange with it. -/
inductive Handover where
  | returned (exchange : Exchange)
  | continued (rest : Routine Broker Exchange)
  | dropped

/-- A call of the callback, possibly before the step returned. -/
structure Callback where
  exchange : Exchange
  beforeReturn : Bool

namespace Handover

/-- The step answers that it is finished. -/
def isFinished : Handover → Bool
  | returned _ => true
  | _ => false

/-- The calls made before the step returned. -/
def earlyCalls : Handover → List Callback
  | returned exchange => [⟨exchange, true⟩]
  | _ => []

/-- All calls, when everything is done. -/
def calls : Handover → Routine Broker (List Callback)
  | returned exchange => pure [⟨exchange, true⟩]
  | continued rest => do return [⟨← rest, false⟩]
  | dropped => pure []

end Handover

/-- A step that hands the exchange back through a callback. -/
structure AsyncStep where
  start : Exchange → Routine Broker Handover

namespace AsyncStep

/-- A processor in the form with a callback: it runs until it suspends for the first time, and
calls back before it returns only if it never does. -/
def ofProcessor (processor : Processor) : AsyncStep where
  start exchange := do
    match ← (processor.invoke exchange).untilSuspended with
    | .inl exchange => return .returned exchange
    | .inr rest => return .continued rest

/-- The step that gives its callback up. -/
def drop : AsyncStep where
  start _ := pure .dropped

/-- A step with a callback as a processor. A callback that was given up is a failure, and the
exchange, which was handed over, is left without content. -/
def toProcessor (step : AsyncStep) : Processor where
  name := "async-bridge"
  process exchange := do
    match ← step.start exchange with
    | .returned exchange => return (exchange, none)
    | .continued rest => return (← rest, none)
    | .dropped => return (exchange.blank (← Broker.freshId), some .callbackDropped)

end AsyncStep

end MessageRouting
