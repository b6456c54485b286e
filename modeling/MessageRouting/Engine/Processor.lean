import MessageRouting.Broker.Basic

/-!
# Processors

A processor is a step of a route: it changes an exchange, may take time, and may
report a failure. Invoking a processor records that failure on the exchange, so
that whoever composes processors looks at the exchange only.
-/

namespace MessageRouting

/-- A step of a route. It leaves an exchange, and a failure if it reports one. -/
structure Processor where
  name : String
  process : Exchange → Routine Broker (Exchange × Option Failure)

namespace Processor

/-- Runs a step and records the failure that it reports as the exception of the exchange. -/
def invoke (processor : Processor) (exchange : Exchange) : Routine Broker Exchange := do
  let (exchange, failure) ← processor.process exchange
  return match failure with
    | some failure => exchange.fail failure
    | none => exchange

def ofFunction (name : String) (change : Exchange → Exchange × Option Failure) : Processor where
  name := name
  process exchange := pure (change exchange)

/-- A step that runs a routine and reports no failure of its own. -/
def silent (name : String) (body : Exchange → Routine Broker Exchange) : Processor where
  name := name
  process exchange := do
    let exchange ← body exchange
    return (exchange, none)

/-- The step under another name. -/
def rename (processor : Processor) (name : String) : Processor :=
  { processor with name := name }

@[simp]
theorem invoke_silent (name : String) (body : Exchange → Routine Broker Exchange) :
    (silent name body).invoke = body := by
  funext exchange
  simp [invoke, silent]

end Processor

end MessageRouting
