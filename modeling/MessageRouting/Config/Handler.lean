import MessageRouting.Config.Basic
import MessageRouting.Redelivery.ErrorHandler

/-!
# The error handler of a configuration
-/

namespace MessageRouting

namespace RoutingConfig

def handlerPlan (config : RoutingConfig) : Except Failure HandlerPlan := do
  let settings := config.errorHandler
  let plan ← match settings.kind, settings.deadLetterUri with
    | .deadLetterChannel, some uri => pure (HandlerPlan.deadLetterChannel (.uri uri))
    | .deadLetterChannel, none =>
        throw (.invalidConfig "dead_letter_channel requires dead_letter_uri")
    | .standard, _ => pure HandlerPlan.standard
  let redelivery ← config.redeliveryPolicy
  return { plan with
    redelivery := redelivery
    useArrival := settings.useArrival
    handled := settings.handled.map fun handled _ => handled }

end RoutingConfig

end MessageRouting
