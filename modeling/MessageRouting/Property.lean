import MessageRouting.Text.Quoted

/-!
# Well-known properties

The engine keeps its bookkeeping in the properties of an exchange, each under
a fixed name. Names are case-sensitive, and any other name belongs to the user.
-/

namespace MessageRouting

/-- A property that the engine itself reads or writes. `failureHandled` is written on every
exhausted path, `errorHandlerHandled` where the failure was declared handled. -/
inductive Property where
  | batchIndex
  | batchSize
  | batchComplete
  | redeliveryCounter
  | redelivered
  | redeliveryExhausted
  | rollbackOnly
  | failureHandled
  | errorHandlerHandled
  | exceptionCaught
  | correlationId
  | fromEndpoint
  | toEndpoint
  | interceptedEndpoint
  | failureEndpoint
  | routeStop
  | duplicateMessage
deriving DecidableEq, Repr

namespace Property

/-- Every well-known property. -/
def all : List Property :=
  [.batchIndex, .batchSize, .batchComplete, .redeliveryCounter, .redelivered,
    .redeliveryExhausted, .rollbackOnly, .failureHandled, .errorHandlerHandled, .exceptionCaught,
    .correlationId, .fromEndpoint, .toEndpoint, .interceptedEndpoint, .failureEndpoint,
    .routeStop, .duplicateMessage]

/-- The short name of a property. -/
def label : Property → String
  | batchIndex => "BatchIndex"
  | batchSize => "BatchSize"
  | batchComplete => "BatchComplete"
  | redeliveryCounter => "RedeliveryCounter"
  | redelivered => "Redelivered"
  | redeliveryExhausted => "RedeliveryExhausted"
  | rollbackOnly => "RollbackOnly"
  | failureHandled => "FailureHandled"
  | errorHandlerHandled => "ErrorHandlerHandled"
  | exceptionCaught => "ExceptionCaught"
  | correlationId => "CorrelationId"
  | fromEndpoint => "FromEndpoint"
  | toEndpoint => "ToEndpoint"
  | interceptedEndpoint => "InterceptedEndpoint"
  | failureEndpoint => "FailureEndpoint"
  | routeStop => "RouteStop"
  | duplicateMessage => "DuplicateMessage"

def name : Property → String
  | batchIndex => "CourierBatchIndex"
  | batchSize => "CourierBatchSize"
  | batchComplete => "CourierBatchComplete"
  | redeliveryCounter => "CourierRedeliveryCounter"
  | redelivered => "CourierRedelivered"
  | redeliveryExhausted => "CourierRedeliveryExhausted"
  | rollbackOnly => "CourierRollbackOnly"
  | failureHandled => "CourierFailureHandled"
  | errorHandlerHandled => "CourierErrorHandlerHandled"
  | exceptionCaught => "CourierExceptionCaught"
  | correlationId => "CourierCorrelationId"
  | fromEndpoint => "CourierFromEndpoint"
  | toEndpoint => "CourierToEndpoint"
  | interceptedEndpoint => "CourierInterceptedEndpoint"
  | failureEndpoint => "CourierFailureEndpoint"
  | routeStop => "CourierRouteStop"
  | duplicateMessage => "CourierDuplicateMessage"

def ofName? (name : String) : Option Property :=
  all.find? fun property => property.name == name

theorem name_injective {left right : Property} (same : left.name = right.name) : left = right := by
  cases left <;> cases right <;> first | rfl | (revert same; decide +kernel)

end Property

/-- The key of a property: a well-known property or a name of the user's own. -/
inductive PropertyKey where
  | known (property : Property)
  | custom (name : String)
deriving DecidableEq, Repr

namespace PropertyKey

def ofName (name : String) : PropertyKey :=
  match Property.ofName? name with
  | some property => .known property
  | none => .custom name

def name : PropertyKey → String
  | known property => property.name
  | custom name => name

def isKnown : PropertyKey → Bool
  | known _ => true
  | custom _ => false

/-- A key for people who debug: the short name of a well-known property, or the user's own name in
quotes. -/
def describe : PropertyKey → String
  | known property => property.label
  | custom name => "Custom(" ++ Text.quoted name ++ ")"

end PropertyKey

end MessageRouting
