import MessageRouting.Engine.UnitOfWork
import MessageRouting.Expression
import MessageRouting.Scenario.Draft
import MessageRouting.Scenario.UpperCase

/-!
# Actions

An action is one thing that a step of a scenario does to an exchange. It may
find something out, and it may report a failure.
-/

namespace MessageRouting

/-- One thing done to an exchange. The first use of a record of ends decides whether its entries may
move. -/
inductive Action where
  | setBody (value : Value)
  | clearBody
  | body
  | bodyAs (kind : Kind)
  | setHeader (name : String) (value : Value)
  | removeHeader (name : String)
  | header (name : String)
  | headerAs (name : String) (kind : Kind)
  | setInboundFault (fault : Bool)
  | setInbound (draft : MessageDraft)
  | setOutboundBody (value : Value)
  | setOutboundHeader (name : String) (value : Value)
  | setOutboundFault (fault : Bool)
  | touchOutbound
  | copyToOutbound
  | hasOutbound
  | setOutbound (draft : MessageDraft)
  | takeOutbound
  | promote
  | setFault (draft : MessageDraft)
  | clearFault
  | activeMessage
  | setProperty (name : String) (value : Value)
  | removeProperty (name : String)
  | property (name : String)
  | propertyAs (name : String) (kind : Kind)
  | flag (name : String)
  | hasProperty (name : String)
  | setRollbackOnly (rollbackOnly : Bool)
  | setException (failure : Failure)
  | takeException
  | clearException
  | setCaught (failure : Failure)
  | exceptionChain
  | setPattern (pattern : Pattern)
  | setFromEndpoint (uri : String)
  | noteAtEnd (label : String) (movable : Bool)
  | recordEnd (name : String) (movable : Bool)
  | beginUnitOfWork
  | endUnitOfWork
  | arrival
  | evaluate (expression : Expression)
  | test (predicate : Predicate)
  | upperCase
  | propertyToHeader (property header : String)
  | whole
  | raise (failure : Failure)
  | raiseIf (predicate : Predicate) (failure : Failure)

/-- What an action did. -/
structure Performance where
  exchange : Exchange
  observation : Observation := .done
  failure : Option Failure := none

namespace Performance

def changing (exchange : Exchange) : Performance :=
  { exchange := exchange }

/-- An action that only finds something out. -/
def finding (exchange : Exchange) (observation : Observation) : Performance :=
  { exchange := exchange, observation := observation }

end Performance

namespace Action

open Performance (changing finding)

def mapOutbound (exchange : Exchange) (change : Message → Message) :
    Routine Broker Performance := do
  return changing (exchange.mapOutbound (← Broker.freshId) change)

/-- The completion for an entry into a record of ends, after making the record if it is new. -/
def endingRecord (name : String) (movable : Bool) : Routine Broker Completion :=
  Routine.change fun broker =>
    match broker.endings.get? name with
    | some record => (.record name record.movable, broker)
    | none =>
        (.record name movable,
          { broker with endings := broker.endings.set name { movable := movable } })

def perform (exchange : Exchange) : Action → Routine Broker Performance
  | setBody value => pure <| changing <| exchange.mapInbound fun message => message.setBody value
  | clearBody => pure <| changing <| exchange.mapInbound Message.clearBody
  | body => pure <| finding exchange <| .value exchange.inbound.body
  | bodyAs kind =>
      pure <| finding exchange <| .value <|
        exchange.inbound.bodyAs? (exchange.context.converter.asKind kind)
  | setHeader name value =>
      pure <| changing <| exchange.mapInbound fun message => message.setHeader name value
  | removeHeader name =>
      let (dropped, inbound) := exchange.inbound.removeHeader name
      pure <| finding { exchange with inbound := inbound } <| .value dropped
  | header name => pure <| finding exchange <| .value (exchange.inbound.header? name)
  | headerAs name kind =>
      pure <| finding exchange <| .value <|
        exchange.inbound.headers.getAs? (exchange.context.converter.asKind kind) name
  | setInboundFault fault =>
      pure <| changing <| exchange.mapInbound fun message => message.setFault fault
  | setInbound draft => do return changing { exchange with inbound := ← draft.carryOut }
  | setOutboundBody value => mapOutbound exchange fun message => message.setBody value
  | setOutboundHeader name value => mapOutbound exchange fun message => message.setHeader name value
  | setOutboundFault fault => mapOutbound exchange fun message => message.setFault fault
  | touchOutbound => mapOutbound exchange id
  | copyToOutbound => mapOutbound exchange fun message => message.copyFrom exchange.inbound
  | hasOutbound => pure <| finding exchange <| .truth exchange.outbound.isSome
  | setOutbound draft => do return changing { exchange with outbound := some (← draft.carryOut) }
  | takeOutbound =>
      pure <| finding { exchange with outbound := none } <| .message exchange.outbound
  | promote => pure <| changing exchange.promote
  | setFault draft => do return changing (exchange.setFault (← draft.carryOut))
  | clearFault => pure <| changing exchange.clearFault
  | activeMessage => pure <| finding exchange <| .message (some exchange.activeMessage)
  | setProperty name value => pure <| changing <| exchange.setProperty name value
  | removeProperty name =>
      pure <| finding (exchange.removeProperty name) <| .value (exchange.property? name)
  | property name => pure <| finding exchange <| .value (exchange.property? name)
  | propertyAs name kind =>
      pure <| finding exchange <| .value <|
        exchange.propertyAs? (fun converter => converter.asKind kind) name
  | flag name => pure <| finding exchange <| .truth (exchange.hasFlag name)
  | hasProperty name => pure <| finding exchange <| .truth (exchange.property? name).isSome
  | setRollbackOnly rollbackOnly => pure <| changing <| exchange.setRollbackOnly rollbackOnly
  | setException failure => pure <| changing <| exchange.fail failure
  | takeException =>
      pure <| finding exchange.clearException <| .text (exchange.exception.map Failure.display)
  | clearException => pure <| changing exchange.clearException
  | setCaught failure => pure <| changing <| exchange.setCaught failure.capture
  | exceptionChain =>
      pure <| finding exchange <| .text (exchange.exception.map Failure.renderChain)
  | setPattern pattern => pure <| changing { exchange with pattern := pattern }
  | setFromEndpoint uri => pure <| changing { exchange with fromEndpoint := some uri }
  | noteAtEnd label movable => pure <| changing <| exchange.addCompletion (.note label movable)
  | recordEnd name movable => do
      return changing (exchange.addCompletion (← endingRecord name movable))
  | beginUnitOfWork =>
      pure <| changing { exchange with unitOfWork := some { arrival := exchange.inbound } }
  | endUnitOfWork =>
      match exchange.unitOfWork with
      | some _ => do return changing (← exchange.endUnitOfWork)
      | none => pure <| finding exchange .absent
  | arrival => pure <| finding exchange <| .message exchange.arrival?
  | evaluate expression => pure <| finding exchange <| .value (expression.evaluate exchange)
  | test predicate => pure <| finding exchange <| .truth (predicate.holds exchange)
  | upperCase =>
      let text := (exchange.inbound.bodyAs? exchange.context.converter.asText).getD ""
      mapOutbound exchange fun message => message.setBody (.text (Text.upper text))
  | propertyToHeader source target =>
      pure <| changing <| exchange.mapInbound fun message =>
        message.setHeader target (Value.ofOption (exchange.property? source))
  | whole => pure <| finding exchange <| .exchange exchange
  | raise failure => pure { exchange := exchange, failure := some failure }
  | raiseIf predicate failure =>
      pure
        { exchange := exchange
          failure := if predicate.holds exchange then some failure else none }

/-- Performs actions in order up to the first that reports a failure. What they find goes into the
journal under the name of the step. -/
def performAll (step : String) : List Action → Exchange → Routine Broker (Exchange × Option Failure)
  | [], exchange => pure (exchange, none)
  | action :: rest, exchange => do
      let performance ← action.perform exchange
      if performance.observation.isAnswer then
        Broker.enter (.finding step performance.observation)
      match performance.failure with
      | some failure => return (performance.exchange, some failure)
      | none => performAll step rest performance.exchange

end Action

namespace Processor

def acting (name : String) (actions : List Action) : Processor where
  name := name
  process exchange := do
    Broker.note name
    Action.performAll name actions exchange

def pausing (name : String) (span : Duration) (actions : List Action) : Processor where
  name := name
  process exchange := do
    Broker.note (name ++ ":begin")
    Routine.wait span
    Broker.note (name ++ ":end")
    Action.performAll name actions exchange

end Processor

end MessageRouting
