import MessageRouting.Exchange.UnitOfWork
import MessageRouting.Failure
import MessageRouting.Property

/-!
# Exchanges

An exchange carries one message through a route: the inbound message, an
optional outbound and fault message, the failure of the last step, and a bag
of properties. It has one writer at a time, so every operation gives the
changed exchange.
-/

namespace MessageRouting

/-- One-way or request-reply. -/
inductive Pattern where
  | inOnly
  | inOut
deriving DecidableEq, Repr, Inhabited

namespace Pattern

def name : Pattern → String
  | inOnly => "in_only"
  | inOut => "in_out"

def ofName? : String → Option Pattern
  | "in_only" => some inOnly
  | "in_out" => some inOut
  | _ => none

end Pattern

structure Context where
  name : String
  converter : Converter := Converter.standard

instance : Inhabited Context := ⟨⟨"", Converter.standard⟩⟩

/-- One message on its way through a route. The failure that an error handler caught is kept when
the exception is cleared. -/
structure Exchange where
  id : ExchangeId
  pattern : Pattern := .inOnly
  context : Context
  inbound : Message
  outbound : Option Message := none
  fault : Option Message := none
  exception : Option Failure := none
  caught : Option Failure := none
  properties : Table Value := {}
  unitOfWork : Option UnitOfWork := none
  fromEndpoint : Option String := none
  createdAt : Nat := 0
deriving Inhabited

namespace Exchange

/-! ## Messages -/

def activeMessage (exchange : Exchange) : Message :=
  match exchange.fault, exchange.outbound with
  | some fault, _ => fault
  | none, some outbound => outbound
  | none, none => exchange.inbound

def isFailed (exchange : Exchange) : Bool :=
  exchange.exception.isSome || exchange.activeMessage.isFault

def setFault (exchange : Exchange) (message : Message) : Exchange :=
  { exchange with fault := some (message.setFault true) }

/-- Drops the fault message. -/
def clearFault (exchange : Exchange) : Exchange :=
  { exchange with fault := none }

def mapInbound (exchange : Exchange) (change : Message → Message) : Exchange :=
  { exchange with inbound := change exchange.inbound }

/-- Changes the outbound message; where there is none, an empty one with the id `freshId` is made
first. -/
def mapOutbound (exchange : Exchange) (freshId : String) (change : Message → Message) : Exchange :=
  { exchange with outbound := some (change (exchange.outbound.getD { id := freshId })) }

def promote (exchange : Exchange) : Exchange :=
  match exchange.outbound with
  | some message => { exchange with inbound := message, outbound := none }
  | none => exchange

/-! ## Properties -/

def property? (exchange : Exchange) (name : String) : Option Value :=
  exchange.properties.get? name

def propertyAs? (exchange : Exchange) (read : Converter → Value → Option α) (name : String) :
    Option α :=
  (exchange.property? name).bind (read exchange.context.converter)

/-- The property is there and reads as true. -/
def hasFlag (exchange : Exchange) (name : String) : Bool :=
  (exchange.propertyAs? Converter.asBool name).getD false

/-- The well-known property is there and reads as true. -/
def flag (exchange : Exchange) (property : Property) : Bool :=
  exchange.hasFlag property.name

def setProperty (exchange : Exchange) (name : String) (value : Value) : Exchange :=
  { exchange with properties := exchange.properties.set name value }

def removeProperty (exchange : Exchange) (name : String) : Exchange :=
  { exchange with properties := exchange.properties.erase name }

/-- Writes a well-known property. -/
def put (exchange : Exchange) (property : Property) (value : Value) : Exchange :=
  exchange.setProperty property.name value

def drop (exchange : Exchange) (property : Property) : Exchange :=
  exchange.removeProperty property.name

/-- The number of redeliveries that the exchange reports; 0 if it reports none. -/
def redeliveryCount (exchange : Exchange) : Int64 :=
  (exchange.propertyAs? Converter.asInt Property.redeliveryCounter.name).getD 0

/-- No further step may run. -/
def isRollbackOnly (exchange : Exchange) : Bool :=
  exchange.flag .rollbackOnly

/-- Marks the exchange as rollback-only, or takes the mark away. -/
def setRollbackOnly (exchange : Exchange) (rollbackOnly : Bool) : Exchange :=
  if rollbackOnly then exchange.put .rollbackOnly (.bool true) else exchange.drop .rollbackOnly

/-! ## Failures -/

def setException (exchange : Exchange) (failure : Failure) : Exchange :=
  { exchange with exception := some failure }

/-- Records what a step reported as the exception. -/
def fail (exchange : Exchange) (failure : Failure) : Exchange :=
  exchange.setException failure.capture

def clearException (exchange : Exchange) : Exchange :=
  { exchange with exception := none }

def setCaught (exchange : Exchange) (failure : Failure) : Exchange :=
  { exchange.put .exceptionCaught (.text failure.display) with caught := some failure }

/-! ## Unit of work -/

def arrival? (exchange : Exchange) : Option Message :=
  exchange.unitOfWork.map UnitOfWork.arrival

/-- The unit of work of the exchange; a new one remembers the inbound message of this moment. -/
def unitOfWorkOrNew (exchange : Exchange) : UnitOfWork :=
  exchange.unitOfWork.getD { arrival := exchange.inbound }

def addCompletion (exchange : Exchange) (completion : Completion) : Exchange :=
  { exchange with unitOfWork := some (exchange.unitOfWorkOrNew.add completion) }

/-- Moves the completions that may move to another exchange, behind its own: the source and the
target afterwards. -/
def handOver (source target : Exchange) : Exchange × Exchange :=
  match source.unitOfWork with
  | some unit =>
      ({ source with unitOfWork := some unit.keepFixed },
        unit.movable.foldl addCompletion target)
  | none => (source, target)

/-! ## Copies -/

def copyAs (exchange : Exchange) (id : ExchangeId) : Exchange :=
  { exchange with id := id, unitOfWork := none }

/-- What stays behind when the state of an exchange is moved away: the same exchange without any
content, its inbound message having the id `freshId`. -/
def blank (exchange : Exchange) (freshId : String) : Exchange where
  id := exchange.id
  pattern := exchange.pattern
  context := exchange.context
  inbound := { id := freshId }
  fromEndpoint := exchange.fromEndpoint
  createdAt := exchange.createdAt

end Exchange

end MessageRouting
