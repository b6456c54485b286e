import MessageRouting.Exchange.Basic

/-!
# Expressions and predicates

An expression finds a value on an exchange, and a predicate holds of an exchange
or not.
-/

namespace MessageRouting

/-- Where a value is found on an exchange. -/
inductive Expression where
  | header (name : String)
  | property (name : String)
  | body
  | messageId
  | constant (value : Value)
deriving Inhabited

def Expression.evaluate (exchange : Exchange) : Expression → Option Value
  | header name => exchange.inbound.header? name
  | property name => exchange.property? name
  | body => exchange.inbound.body
  | messageId => some (.text exchange.inbound.id)
  | constant value => some value

/-- A condition on an exchange. -/
inductive Predicate where
  | constant (value : Bool)
  | propertyBelow (name : String) (bound : Int)
  | flag (name : String)
  | headerIs (name : String) (value : Value)
  | bodyIs (value : Value)
  | failed
  | caughtIs (text : String)
  | negated (predicate : Predicate)
deriving Inhabited

def Predicate.holds (exchange : Exchange) : Predicate → Bool
  | constant value => value
  | propertyBelow name bound =>
      (exchange.propertyAs? Converter.asInt name).any fun value => value.toInt < bound
  | flag name => exchange.hasFlag name
  | headerIs name value => (exchange.inbound.header? name).any fun found => found.same value
  | bodyIs value => exchange.inbound.body.any fun found => found.same value
  | failed => exchange.isFailed
  | caughtIs text => exchange.caught.any fun failure => failure.display == text
  | negated predicate => !predicate.holds exchange

end MessageRouting
