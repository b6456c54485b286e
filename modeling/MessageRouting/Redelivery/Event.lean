import MessageRouting.Duration
import MessageRouting.Redelivery.Level
import MessageRouting.Text.Numeral

/-!
# Events of an error handler

What an error handler reports about an exchange while it tries again, gives up
or passes the exchange on. Every event has a level, a message and some fields.
-/

namespace MessageRouting

/-- The content of a field of an event. -/
inductive EventField where
  | text (value : String)
  | number (value : Nat)
deriving DecidableEq, Repr

inductive RedeliveryEvent where
  | waiting (delay : Duration)
  | faultReturned
  | fatal (error : String)
  | redelivery (level : Level) (attempt : Nat) (delay : Duration) (detail : String)
  | exhausted (level : Level) (redeliveries : Int64) (detail : String)
  | destinationUnavailable (error : String)
  | destinationFailed (endpoint error : String)
  | deadLettered (endpoint : String)
  | handled (error : String)
deriving DecidableEq, Repr

namespace RedeliveryEvent

def level : RedeliveryEvent → Level
  | waiting _ => .trace
  | faultReturned => .debug
  | fatal _ => .error
  | redelivery level .. => level
  | exhausted level .. => level
  | destinationUnavailable _ => .error
  | destinationFailed .. => .error
  | deadLettered _ => .debug
  | handled _ => .info

def message : RedeliveryEvent → String
  | waiting _ => "waiting before redelivery"
  | faultReturned => "processor returned a fault"
  | fatal _ => "fatal failure, not redelivering"
  | redelivery _ attempt delay detail =>
      "failed delivery, redelivery attempt " ++ Text.showNat attempt ++ " in " ++
        Text.showNat delay.millis ++ "ms: " ++ detail
  | exhausted _ redeliveries detail =>
      "failed delivery, exhausted after " ++ Text.showInt redeliveries.toInt ++
        " redeliveries: " ++ detail
  | destinationUnavailable _ => "dead letter endpoint unavailable"
  | destinationFailed .. => "delivery to dead letter failed"
  | deadLettered _ => "exchange dead-lettered"
  | handled _ => "failure handled"

def fields : RedeliveryEvent → List (String × EventField)
  | waiting delay => [("delay_ms", .number delay.millis)]
  | faultReturned => []
  | fatal error => [("error", .text error)]
  | redelivery .. => []
  | exhausted .. => []
  | destinationUnavailable error => [("error", .text error)]
  | destinationFailed endpoint error => [("endpoint", .text endpoint), ("error", .text error)]
  | deadLettered endpoint => [("endpoint", .text endpoint)]
  | handled error => [("error", .text error)]

end RedeliveryEvent

end MessageRouting
