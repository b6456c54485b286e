import MessageRouting.Config.Basic
import MessageRouting.Redelivery.Delay

/-!
# The schedule of redelivery delays

What the redelivery rules of a configuration come to, attempt by attempt.
-/

namespace MessageRouting

structure ScheduledDelay where
  attempt : Nat
  delay : Duration
  allowed : Bool
deriving DecidableEq, Repr

namespace RedeliveryPolicy

/-- The delays before the first `count` redeliveries, from the one with the number `first`; the
chance of each is drawn from `chance`. -/
def scheduleFrom (policy : RedeliveryPolicy) (chance first : Nat) : Nat → List ScheduledDelay
  | 0 => []
  | count + 1 =>
      { attempt := first
        delay := policy.delayFor first (chanceDraw chance)
        allowed := policy.allowsAttempt first } ::
        policy.scheduleFrom (nextChance chance) (first + 1) count

/-- As many delays before the redelivery with the given number as `count` says, each by a chance of
its own, drawn from `chance`. -/
def sampleDelays (policy : RedeliveryPolicy) (attempt chance : Nat) : Nat → List Duration
  | 0 => []
  | count + 1 =>
      policy.delayFor attempt (chanceDraw chance) ::
        policy.sampleDelays attempt (nextChance chance) count

def scheduleDocument (policy : RedeliveryPolicy) (chance count : Nat) : Json :=
  .object
    [("maximum_redeliveries", .int policy.maximum),
      ("schedule", .array ((policy.scheduleFrom chance 1 count).map fun entry =>
        .object
          [("attempt", .int entry.attempt),
            ("delay_ms", .int entry.delay.millis),
            ("allowed", .bool entry.allowed)]))]

end RedeliveryPolicy

def RoutingConfig.delaySchedule (text : Option String) (attempts chance : Nat) :
    Except Failure Json := do
  let config ← match text with
    | some text => RoutingConfig.read text
    | none => pure {}
  return (← config.redeliveryPolicy).scheduleDocument chance attempts

end MessageRouting
