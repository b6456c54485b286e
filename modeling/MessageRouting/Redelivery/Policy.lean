import MessageRouting.Number.Notation
import MessageRouting.Redelivery.DelayPattern
import MessageRouting.Redelivery.Level

/-!
# Redelivery policies

A redelivery policy says how often a failed step is tried again, how long to
wait before each attempt, and what is logged. Settings become a policy when
they are checked; a policy never fails afterwards.
-/

namespace MessageRouting

/-- The rules of redelivery, with a delay pattern of type `π`: a text in settings, the pattern
itself in a policy. A maximum of -1 sets no limit, nor does a longest delay of zero.
`collisionPercent` is the width of the random move of a delay, half of it either way, and a pattern
replaces all computed delays. -/
structure RedeliveryRules (π : Type) where
  maximum : Int := 0
  delay : Duration := .ofMillis 1000
  maximumDelay : Duration := .ofSeconds 60
  multiplier : Binary64 := .ofNat 2
  exponential : Bool := false
  collisionAvoidance : Bool := false
  collisionPercent : Binary64 := .ofNat 30
  pattern : Option π := none
  retryLevel : Level := .debug
  exhaustedLevel : Level := .error
  logStackTrace : Bool := true
  logRetry : Bool := true
  logExhausted : Bool := true
  logHandled : Bool := false
deriving Inhabited

abbrev RedeliverySettings := RedeliveryRules String

/-- Rules that have been checked. -/
abbrev RedeliveryPolicy := RedeliveryRules DelayPattern

namespace RedeliverySettings

/-- The policy for the settings, or the first thing that is wrong with them: the limit, the
multiplier, the percentage, or the delay pattern. A blank pattern is no pattern. -/
def check (settings : RedeliverySettings) : Except Failure RedeliveryPolicy :=
  if settings.maximum < -1 then
    .error (.invalidConfig
      ("maximum_redeliveries must be -1 or greater, got " ++ Text.showInt settings.maximum))
  else if !settings.multiplier.isFinite || settings.multiplier.lt (.ofNat 1) then
    .error (.invalidConfig
      ("back_off_multiplier must be at least 1.0, got " ++ settings.multiplier.showPlain))
  else if settings.collisionPercent.isNaN || settings.collisionPercent.lt (.ofNat 0) ||
      (Binary64.ofNat 100).lt settings.collisionPercent then
    .error (.invalidConfig
      ("collision_avoidance_percent must be within 0..=100, got " ++
        settings.collisionPercent.showPlain))
  else
    match settings.pattern with
    | none => .ok { settings with pattern := none }
    | some text =>
        if Text.isAllBlank text then .ok { settings with pattern := none }
        else (DelayPattern.read text).map fun pattern => { settings with pattern := some pattern }

end RedeliverySettings

namespace RedeliveryPolicy

/-- The redelivery with the given number, counted from one, is within the limit. -/
def allowsAttempt (policy : RedeliveryPolicy) (attempt : Nat) : Bool :=
  policy.maximum < 0 || (attempt : Int) ≤ policy.maximum

end RedeliveryPolicy

end MessageRouting
