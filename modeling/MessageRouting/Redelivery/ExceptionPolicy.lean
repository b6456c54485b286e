import MessageRouting.Engine.Processor
import MessageRouting.Redelivery.Policy

/-!
# Exception policies

An exception policy says how an error handler treats the failures that it
accepts, where that differs from the handler's own rules. Which of several
policies applies to a failure is found along its chain of causes.
-/

namespace MessageRouting

/-- How failures of some kind are treated. What is missing is left to the error handler. If there is
`retryWhile`, it alone decides whether to try again, whatever the limit of redeliveries. -/
structure ExceptionPolicy where
  accepts : Failure → Bool
  redelivery : Option RedeliveryPolicy := none
  handled : Option (Exchange → Bool) := none
  retryWhile : Option (Exchange → Bool) := none
  onRedelivery : Option Processor := none
  useArrival : Option Bool := none
  deadLetter : Option String := none

namespace Failure

def innermostFirst (accepts : α → Failure → Bool) (items : List α) (failure : Failure) : Option α :=
  failure.chain.reverse.findSome? fun cause => items.find? fun item => accepts item cause

def outermostFirst (accepts : α → Failure → Bool) (items : List α) (failure : Failure) : Option α :=
  failure.chain.findSome? fun cause => items.find? fun item => accepts item cause

end Failure

abbrev PolicyStrategy := List ExceptionPolicy → Failure → Option ExceptionPolicy

namespace PolicyStrategy

/-- Looks for the innermost cause. -/
def innermost : PolicyStrategy :=
  Failure.innermostFirst ExceptionPolicy.accepts

/-- Looks for the outermost cause. -/
def outermost : PolicyStrategy :=
  Failure.outermostFirst ExceptionPolicy.accepts

end PolicyStrategy

namespace RedeliveryPolicy

/-- The redelivery with the given number may run. A predicate, where there is one, decides alone. -/
def shouldRedeliver (policy : RedeliveryPolicy) (retryWhile : Option (Exchange → Bool))
    (exchange : Exchange) (attempt : Nat) : Bool :=
  match retryWhile with
  | some mayRetry => mayRetry exchange
  | none => policy.allowsAttempt attempt

end RedeliveryPolicy

end MessageRouting
