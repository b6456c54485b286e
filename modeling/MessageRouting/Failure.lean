import MessageRouting.ExchangeId

/-!
# Failures

What a step or the engine itself reports when something goes wrong. A failure
may have a source, and following the sources gives its chain of causes. A
failure that was captured on an exchange may turn up again inside another one;
the capture is not a cause of its own.
-/

namespace MessageRouting

/-- A failure, with the failures that caused it. Failures of a user's own types are known by name,
and `captured` is a failure that was captured on an exchange and raised again. -/
inductive Failure where
  | plain (message : String)
  | named (name message : String)
  | wrapping (name message : String) (source : Failure)
  | scripted (message : String) (attempt : Nat)
  | invalidConfig (detail : String)
  | endpointNotFound (uri : String)
  | routing (exchange : String) (source : Failure)
  | callbackDropped
  | noMessageId (exchange : String)
  | unsupported (what : String)
  | lifecycle (what : String)
  | serialization (detail : String)
  | inputOutput (message : String)
  | captured (failure : Failure)
deriving Inhabited

namespace Failure

def display : Failure → String
  | plain message => message
  | named _ message => message
  | wrapping _ message _ => message
  | scripted message _ => message
  | invalidConfig detail => "Invalid configuration: " ++ detail
  | endpointNotFound uri => "Endpoint not found: " ++ uri
  | routing exchange source =>
      "Routing failed for exchange " ++ exchange ++ ": " ++ source.display
  | callbackDropped => "Asynchronous callback dropped before completion"
  | noMessageId exchange => "No message id could be computed for exchange " ++ exchange
  | unsupported what => "Unsupported operation: " ++ what
  | lifecycle what => "Lifecycle error: " ++ what
  | serialization detail => "Serialization failed: " ++ detail
  | inputOutput message => "I/O error: " ++ message
  | captured failure => failure.display

/-- The failure that an exchange records: one capture around it is dropped. -/
def capture : Failure → Failure
  | captured failure => failure
  | failure => failure

/-- The failure and its causes, outermost first, captures left out. -/
def chain : Failure → List Failure
  | wrapping name message source => wrapping name message source :: source.chain
  | routing exchange source => routing exchange source :: source.chain
  | inputOutput message => [inputOutput message, plain message]
  | captured failure => failure.chain
  | failure => [failure]

def rootCause (failure : Failure) : Failure :=
  failure.chain.getLast?.getD failure

/-- The texts of the chain, joined by colons. -/
def renderChain (failure : Failure) : String :=
  ": ".intercalate (failure.chain.map display)

def isEngine : Failure → Bool
  | plain _ | named .. | wrapping .. | scripted .. | captured _ => false
  | _ => true

/-- A failure of a user's own type. -/
def isNamed : Failure → Bool
  | named .. | wrapping .. => true
  | _ => false

def isScripted : Failure → Bool
  | scripted .. => true
  | _ => false

/-- The name of the type of a user's own failure. -/
def name? : Failure → Option String
  | named name _ => some name
  | wrapping name _ _ => some name
  | _ => none

def attempt? : Failure → Option Nat
  | scripted _ attempt => some attempt
  | _ => none

/-- A misconfiguration, which no redelivery can mend. -/
def isMisconfiguration : Failure → Bool
  | invalidConfig _ | endpointNotFound _ => true
  | _ => false

/-- Some cause is a misconfiguration. -/
def isFatal (failure : Failure) : Bool :=
  failure.chain.any isMisconfiguration

end Failure

end MessageRouting
