import MessageRouting.Polling.Source

/-!
# Endpoints

An endpoint is where exchanges leave or enter the engine. Endpoints are
registered under a URI; what an endpoint does is held in the broker, and the
endpoint itself only says where.
-/

namespace MessageRouting

/-- What is registered under a URI: a recording of deliveries, a dead letter queue, a source for
consumers, or an endpoint that neither takes nor gives exchanges. -/
inductive Endpoint where
  | recording (record : Nat)
  | deadLetter (queue : Nat)
  | polling (source : Nat) (config : PollConfig)
  | closed
deriving Inhabited

end MessageRouting
