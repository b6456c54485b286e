/-!
# Kinds of error handlers
-/

namespace MessageRouting

/-- What becomes of a failure whose redeliveries ran out. It stays on the exchange unless it is
declared handled, or goes to a dead letter destination and is handled by default. -/
inductive HandlerKind where
  | standard
  | deadLetterChannel
deriving DecidableEq, Repr, Inhabited

end MessageRouting
