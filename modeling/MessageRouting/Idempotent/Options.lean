/-!
# Options of an idempotent consumer
-/

namespace MessageRouting

/-- How an idempotent consumer treats keys and duplicates. A key is claimed before processing if
`eager`, else on completion; duplicates are dropped, or passed on with a mark; a key may be released
when processing fails, so that the message can be sent again. -/
structure IdempotentOptions where
  eager : Bool := true
  skipDuplicate : Bool := true
  removeOnFailure : Bool := false
deriving DecidableEq, Repr, Inhabited

end MessageRouting
