import MessageRouting.Duration
import MessageRouting.Exchange.Basic

/-!
# Dead letter queues

A dead letter queue keeps the last messages whose delivery failed, each with
the reason, up to a largest number and for a limited time. Times are readings
of a calendar in nanoseconds.
-/

namespace MessageRouting

/-- What a dead letter queue keeps: so many entries, beyond which the oldest one is dropped, each
for a limited time, and nothing at all if it is not enabled. -/
structure QueueConfig where
  maximumSize : Nat := 10000
  timeToLive : Duration := .ofSeconds 86400
  enabled : Bool := true
deriving DecidableEq, Repr, Inhabited

/-- A message whose delivery failed. -/
structure DeadLetter where
  exchange : ExchangeId
  message : Message
  fromEndpoint : Option String
  reason : String
  redeliveries : Int64
  addedAt : Nat
  expiresAt : Nat
deriving Inhabited

/-- How many entries there are, and how many were added, taken or removed, expired, or dropped to
make room. The counts have no largest value: that one overflows 64 bits is left out. -/
structure QueueStats where
  size : Nat := 0
  added : Nat := 0
  removed : Nat := 0
  expired : Nat := 0
  dropped : Nat := 0
deriving DecidableEq, Repr, Inhabited

/-- A queue of dead letters, oldest first. The largest size of its configuration is positive. -/
structure DeadLetterQueue where
  config : QueueConfig
  entries : List DeadLetter := []
  stats : QueueStats := {}
deriving Inhabited

def Calendar.last : Nat := 8210266876799999999999

/-- The longest span that the calendar can count, in milliseconds. -/
def Calendar.maximumMillis : Nat := 9223372036854775807

/-- The reading a span after another reading; the last reading where the calendar ends. -/
def Calendar.after (now : Nat) (span : Duration) : Nat :=
  if span.millis ≤ maximumMillis ∧ now + span.nanoseconds ≤ last then now + span.nanoseconds
  else last

namespace DeadLetter

def ofExchange (exchange : Exchange) (timeToLive : Duration) (now : Nat) : DeadLetter where
  exchange := exchange.id
  message := exchange.inbound
  fromEndpoint := exchange.fromEndpoint
  reason := (exchange.caught.map Failure.display).getD "unknown"
  redeliveries := exchange.redeliveryCount
  addedAt := now
  expiresAt := Calendar.after now timeToLive

/-- The entry has passed its time. -/
def isExpired (letter : DeadLetter) (now : Nat) : Bool :=
  letter.expiresAt < now

end DeadLetter

namespace DeadLetterQueue

/-- An empty queue; a largest size of 0 counts as 1. -/
def new (config : QueueConfig) : DeadLetterQueue where
  config := { config with maximumSize := max config.maximumSize 1 }

/-- The number of entries that must go before one more fits. -/
def surplus (queue : DeadLetterQueue) : Nat :=
  queue.entries.length + 1 - queue.config.maximumSize

def add (queue : DeadLetterQueue) (exchange : Exchange) (now : Nat) : DeadLetterQueue :=
  if queue.config.enabled then
    let entries := queue.entries.drop queue.surplus ++
      [DeadLetter.ofExchange exchange queue.config.timeToLive now]
    { queue with
      entries := entries
      stats :=
        { queue.stats with
          size := entries.length
          added := queue.stats.added + 1
          dropped := queue.stats.dropped + min queue.surplus queue.entries.length } }
  else queue

def take (queue : DeadLetterQueue) (limit : Nat) : List DeadLetter × DeadLetterQueue :=
  let entries := queue.entries.drop limit
  (queue.entries.take limit,
    { queue with
      entries := entries
      stats :=
        { queue.stats with
          size := entries.length
          removed := queue.stats.removed + (queue.entries.take limit).length } })

/-- Removes the entries whose message has the given id. However many they are, the statistics count
one removal. -/
def remove (queue : DeadLetterQueue) (messageId : String) : Bool × DeadLetterQueue :=
  let entries := queue.entries.filter fun letter => letter.message.id != messageId
  if entries.length < queue.entries.length then
    (true,
      { queue with
        entries := entries
        stats := { queue.stats with size := entries.length, removed := queue.stats.removed + 1 } })
  else (false, { queue with entries := entries })

/-- Removes the expired entries and counts them. All entries are held against one reading of the
calendar: that it moves while the queue is swept, on or back, is left out. -/
def cleanUp (queue : DeadLetterQueue) (now : Nat) : Nat × DeadLetterQueue :=
  let entries := queue.entries.filter fun letter => !letter.isExpired now
  let removed := queue.entries.length - entries.length
  if 0 < removed then
    (removed,
      { queue with
        entries := entries
        stats :=
          { queue.stats with size := entries.length, expired := queue.stats.expired + removed } })
  else (0, { queue with entries := entries })

def clear (queue : DeadLetterQueue) : DeadLetterQueue :=
  { queue with entries := [], stats := { queue.stats with size := 0 } }

end DeadLetterQueue

end MessageRouting
