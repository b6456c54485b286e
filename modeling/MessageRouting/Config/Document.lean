import MessageRouting.Config.Basic
import MessageRouting.Json.Basic

/-!
# Configurations as documents

A configuration written down with all of its sections and fields, durations in
words and a null for what is left open.
-/

namespace MessageRouting

def RedeliverySettings.toDocument (settings : RedeliverySettings) : Json :=
  .object
    [("maximum_redeliveries", .int settings.maximum),
      ("redelivery_delay", .string (DurationText.display settings.delay)),
      ("maximum_redelivery_delay", .string (DurationText.display settings.maximumDelay)),
      ("back_off_multiplier", Json.ofBinary64 settings.multiplier),
      ("use_exponential_back_off", .bool settings.exponential),
      ("use_collision_avoidance", .bool settings.collisionAvoidance),
      ("collision_avoidance_percent", Json.ofBinary64 settings.collisionPercent),
      ("delay_pattern", (settings.pattern.map Json.string).getD .null),
      ("retry_attempted_log_level", .string settings.retryLevel.name),
      ("retries_exhausted_log_level", .string settings.exhaustedLevel.name),
      ("log_stack_trace", .bool settings.logStackTrace),
      ("log_retry_attempted", .bool settings.logRetry),
      ("log_exhausted", .bool settings.logExhausted),
      ("log_handled", .bool settings.logHandled)]

def ErrorHandlerSettings.toDocument (settings : ErrorHandlerSettings) : Json :=
  .object
    [("kind", .string settings.kind.name),
      ("dead_letter_uri", (settings.deadLetterUri.map Json.string).getD .null),
      ("use_original_message", .bool settings.useArrival),
      ("handled", (settings.handled.map Json.bool).getD .null),
      ("redelivery", RedeliverySettings.toDocument settings.redelivery)]

def IdempotentSettings.toDocument (settings : IdempotentSettings) : Json :=
  .object
    [("cache_size", .int settings.cacheSize),
      ("eager", .bool settings.options.eager),
      ("skip_duplicate", .bool settings.options.skipDuplicate),
      ("remove_on_failure", .bool settings.options.removeOnFailure)]

def PollConfig.toDocument (config : PollConfig) : Json :=
  .object
    [("max_messages_per_poll", .int config.maximumItems),
      ("poll_interval", .string (DurationText.display config.interval)),
      ("initial_delay", .string (DurationText.display config.initialDelay))]

/-- The document for the section on dead letter queues. -/
def QueueConfig.toDocument (config : QueueConfig) : Json :=
  .object
    [("enabled", .bool config.enabled),
      ("max_size", .int config.maximumSize),
      ("ttl", .string (DurationText.display config.timeToLive))]

def RoutingConfig.toDocument (config : RoutingConfig) : Json :=
  .object
    [("error_handler", config.errorHandler.toDocument),
      ("idempotent", config.idempotent.toDocument),
      ("consumer", config.consumer.toDocument),
      ("dead_letter_queue", config.deadLetterQueue.toDocument)]

end MessageRouting
