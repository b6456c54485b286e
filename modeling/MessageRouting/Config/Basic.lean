import MessageRouting.Config.DurationText
import MessageRouting.DeadLetter.Queue
import MessageRouting.Idempotent.Repository
import MessageRouting.Polling.Source
import MessageRouting.Redelivery.HandlerKind
import MessageRouting.Redelivery.Policy
import MessageRouting.Toml.Document

/-!
# Routing configuration

The sections of a routing configuration and how they are read from a
configuration text. Every section and every field is optional. A section may
also be written as a list of its leading fields in order.
-/

namespace MessageRouting

def HandlerKind.name : HandlerKind → String
  | standard => "default"
  | deadLetterChannel => "dead_letter_channel"

/-- The section on error handling. Where `handled` is missing, the kind decides. -/
structure ErrorHandlerSettings where
  kind : HandlerKind := .standard
  deadLetterUri : Option String := none
  useArrival : Bool := false
  handled : Option Bool := none
  redelivery : RedeliverySettings := {}
deriving Inhabited

structure IdempotentSettings where
  cacheSize : Nat := KeyRepository.standardCapacity
  options : IdempotentOptions := {}
deriving DecidableEq, Repr, Inhabited

structure RoutingConfig where
  errorHandler : ErrorHandlerSettings := {}
  idempotent : IdempotentSettings := {}
  consumer : PollConfig := {}
  deadLetterQueue : QueueConfig := {}
deriving Inhabited

namespace Toml

/-! ## Typed values -/

def asBool? : Toml → Option Bool
  | boolean value => some value
  | _ => none

/-- A text. -/
def asString? : Toml → Option String
  | string value => some value
  | _ => none

/-- An integer within bounds. -/
def asInt? (low high : Int) : Toml → Option Int
  | integer value => if low ≤ value ∧ value ≤ high then some value else none
  | _ => none

/-- A size. -/
def asNat? (value : Toml) : Option Nat :=
  (value.asInt? 0 Text.maxI64).map Int.toNat

def asFloat? : Toml → Option Binary64
  | float value => some value
  | integer value => some (.ofInt value)
  | _ => none

def asDuration? : Toml → Option Duration
  | string value => DurationText.read? value
  | _ => none

def asLevel? : Toml → Option Level
  | string value => (Level.read value).toOption
  | _ => none

/-- The name in a choice: a text, or a table whose only entry is empty. -/
def asChoice? : Toml → Option String
  | string value => some value
  | table [(name, array [])] => some name
  | table [(name, table [])] => some name
  | _ => none

def asHandlerKind? (value : Toml) : Option HandlerKind :=
  match value.asChoice? with
  | some "default" => some .standard
  | some "dead_letter_channel" => some .deadLetterChannel
  | _ => none

/-! ## Sections -/

/-- The fields of a section that are given, by name. A list gives the leading fields of `names`;
a date has no fields. -/
def fields? (names : List String) : Toml → Option (List (String × Toml))
  | table entries => some entries
  | array items => some (names.zip items)
  | moment => some []
  | _ => none

/-- The given field of a section, read by `read`; `standard` where it is missing. -/
def field (fields : List (String × Toml)) (name : String) (read : Toml → Option α) (standard : α) :
    Option α :=
  match fields.lookup name with
  | some value => read value
  | none => some standard

def asRedelivery? (section_ : Toml) : Option RedeliverySettings := do
  let fields ← section_.fields?
    ["maximum_redeliveries", "redelivery_delay", "maximum_redelivery_delay", "back_off_multiplier",
      "use_exponential_back_off", "use_collision_avoidance", "collision_avoidance_percent",
      "delay_pattern", "retry_attempted_log_level", "retries_exhausted_log_level",
      "log_stack_trace", "log_retry_attempted", "log_exhausted", "log_handled"]
  let standard : RedeliverySettings := {}
  return {
    maximum := ← field fields "maximum_redeliveries" (asInt? Text.minI32 Text.maxI32)
      standard.maximum
    delay := ← field fields "redelivery_delay" asDuration? standard.delay
    maximumDelay := ← field fields "maximum_redelivery_delay" asDuration? standard.maximumDelay
    multiplier := ← field fields "back_off_multiplier" asFloat? standard.multiplier
    exponential := ← field fields "use_exponential_back_off" asBool? standard.exponential
    collisionAvoidance := ← field fields "use_collision_avoidance" asBool?
      standard.collisionAvoidance
    collisionPercent := ← field fields "collision_avoidance_percent" asFloat?
      standard.collisionPercent
    pattern := ← field fields "delay_pattern" (fun value => value.asString?.map some) none
    retryLevel := ← field fields "retry_attempted_log_level" asLevel? standard.retryLevel
    exhaustedLevel := ← field fields "retries_exhausted_log_level" asLevel? standard.exhaustedLevel
    logStackTrace := ← field fields "log_stack_trace" asBool? standard.logStackTrace
    logRetry := ← field fields "log_retry_attempted" asBool? standard.logRetry
    logExhausted := ← field fields "log_exhausted" asBool? standard.logExhausted
    logHandled := ← field fields "log_handled" asBool? standard.logHandled }

def asErrorHandler? (section_ : Toml) : Option ErrorHandlerSettings := do
  let fields ← section_.fields?
    ["kind", "dead_letter_uri", "use_original_message", "handled", "redelivery"]
  return {
    kind := ← field fields "kind" asHandlerKind? .standard
    deadLetterUri := ← field fields "dead_letter_uri" (fun value => value.asString?.map some) none
    useArrival := ← field fields "use_original_message" asBool? false
    handled := ← field fields "handled" (fun value => value.asBool?.map some) none
    redelivery := ← field fields "redelivery" asRedelivery? {} }

def asIdempotent? (section_ : Toml) : Option IdempotentSettings := do
  let fields ← section_.fields? ["cache_size", "eager", "skip_duplicate", "remove_on_failure"]
  let standard : IdempotentSettings := {}
  return {
    cacheSize := ← field fields "cache_size" asNat? standard.cacheSize
    options := {
      eager := ← field fields "eager" asBool? standard.options.eager
      skipDuplicate := ← field fields "skip_duplicate" asBool? standard.options.skipDuplicate
      removeOnFailure := ← field fields "remove_on_failure" asBool?
        standard.options.removeOnFailure } }

def asConsumer? (section_ : Toml) : Option PollConfig := do
  let fields ← section_.fields? ["max_messages_per_poll", "poll_interval", "initial_delay"]
  let standard : PollConfig := {}
  return {
    maximumItems := ← field fields "max_messages_per_poll" asNat? standard.maximumItems
    interval := ← field fields "poll_interval" asDuration? standard.interval
    initialDelay := ← field fields "initial_delay" asDuration? standard.initialDelay }

def asQueue? (section_ : Toml) : Option QueueConfig := do
  let fields ← section_.fields? ["enabled", "max_size", "ttl"]
  let standard : QueueConfig := {}
  return {
    enabled := ← field fields "enabled" asBool? standard.enabled
    maximumSize := ← field fields "max_size" asNat? standard.maximumSize
    timeToLive := ← field fields "ttl" asDuration? standard.timeToLive }

end Toml

namespace RoutingConfig

def ofToml? (document : Toml) : Option RoutingConfig := do
  let fields ← document.fields? ["error_handler", "idempotent", "consumer", "dead_letter_queue"]
  return {
    errorHandler := ← Toml.field fields "error_handler" Toml.asErrorHandler? {}
    idempotent := ← Toml.field fields "idempotent" Toml.asIdempotent? {}
    consumer := ← Toml.field fields "consumer" Toml.asConsumer? {}
    deadLetterQueue := ← Toml.field fields "dead_letter_queue" Toml.asQueue? {} }

/-- Reads a configuration text without checking its values. -/
def decode? (text : String) : Option RoutingConfig :=
  (Toml.parse? text).bind ofToml?

def redeliveryPolicy (config : RoutingConfig) : Except Failure RedeliveryPolicy :=
  RedeliverySettings.check config.errorHandler.redelivery

def hasDestination (config : RoutingConfig) : Bool :=
  match config.errorHandler.kind, config.errorHandler.deadLetterUri with
  | .standard, _ => true
  | .deadLetterChannel, some uri => !Text.isAllBlank uri
  | .deadLetterChannel, none => false

/-- Checks the values of a configuration and reports the first that is wrong: the rules of
redelivery, the dead letter destination, the cache size, the poll interval, the queue size. -/
def validate (config : RoutingConfig) : Except Failure Unit := do
  let _ ← config.redeliveryPolicy
  if !config.hasDestination then
    throw (.invalidConfig "dead_letter_channel requires dead_letter_uri")
  if config.idempotent.cacheSize = 0 then
    throw (.invalidConfig "idempotent.cache_size must be greater than zero")
  if config.consumer.interval.isZero then
    throw (.invalidConfig "consumer.poll_interval must be greater than zero")
  if config.deadLetterQueue.maximumSize = 0 then
    throw (.invalidConfig "dead_letter_queue.max_size must be greater than zero")

def read (text : String) : Except Failure RoutingConfig :=
  match decode? text with
  | none => .error (.invalidConfig "failed to parse TOML config")
  | some config => do
      config.validate
      return config

def unreadable (path reason : String) : Failure :=
  .invalidConfig ("failed to read config file " ++ path ++ ": " ++ reason)

def missing (path : String) : Failure :=
  unreadable path "No such file or directory (os error 2)"

def repository (config : RoutingConfig) : KeyRepository :=
  KeyRepository.new config.idempotent.cacheSize

end RoutingConfig

end MessageRouting
