import MessageRouting.Command.Simulation
import MessageRouting.Proofs.Engine.Ensures

/-!
# The ledger of a simulation

A simulation leaves its traces in the metrics, the key repository and the dead letter
queue of its broker. The ledger keeps the same without any limit: everything that was
counted and every message that was lost. The broker shows it as far as its counters and
its queue reach.
-/

namespace MessageRouting

/-! ## Counters -/

namespace Counters

def plus (first second : Counters) : Counters :=
  { first with
    exchanges := first.exchanges + second.exchanges
    failures := first.failures + second.failures
    redeliveries := first.redeliveries + second.redeliveries
    exhausted := first.exhausted + second.exhausted
    deadLettered := first.deadLettered + second.deadLettered
    handled := first.handled + second.handled
    duplicates := first.duplicates + second.duplicates }

def shown (counters : Counters) : Counters where
  exchanges := min counters.exchanges Text.maxU64
  failures := min counters.failures Text.maxU64
  redeliveries := min counters.redeliveries Text.maxU64
  exhausted := min counters.exhausted Text.maxU64
  deadLettered := min counters.deadLettered Text.maxU64
  handled := min counters.handled Text.maxU64
  duplicates := min counters.duplicates Text.maxU64

def timeless (counters : Counters) : Counters :=
  { counters with latency := {} }

theorem plus_assoc (first second third : Counters) :
    (first.plus second).plus third = first.plus (second.plus third) := by
  simp [plus, Nat.add_assoc]

end Counters

theorem countUp_min (number : Nat) :
    countUp (min number Text.maxU64) = min (number + 1) Text.maxU64 := by
  unfold countUp
  omega

namespace Metrics

def Counts (change : Metrics → Metrics) (numbers : Counters) : Prop :=
  ∀ (metrics : Metrics) (counters : Counters), metrics.counters.timeless = counters.shown →
    (change metrics).counters.timeless = (counters.plus numbers).shown

/-- A change of the counters that does not look at the latencies. -/
theorem counts_of_counters {change : Metrics → Metrics} {numbers : Counters}
    (alter : Counters → Counters)
    (altered : ∀ metrics, (change metrics).counters = alter metrics.counters)
    (timeless : ∀ counters, (alter counters).timeless = alter counters.timeless)
    (counted : ∀ counters : Counters, alter counters.shown = (counters.plus numbers).shown) :
    Counts change numbers := by
  intro metrics counters same
  rw [altered, timeless, same, counted]

theorem counts_recordExchange (failed : Bool) :
    Counts (recordExchange · failed)
      { exchanges := 1, failures := if failed then 1 else 0 } := by
  apply counts_of_counters
    (fun counters =>
      { counters with
        exchanges := countUp counters.exchanges
        failures := if failed then countUp counters.failures else counters.failures })
    (fun _ => rfl) (fun _ => rfl)
  intro counters
  cases failed <;> simp [Counters.shown, Counters.plus, countUp_min]

theorem counts_recordRedelivery : Counts recordRedelivery { redeliveries := 1 } :=
  counts_of_counters
    (fun counters => { counters with redeliveries := countUp counters.redeliveries })
    (fun _ => rfl) (fun _ => rfl) fun counters => by
      simp [Counters.shown, Counters.plus, countUp_min]

theorem counts_recordExhausted : Counts recordExhausted { exhausted := 1 } :=
  counts_of_counters (fun counters => { counters with exhausted := countUp counters.exhausted })
    (fun _ => rfl) (fun _ => rfl) fun counters => by
      simp [Counters.shown, Counters.plus, countUp_min]

theorem counts_recordDeadLettered : Counts recordDeadLettered { deadLettered := 1 } :=
  counts_of_counters
    (fun counters => { counters with deadLettered := countUp counters.deadLettered })
    (fun _ => rfl) (fun _ => rfl) fun counters => by
      simp [Counters.shown, Counters.plus, countUp_min]

theorem counts_recordHandled : Counts recordHandled { handled := 1 } :=
  counts_of_counters (fun counters => { counters with handled := countUp counters.handled })
    (fun _ => rfl) (fun _ => rfl) fun counters => by
      simp [Counters.shown, Counters.plus, countUp_min]

theorem counts_recordDuplicate : Counts recordDuplicate { duplicates := 1 } :=
  counts_of_counters (fun counters => { counters with duplicates := countUp counters.duplicates })
    (fun _ => rfl) (fun _ => rfl) fun counters => by
      simp [Counters.shown, Counters.plus, countUp_min]

theorem counts_recordLatency (latency : Duration) : Counts (recordLatency · latency) {} := by
  intro metrics counters same
  have untouched : (recordLatency metrics latency).counters.timeless =
      metrics.counters.timeless := by
    unfold recordLatency
    dsimp only
    split <;> rfl
  rw [untouched, same]
  rfl

end Metrics

/-! ## Lost messages -/

namespace Simulation

/-- What is known of a message that was lost. -/
structure Lost where
  headers : Headers
  body : Option Value
  redeliveries : Int
  reason : String

def Lost.ofLetter (letter : DeadLetter) : Lost where
  headers := letter.message.headers
  body := letter.message.body
  redeliveries := letter.redeliveries.toInt
  reason := letter.reason

def keptBy (config : QueueConfig) (lost : List Lost) : List Lost :=
  if config.enabled then lost.drop (lost.length - config.maximumSize) else []

theorem length_keptBy (config : QueueConfig) (lost : List Lost) :
    (keptBy config lost).length =
      if config.enabled then min lost.length config.maximumSize else 0 := by
  unfold keptBy
  split
  · rw [List.length_drop]
    omega
  · rfl

theorem keptBy_add {queue : DeadLetterQueue} {lost : List Lost}
    (positive : 0 < queue.config.maximumSize)
    (kept : queue.entries.map Lost.ofLetter = keptBy queue.config lost) (exchange : Exchange)
    (now : Nat) :
    (queue.add exchange now).config = queue.config ∧
      (queue.add exchange now).entries.map Lost.ofLetter =
        keptBy queue.config
          (lost ++ [.ofLetter (.ofExchange exchange queue.config.timeToLive now)]) := by
  unfold keptBy DeadLetterQueue.add at *
  cases enabled : queue.config.enabled with
  | false =>
      rw [enabled] at kept
      exact ⟨rfl, kept⟩
  | true =>
      rw [enabled] at kept
      refine ⟨rfl, ?_⟩
      have length : queue.entries.length =
          lost.length - (lost.length - queue.config.maximumSize) := by
        simpa using congrArg List.length kept
      have surplus : queue.surplus + (lost.length - queue.config.maximumSize) =
          lost.length + 1 - queue.config.maximumSize := by
        unfold DeadLetterQueue.surplus
        omega
      have within : lost.length + 1 - queue.config.maximumSize ≤ lost.length := by
        omega
      change (queue.entries.drop queue.surplus ++ [_]).map Lost.ofLetter = List.drop _ _
      rw [List.map_append, List.map_drop, kept, if_pos rfl, List.drop_drop, Nat.add_comm,
        surplus, List.length_append, List.length_singleton, List.drop_append_of_le_length within]
      rfl

/-! ## Ledgers -/

/-- What was counted, what is remembered and what was lost. -/
structure Ledger where
  counters : Counters := {}
  repository : KeyRepository
  lost : List Lost := []

namespace Ledger

/-- Some more is counted, and some more is lost. -/
def add (ledger : Ledger) (counters : Counters) (lost : List Lost := []) : Ledger :=
  { ledger with
    counters := ledger.counters.plus counters
    lost := ledger.lost ++ lost }

def remembering (ledger : Ledger) (repository : KeyRepository) : Ledger :=
  { ledger with repository := repository }

@[simp]
theorem add_nothing (ledger : Ledger) : ledger.add {} = ledger := by
  simp [add, Counters.plus]

theorem add_add (ledger : Ledger) (first second : Counters) (before after : List Lost) :
    (ledger.add first before).add second after =
      ledger.add (first.plus second) (before ++ after) := by
  simp [add, Counters.plus_assoc]

/-- The broker of a simulation shows what the ledger tells. -/
structure Shows (queue : Option QueueConfig) (ledger : Ledger) (broker : Broker) : Prop where
  context : broker.context = ⟨"simulate", Converter.standard⟩
  counters : (broker.metrics.get? 0).map (fun held => held.counters.timeless) =
    some ledger.counters.shown
  repository : broker.repositories.get? 0 = some ledger.repository
  queue : (broker.queues.get? 0).map (fun held => (held.config, held.entries.map Lost.ofLetter)) =
    queue.map fun config => (config, keptBy config ledger.lost)

/-- Ids, times, chances and events are no matter of the ledger. -/
theorem Shows.unseen {queue : Option QueueConfig} {ledger : Ledger} {broker : Broker}
    (shows : ledger.Shows queue broker) (issued calendar chance : Nat)
    (events : List RedeliveryEvent) :
    ledger.Shows queue
      { broker with
        issued := issued
        calendar := calendar
        chance := chance
        events := events } :=
  ⟨shows.context, shows.counters, shows.repository, shows.queue⟩

end Ledger

/-! ## What routines do to the ledger -/

variable {α β : Type} {queue : Option QueueConfig} {ledger between after : Ledger}
  {holds : α → Prop} {further : β → Prop} {routine : Routine Broker α}

def Leads (queue : Option QueueConfig) (ledger : Ledger) (routine : Routine Broker α)
    (after : Ledger) (holds : α → Prop) : Prop :=
  routine.Ensures (ledger.Shows queue) fun value broker => holds value ∧ after.Shows queue broker

theorem Leads.bind {next : α → Routine Broker β} (first : Leads queue ledger routine between holds)
    (second : ∀ value, holds value → Leads queue between (next value) after further) :
    Leads queue ledger (routine.bind next) after further := by
  unfold Leads at first ⊢
  refine first.bind ?_
  rintro value broker ⟨told, shows⟩
  exact second value told broker shows

theorem leads_pure {value : α} (told : holds value) :
    Leads queue ledger (pure value) ledger holds :=
  Routine.ensures_pure fun _ shows => ⟨told, shows⟩

theorem leads_look {view : Broker → α}
    (told : ∀ broker, ledger.Shows queue broker → holds (view broker)) :
    Leads queue ledger (Routine.look view) ledger holds :=
  Routine.ensures_look fun broker shows => ⟨told broker shows, shows⟩

theorem leads_wait (span : Duration) :
    Leads queue ledger (Routine.wait span) ledger fun _ => True :=
  Routine.ensures_wait span fun _ shows => ⟨trivial, shows⟩

theorem leads_report (event : RedeliveryEvent) :
    Leads queue ledger (Broker.report event) ledger fun _ => True := by
  unfold Broker.report
  split
  · exact leads_pure trivial
  · refine Routine.ensures_modify fun broker shows => ⟨trivial, ?_⟩
    exact shows.unseen broker.issued broker.calendar broker.chance (event :: broker.events)

theorem leads_readCalendar : Leads queue ledger Broker.readCalendar ledger fun _ => True := by
  refine Routine.ensures_change fun broker shows => ⟨trivial, ?_⟩
  exact shows.unseen broker.issued (broker.calendar + 1) broker.chance broker.events

theorem leads_drawChance : Leads queue ledger Broker.drawChance ledger fun _ => True := by
  refine Routine.ensures_change fun broker shows => ⟨trivial, ?_⟩
  exact shows.unseen broker.issued broker.calendar (nextChance broker.chance) broker.events

theorem leads_freshNumber : Leads queue ledger Broker.freshNumber ledger fun _ => True := by
  refine Routine.ensures_change fun broker shows => ⟨trivial, ?_⟩
  exact shows.unseen (broker.issued + 1) broker.calendar broker.chance broker.events

theorem leads_count {change : Metrics → Metrics} {numbers : Counters}
    (counts : Metrics.Counts change numbers) :
    Leads queue ledger (Broker.count (some 0) change) (ledger.add numbers) fun _ => True := by
  refine Routine.ensures_modify fun broker shows => ⟨trivial, ?_⟩
  obtain ⟨context, counters, repository, queues⟩ := shows
  obtain ⟨metrics, found, same⟩ := Option.map_eq_some_iff.mp counters
  refine ⟨context, ?_, repository, ?_⟩
  · rw [Register.get?_modify, if_pos rfl, found]
    exact congrArg some (counts metrics ledger.counters same)
  · rw [queues, Ledger.add, List.append_nil]

/-- A change of the repository, with its answer. -/
theorem leads_withRepository {standard : α} {step : KeyRepository → α × KeyRepository}
    (told : holds (step ledger.repository).1) :
    Leads queue ledger (Broker.withRepository 0 standard step)
      (ledger.remembering (step ledger.repository).2) holds := by
  refine Routine.ensures_change fun broker shows => ?_
  obtain ⟨context, counters, repository, queues⟩ := shows
  rw [repository]
  refine ⟨told, context, counters, ?_, queues⟩
  rw [Register.get?_modify, if_pos rfl, repository]
  rfl

theorem leads_settleKey (exchange : Exchange) (key : String) (options : IdempotentOptions) :
    Leads queue ledger ((Completion.settleKey 0 key options).carryOut exchange)
      (ledger.remembering (ledger.repository.settle options
        (!exchange.isFailed && !exchange.flag .failureHandled) key))
      fun _ => True := by
  rw [Completion.carryOut_settleKey]
  refine Routine.ensures_modify fun broker shows => ⟨trivial, ?_⟩
  obtain ⟨context, counters, repository, queues⟩ := shows
  refine ⟨context, counters, ?_, queues⟩
  rw [Register.get?_modify, if_pos rfl, repository]
  rfl

/-- A message is lost to the queue. -/
theorem leads_addToQueue {config : QueueConfig} (positive : 0 < config.maximumSize) {lost : Lost}
    {exchange : Exchange} (uri : String)
    (told : ∀ timeToLive now, Lost.ofLetter (.ofExchange exchange timeToLive now) = lost) :
    Leads (some config) ledger ((Processor.addToQueue uri 0).invoke exchange)
      (ledger.add {} [lost]) (· = exchange) := by
  rw [Processor.addToQueue, Processor.invoke_silent]
  refine leads_readCalendar.bind fun now _ => ?_
  suffices added : Leads (some config) ledger (Routine.modify fun broker =>
      { broker with queues := broker.queues.modify 0 fun held => held.add exchange now })
      (ledger.add {} [lost]) fun _ => True from
    added.bind fun _ _ => leads_pure rfl
  refine Routine.ensures_modify fun broker shows => ⟨trivial, ?_⟩
  obtain ⟨context, counters, repository, queues⟩ := shows
  obtain ⟨held, found, same⟩ := Option.map_eq_some_iff.mp queues
  obtain ⟨rfl, kept⟩ := Prod.mk.inj same
  obtain ⟨sameConfig, keptNow⟩ := keptBy_add positive kept exchange now
  refine ⟨context, counters, repository, ?_⟩
  rw [Register.get?_modify, if_pos rfl, found, Option.map_some, Option.map_some, sameConfig,
    keptNow, told]
  rfl

end Simulation

end MessageRouting
