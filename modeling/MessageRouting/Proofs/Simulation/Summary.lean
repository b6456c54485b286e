import MessageRouting.Proofs.Config.Acceptance
import MessageRouting.Proofs.Simulation.Progress

/-!
# The summary of a simulation

What a simulation reports, in terms of its configuration and of what is sent.
-/

namespace MessageRouting

namespace Simulation

/-! ## What is expected -/

/-- The numbers of the messages that pass through the error handler, in sending order. -/
def passed (simulation : Simulation) (config : RoutingConfig) : List Nat :=
  if simulation.remembers config then List.range simulation.messages else simulation.numbers

def duplicates (simulation : Simulation) (config : RoutingConfig) : Nat :=
  if simulation.remembers config then simulation.messages * (simulation.repetitions - 1) else 0

/-- The number of messages that pass through the error handler. -/
def passes (simulation : Simulation) (config : RoutingConfig) : Nat :=
  simulation.messages * simulation.repetitions - simulation.duplicates config

/-- The messages that are lost, in sending order. -/
def losing (simulation : Simulation) (config : RoutingConfig) : List Lost :=
  (simulation.passed config).flatMap (simulation.losses config)

def leftFailed (simulation : Simulation) (config : RoutingConfig) : Nat :=
  if simulation.recovers config || config.handles then 0 else simulation.passes config

/-- The numbers of the messages for which there is a dead letter at the end: the last ones that are
lost, as many as the queue keeps. -/
def lettered (simulation : Simulation) (config : RoutingConfig) : List Nat :=
  if config.deadLetterQueue.enabled && (!simulation.recovers config && config.losesToQueue) then
    (simulation.passed config).drop
      (simulation.passes config - config.deadLetterQueue.maximumSize)
  else []

/-- The summary tells what became of the messages. Its dead letters are the last of those that are
lost, as many as the queue keeps. -/
structure Summarizes (simulation : Simulation) (config : RoutingConfig)
    (summary : SimulationSummary) : Prop where
  sent : summary.sent = simulation.messages * simulation.repetitions
  failed : summary.failed = simulation.leftFailed config
  completed : summary.completed =
    simulation.messages * simulation.repetitions - summary.failed
  exchanges : summary.counters.exchanges = simulation.messages * simulation.repetitions
  failures : summary.counters.failures = summary.failed
  duplicates : summary.counters.duplicates = simulation.duplicates config
  redeliveries : summary.counters.redeliveries =
    simulation.passes config *
      if simulation.recovers config then simulation.failures
      else config.errorHandler.redelivery.maximum.toNat
  exhausted : summary.counters.exhausted =
    if simulation.recovers config then 0 else simulation.passes config
  handled : summary.counters.handled =
    if !simulation.recovers config && config.handles then simulation.passes config else 0
  deadLettered : summary.counters.deadLettered =
    if !simulation.recovers config && config.losesToQueue then simulation.passes config else 0
  deadLetters : summary.deadLetters.map Lost.ofLetter =
    if config.deadLetterQueue.enabled then
      (simulation.losing config).drop
        (summary.counters.deadLettered - config.deadLetterQueue.maximumSize)
    else []
  kept : summary.deadLetters.length =
    if config.deadLetterQueue.enabled then
      min summary.counters.deadLettered config.deadLetterQueue.maximumSize
    else 0

end Simulation

def Json.member? (name : String) : Json → Option Json
  | .object members => members.lookup name
  | _ => none

namespace Simulation

/-- The document is a dead letter for the message with the number. -/
structure IsLetter (simulation : Simulation) (config : RoutingConfig) (number : Nat)
    (document : Json) : Prop where
  headers : (document.member? "message").bind (Json.member? "headers") =
    some (.object [("messageId", (Value.text (messageId number)).toDocument)])
  body : (document.member? "message").bind (Json.member? "body") =
    some (Value.text (payload number)).toDocument
  redeliveries : document.member? "redeliveries" = some (.int (simulation.redeliveries config))
  reason : document.member? "failure_reason" =
    some (.string (failureAfter (simulation.redeliveries config)).display)

/-- The document reports what became of the messages. -/
structure Reports (simulation : Simulation) (config : RoutingConfig) (document : Json) : Prop where
  sent : document.member? "messages_sent" =
    some (.int ↑(simulation.messages * simulation.repetitions))
  completed : document.member? "completed" =
    some (.int ↑(simulation.messages * simulation.repetitions - simulation.leftFailed config))
  failed : document.member? "failed" = some (.int (simulation.leftFailed config))
  duplicates : document.member? "duplicates" = some (.int (simulation.duplicates config))
  deadLettered : document.member? "dead_lettered" = some (.int (simulation.lettered config).length)
  deadLetters : ∃ letters, document.member? "dead_letters" = some (.array letters) ∧
    List.Forall₂ (simulation.IsLetter config) (simulation.lettered config) letters
  metrics : ∃ latency, document.member? "metrics" = some (.object
    [("exchanges_total", .int ↑(simulation.messages * simulation.repetitions)),
      ("failures_total", .int (simulation.leftFailed config)),
      ("redeliveries_total", .int ↑(simulation.passes config *
        if simulation.recovers config then simulation.failures
        else config.errorHandler.redelivery.maximum.toNat)),
      ("exhausted_total", .int ↑(
        if simulation.recovers config then 0 else simulation.passes config)),
      ("dead_lettered_total", .int ↑(
        if !simulation.recovers config && config.losesToQueue then simulation.passes config
        else 0)),
      ("handled_total", .int ↑(
        if !simulation.recovers config && config.handles then simulation.passes config else 0)),
      ("duplicates_total", .int (simulation.duplicates config)),
      ("latency_ms", latency)])

variable {simulation : Simulation} {config : RoutingConfig} {policy : RedeliveryPolicy}

/-! ## The outset -/

/-- What holds of a configuration whose values are in order. -/
theorem exists_policy_of_valid (valid : config.validate = .ok ()) :
    ∃ policy, config.redeliveryPolicy = .ok policy ∧ config.hasDestination = true ∧
      config.deadLetterQueue.maximumSize ≠ 0 := by
  obtain ⟨⟨policy, checked⟩, reachable, _, _, nonempty⟩ := RoutingConfig.validate_iff_checks.mp valid
  exact ⟨policy, checked, reachable, nonempty⟩

theorem maximum_of_check {settings : RedeliverySettings}
    (checked : settings.check = .ok policy) :
    policy.maximum = settings.maximum ∧ -1 ≤ settings.maximum := by
  obtain ⟨inBounds, _, _, rfl⟩ := RedeliverySettings.check_eq_ok_iff.mp checked
  exact ⟨rfl, inBounds.limit⟩

theorem applies_of_valid (valid : config.validate = .ok ()) :
    ∃ policy, config.redeliveryPolicy = .ok policy ∧ Applies config policy := by
  obtain ⟨policy, checked, reachable, nonempty⟩ := exists_policy_of_valid valid
  obtain ⟨maximum, bounded⟩ := maximum_of_check checked
  exact ⟨policy, checked, maximum, bounded, reachable, Nat.pos_of_ne_zero nonempty⟩

theorem queueName_append (name : String) : queueName ("dlq:" ++ name) = .ok name := by
  unfold queueName
  rw [String.toList_append]
  exact congrArg Except.ok String.ofList_toList

/-- The broker at first: it shows that nothing was sent, and the dead letter queue is where the
configuration says. -/
theorem exists_outset (applies : Applies config policy) (chance : Nat)
    (queued : ∀ uri, config.errorHandler.deadLetterUri = some uri → ∃ name, uri = "dlq:" ++ name) :
    ∃ outset, broker config chance = .ok outset ∧
      Ledger.Shows config.queue? { repository := config.repository } outset ∧
      ∀ uri, config.errorHandler.deadLetterUri = some uri →
        outset.producer uri = .ok (Processor.addToQueue uri 0) := by
  unfold Simulation.broker
  cases named : config.errorHandler.deadLetterUri with
  | none =>
      refine ⟨_, rfl, ⟨rfl, rfl, rfl, ?_⟩, ?_⟩
      · rw [RoutingConfig.queue?, named]
        rfl
      · intro uri impossible
        contradiction
  | some uri =>
      obtain ⟨name, rfl⟩ := queued uri named
      simp only [queueName_append]
      refine ⟨_, rfl, ⟨rfl, rfl, rfl, ?_⟩, ?_⟩
      · have sized : max config.deadLetterQueue.maximumSize 1 =
            config.deadLetterQueue.maximumSize := Nat.max_eq_left applies.positive
        have nothing : keptBy config.deadLetterQueue [] = [] := by
          simp [keptBy]
        rw [RoutingConfig.queue?, named]
        change some ((DeadLetterQueue.new config.deadLetterQueue).config, []) = _
        rw [DeadLetterQueue.new, sized, Option.map_some, Option.map_some, nothing]
      · intro other same
        obtain rfl := Option.some.inj same
        rw [Broker.producer, Broker.endpoint]
        simp only [Table.get?_set_self]
        rfl

def planned (config : RoutingConfig) (policy : RedeliveryPolicy) : HandlerPlan where
  kind := config.errorHandler.kind
  deadLetter := config.destination?.map fun step => .uri step.name
  redelivery := policy
  handled := config.errorHandler.handled.map fun handled _ => handled
  useArrival := config.errorHandler.useArrival
  metrics := some 0

theorem handlerPlan_eq (checked : config.redeliveryPolicy = .ok policy)
    (reachable : config.hasDestination = true) :
    config.handlerPlan = .ok { planned config policy with metrics := none } := by
  unfold RoutingConfig.handlerPlan planned RoutingConfig.destination?
  unfold RoutingConfig.hasDestination at reachable
  cases kind : config.errorHandler.kind with
  | standard =>
      simp only [kind, checked]
      rfl
  | deadLetterChannel =>
      cases named : config.errorHandler.deadLetterUri with
      | none =>
          rw [kind, named] at reachable
          contradiction
      | some uri =>
          simp only [kind, named, checked]
          rfl

theorem build_planned {broker : Broker}
    (found : ∀ uri, config.errorHandler.deadLetterUri = some uri →
      broker.producer uri = .ok (Processor.addToQueue uri 0)) :
    (planned config policy).build broker (failingStep simulation.failures) =
      .ok (simulation.guard config policy) := by
  unfold planned HandlerPlan.build guard RoutingConfig.destination?
  cases kind : config.errorHandler.kind with
  | standard => rfl
  | deadLetterChannel =>
      cases named : config.errorHandler.deadLetterUri with
      | none => rfl
      | some uri =>
          have resolved : HandlerPlan.resolve broker (.uri uri) =
              .ok ⟨uri, Processor.addToQueue uri 0⟩ := by
            rw [HandlerPlan.resolve, found uri named]
            rfl
          simp only [Option.map_some, Option.mapM_some, resolved]
          rfl

def written (simulation : Simulation) (config : RoutingConfig) (policy : RedeliveryPolicy) :
    RoutePlan where
  id := "simulation"
  errorHandler := some { planned config policy with metrics := none }
  metrics := some 0
  steps :=
    [.idempotent (fun exchange => (Expression.header "messageId").evaluate exchange) 0
        config.idempotent.options,
      .process (failingStep simulation.failures)]

theorem plan_eq (applies : Applies config policy)
    (checked : config.redeliveryPolicy = .ok policy) :
    simulation.plan config = .ok (simulation.written config policy) := by
  unfold Simulation.plan
  rw [handlerPlan_eq checked applies.reachable]
  rfl

theorem build_written {broker : Broker}
    (found : ∀ uri, config.errorHandler.deadLetterUri = some uri →
      broker.producer uri = .ok (Processor.addToQueue uri 0)) :
    (simulation.written config policy).build broker =
      .ok (simulation.route config policy broker.duplicates.next,
        { broker with duplicates := broker.duplicates.add 0 }) := by
  have guarded : (simulation.written config policy).guarded broker
      (failingStep simulation.failures) = .ok (simulation.guard config policy).toProcessor := by
    change ((planned config policy).build broker _).map ErrorHandler.toProcessor = _
    rw [build_planned found]
    rfl
  have assembled : (simulation.written config policy).assemble
      [.process (failingStep simulation.failures)] broker =
        .ok ([(simulation.guard config policy).toProcessor], broker) := by
    rw [RoutePlan.assemble, guarded]
    rfl
  have whole : (simulation.written config policy).assemble
      (simulation.written config policy).steps broker =
        .ok ([(simulation.consumer config policy broker.duplicates.next).toProcessor],
          { broker with duplicates := broker.duplicates.add 0 }) := by
    unfold written at assembled ⊢
    dsimp only
    rw [RoutePlan.assemble, assembled]
    rfl
  unfold RoutePlan.build
  rw [whole]
  rfl

/-! ## The law -/

theorem ledgerOf_nothing :
    simulation.ledgerOf config [] 0 config.repository = { repository := config.repository } := by
  simp [ledgerOf]

/-- What stands after all messages were sent. -/
theorem exists_stands (applies : Applies config policy) (counter sent : Nat)
    (small : simulation.failures ≤ ErrorHandler.maximumCount)
    (skip : config.idempotent.options.skipDuplicate = true)
    (repeated : 1 ≤ simulation.repetitions) {broker : Broker}
    (shows : Ledger.Shows config.queue? { repository := config.repository } broker) :
    ∃ repository, Stands simulation config sent (simulation.passed config)
      (simulation.duplicates config) repository
      (simulation.numbers.foldl (sendCounted (simulation.route config policy counter))
        ({ sent := sent }, broker)) := by
  have outset : Stands simulation config sent [] 0 config.repository
      ({ sent := sent }, broker) := by
    refine ⟨?_, rfl, ?_, ?_⟩
    · rw [ledgerOf_nothing]
      exact shows
    · simp
    · simp
  unfold passed duplicates
  cases remembers : simulation.remembers config with
  | true =>
      obtain ⟨repository, _, stands⟩ := stands_of_remembers counter applies small skip repeated
        remembers outset rfl simulation.messages
      exact ⟨repository, stands⟩
  | false =>
      obtain ⟨repository, _, stands⟩ := stands_of_forgets counter applies small remembers outset
        rfl simulation.messages
      exact ⟨repository, stands⟩

/-- The messages that pass and the duplicates are all that are sent. -/
theorem length_passed (config : RoutingConfig) (repeated : 1 ≤ simulation.repetitions) :
    (simulation.passed config).length = simulation.passes config ∧
      simulation.passes config + simulation.duplicates config =
        simulation.messages * simulation.repetitions := by
  obtain ⟨times, count⟩ : ∃ times, simulation.repetitions = times + 1 :=
    ⟨simulation.repetitions - 1, by omega⟩
  have sum : simulation.messages * (times + 1) = simulation.messages * times +
      simulation.messages := Nat.mul_succ ..
  unfold passed passes duplicates
  cases simulation.remembers config with
  | true =>
      rw [if_pos rfl, if_pos rfl, count, Nat.add_sub_cancel, List.length_range]
      omega
  | false =>
      rw [if_neg Bool.false_ne_true, if_neg Bool.false_ne_true]
      refine ⟨?_, Nat.add_zero _⟩
      simp [numbers, List.length_flatMap, List.map_const']

/-- Counters of 64 bits suffice as long as the messages and their redeliveries fit in 32. -/
theorem shown_ledgerOf {numbers : List Nat} {count : Nat} {repository : KeyRepository}
    (countable : simulation.redeliveries config ≤ Text.maxU32)
    (few : numbers.length + count ≤ Text.maxU32) :
    (simulation.ledgerOf config numbers count repository).counters.shown =
      (simulation.ledgerOf config numbers count repository).counters := by
  unfold Text.maxU32 at countable few
  have product : numbers.length * simulation.redeliveries config ≤ 4294967295 * 4294967295 :=
    Nat.mul_le_mul (by omega) (by omega)
  have least : ∀ {number : Nat}, number ≤ 4294967295 * 4294967295 →
      min number Text.maxU64 = number := by
    intro number small
    unfold Text.maxU64
    omega
  have some : ∀ condition : Prop, [Decidable condition] →
      min (if condition then numbers.length else 0) Text.maxU64 =
        if condition then numbers.length else 0 := by
    intro condition _
    split <;> exact least (by omega)
  have none : ∀ condition : Prop, [Decidable condition] →
      min (if condition then 0 else numbers.length) Text.maxU64 =
        if condition then 0 else numbers.length := by
    intro condition _
    split <;> exact least (by omega)
  unfold ledgerOf Counters.shown
  simp only [some, none, least product, least (show numbers.length + count ≤ _ by omega),
    least (show count ≤ _ by omega)]

theorem length_losing (simulation : Simulation) (config : RoutingConfig) :
    (simulation.losing config).length =
      if !simulation.recovers config && config.losesToQueue then
        (simulation.passed config).length
      else 0 := by
  unfold losing losses
  cases !simulation.recovers config && config.losesToQueue <;>
    simp [List.length_flatMap, List.map_const']

/-- Without a queue no message is lost to it. -/
theorem losing_of_no_queue (reachable : config.hasDestination = true)
    (none : config.errorHandler.deadLetterUri = none) : simulation.losing config = [] := by
  have nowhere : config.losesToQueue = false := by
    unfold RoutingConfig.losesToQueue
    unfold RoutingConfig.hasDestination at reachable
    cases kind : config.errorHandler.kind with
    | standard => rfl
    | deadLetterChannel =>
        rw [kind, none] at reachable
        contradiction
  rw [← List.length_eq_zero_iff, length_losing, nowhere, Bool.and_false]
  rfl

/-- The dead letters are what the queue keeps of the messages that were lost. -/
theorem deadLetters_of_shows {ledger : Ledger} {broker : Broker}
    (reachable : config.hasDestination = true) (shows : ledger.Shows config.queue? broker)
    (lost : ledger.lost = simulation.losing config) :
    (((broker.queues.get? 0).map DeadLetterQueue.entries).getD []).map Lost.ofLetter =
      keptBy config.deadLetterQueue (simulation.losing config) := by
  have queue := shows.queue
  rw [RoutingConfig.queue?] at queue
  cases named : config.errorHandler.deadLetterUri with
  | none =>
      rw [named, Option.map_none, Option.map_none, Option.map_eq_none_iff] at queue
      rw [queue, losing_of_no_queue reachable named]
      simp [keptBy]
  | some uri =>
      rw [named, Option.map_some, Option.map_some] at queue
      obtain ⟨held, found, same⟩ := Option.map_eq_some_iff.mp queue
      rw [found, ← lost]
      exact congrArg Prod.snd same

/-- What the summary is made of when all messages were sent. -/
theorem summarizes_of_stands (applies : Applies config policy)
    (countable : simulation.failures ≤ Text.maxU32) (repeated : 1 ≤ simulation.repetitions)
    (few : simulation.messages * simulation.repetitions ≤ Text.maxU32)
    {repository : KeyRepository} {progress : SimulationSummary × Broker}
    (stands : Stands simulation config (simulation.messages * simulation.repetitions)
      (simulation.passed config) (simulation.duplicates config) repository progress) :
    Summarizes simulation config
      { progress.1 with
        counters := (progress.2.metrics.getD 0).counters
        deadLetters := ((progress.2.queues.get? 0).map DeadLetterQueue.entries).getD [] } := by
  obtain ⟨shows, sent, completed, failed⟩ := stands
  obtain ⟨length, total⟩ := length_passed config repeated
  have within : simulation.redeliveries config ≤ Text.maxU32 := by
    rcases redeliveries_cases simulation applies with ⟨_, all⟩ | ⟨_, fewer⟩ <;> omega
  obtain ⟨metrics, found, counted⟩ := Option.map_eq_some_iff.mp shows.counters
  have shownMetrics : progress.2.metrics.getD 0 = metrics := by
    rw [Register.getD, found]
    rfl
  have leaves : (if simulation.leavesFailed config then simulation.passes config else 0) =
      simulation.leftFailed config := by
    unfold leavesFailed leftFailed
    cases simulation.recovers config <;> cases config.handles <;> rfl
  rw [shown_ledgerOf within (by omega)] at counted
  unfold ledgerOf Counters.timeless at counted
  rw [length] at counted completed failed
  obtain ⟨exchanges, failures, redeliveries, exhausted, deadLettered, handled, duplicates, _⟩ :=
    Counters.mk.inj counted
  have lost : (simulation.losing config).length = metrics.counters.deadLettered := by
    rw [length_losing, length, deadLettered]
  have kept := deadLetters_of_shows applies.reachable shows rfl
  rw [shownMetrics]
  exact {
    sent := sent
    failed := failed.trans leaves
    completed := by
      dsimp only
      rw [completed, failed]
      split <;> omega
    exchanges := exchanges.trans total
    failures := failures.trans failed.symm
    duplicates := duplicates
    redeliveries := redeliveries
    exhausted := exhausted
    handled := handled
    deadLettered := deadLettered
    deadLetters := by rw [kept, keptBy, lost]
    kept := by
      rw [← lost, ← length_keptBy, ← kept, List.length_map] }

/-- The losses are those of the messages that pass, or none. -/
theorem losing_eq :
    simulation.losing config =
      if !simulation.recovers config && config.losesToQueue then
        (simulation.passed config).map (simulation.lost config)
      else [] := by
  unfold losing losses
  cases !simulation.recovers config && config.losesToQueue <;>
    simp [List.map_eq_flatMap]

theorem map_lettered {summary : SimulationSummary}
    (summarizes : Summarizes simulation config summary) :
    summary.deadLetters.map Lost.ofLetter =
      (simulation.lettered config).map (simulation.lost config) := by
  rw [summarizes.deadLetters, summarizes.deadLettered, losing_eq, lettered]
  cases config.deadLetterQueue.enabled <;>
    cases !simulation.recovers config && config.losesToQueue <;> simp

/-- A dead letter for a lost message is written as such. -/
theorem isLetter_of_ofLetter {letter : DeadLetter} {number : Nat}
    (same : Lost.ofLetter letter = simulation.lost config number) :
    simulation.IsLetter config number letter.toDocument := by
  obtain ⟨headers, body, redeliveries, reason⟩ := Lost.mk.inj same
  have tagged : (Simulation.headers number).toDocument =
      .object [("messageId", (Value.text (messageId number)).toDocument)] := rfl
  constructor
  · simp [Json.member?, DeadLetter.toDocument, Message.toDocument, List.lookup_cons, headers, tagged]
  · simp [Json.member?, DeadLetter.toDocument, Message.toDocument, List.lookup_cons, body]
  · simp [Json.member?, DeadLetter.toDocument, List.lookup_cons, redeliveries]
  · simp [Json.member?, DeadLetter.toDocument, List.lookup_cons, reason]

theorem reports_of_summarizes {summary : SimulationSummary}
    (summarizes : Summarizes simulation config summary) :
    Reports simulation config summary.toDocument := by
  have letters := map_lettered summarizes
  have number : summary.deadLetters.length = (simulation.lettered config).length := by
    simpa using congrArg List.length letters
  have written : List.Forall₂ (simulation.IsLetter config) (simulation.lettered config)
      (summary.deadLetters.map DeadLetter.toDocument) := by
    have alike : List.Forall₂ Eq ((simulation.lettered config).map (simulation.lost config))
        (summary.deadLetters.map Lost.ofLetter) :=
      List.forall₂_eq_eq_eq ▸ letters.symm
    rw [List.forall₂_map_left_iff, List.forall₂_map_right_iff] at alike
    exact List.forall₂_map_right_iff.mpr
      (alike.imp fun _ _ same => isLetter_of_ofLetter same.symm)
  obtain ⟨sent, failed, completed, exchanges, failures, duplicates, redeliveries, exhausted,
    handled, deadLettered, _, _⟩ := summarizes
  rw [failed] at completed failures
  constructor
  · simp [Json.member?, SimulationSummary.toDocument, sent]
  · simp [Json.member?, SimulationSummary.toDocument, List.lookup_cons, completed]
  · simp [Json.member?, SimulationSummary.toDocument, List.lookup_cons, failed]
  · simp [Json.member?, SimulationSummary.toDocument, List.lookup_cons, duplicates]
  · simp [Json.member?, SimulationSummary.toDocument, List.lookup_cons, number]
  · exact ⟨_, rfl, written⟩
  · let latency := summary.counters.latency
    refine ⟨.object [("p50", .float latency.p50), ("p95", .float latency.p95),
      ("p99", .float latency.p99), ("max", .float latency.maximum)], ?_⟩
    rw [← exchanges, ← failures, ← redeliveries, ← exhausted, ← deadLettered, ← handled,
      ← duplicates]
    rfl

theorem simulate_of_run {text : Option String} {chance : Nat} {summary : SimulationSummary}
    (read : text.elim (pure {}) RoutingConfig.read = .ok config)
    (ran : simulation.run config chance = .ok summary) :
    RoutingConfig.simulate text simulation chance = .ok summary.toDocument := by
  unfold RoutingConfig.simulate
  cases text with
  | none =>
      obtain rfl := Except.ok.inj read
      simp only [bind, Except.bind, pure, Except.pure, ran]
  | some text =>
      rw [Option.elim_some] at read
      simp only [read, bind, Except.bind, ran]
      rfl

/-- What a simulation reports under a configuration that is in order: the summary, and the document
for it, member by member. The document is the answer where the configuration is read from a text, or
is the standard one without a text. -/
theorem run_summarizes (valid : config.validate = .ok ())
    (skip : config.idempotent.options.skipDuplicate = true)
    (queued : ∀ uri, config.errorHandler.deadLetterUri = some uri → ∃ name, uri = "dlq:" ++ name)
    (countable : simulation.failures ≤ Text.maxU32) (repeated : 1 ≤ simulation.repetitions)
    (few : simulation.messages * simulation.repetitions ≤ Text.maxU32) (chance : Nat) :
    ∃ summary, simulation.run config chance = .ok summary ∧
      Summarizes simulation config summary ∧ Reports simulation config summary.toDocument ∧
      ∀ text : Option String, text.elim (pure {}) RoutingConfig.read = .ok config →
        RoutingConfig.simulate text simulation chance = .ok summary.toDocument := by
  obtain ⟨policy, checked, applies⟩ := applies_of_valid valid
  obtain ⟨outset, begun, shows, found⟩ := exists_outset applies chance queued
  have small : simulation.failures ≤ ErrorHandler.maximumCount := countable
  have sent : min (simulation.messages * simulation.repetitions) Text.maxU32 =
      simulation.messages * simulation.repetitions := Nat.min_eq_left few
  have ready : Ledger.Shows config.queue? { repository := config.repository }
      { outset with duplicates := outset.duplicates.add 0 } :=
    ⟨shows.context, shows.counters, shows.repository, shows.queue⟩
  obtain ⟨repository, stands⟩ := exists_stands applies outset.duplicates.next
    (simulation.messages * simulation.repetitions) small skip repeated ready
  have summarizes := summarizes_of_stands applies countable repeated few stands
  suffices ran : simulation.run config chance = .ok _ from
    ⟨_, ran, summarizes, reports_of_summarizes summarizes, fun _ read => simulate_of_run read ran⟩
  unfold Simulation.run
  rw [begun, plan_eq applies checked, sent]
  simp only [bind, Except.bind]
  rw [build_written found]
  rfl

/-- Four messages are sent twice each and never recover; the keys of the first times are kept. -/
theorem run_summarizes_of_bounded_queue :
    let config : RoutingConfig :=
      { errorHandler :=
          { kind := .deadLetterChannel
            deadLetterUri := some "dlq:lost"
            redelivery := { maximum := 1 } }
        deadLetterQueue := { maximumSize := 2 } }
    ∃ summary, Simulation.run ⟨5, 4, 2⟩ config 0 = .ok summary ∧
      summary.completed = 8 ∧ summary.counters.duplicates = 4 ∧
      summary.counters.redeliveries = 4 ∧
      summary.deadLetters.map Lost.ofLetter =
        [lost ⟨5, 4, 2⟩ config 2, lost ⟨5, 4, 2⟩ config 3] ∧
      summary.toDocument.member? "duplicates" = some (.int 4) ∧
      summary.toDocument.member? "dead_lettered" = some (.int 2) := by
  intro config
  have sound : config.validate.toBool = true := by decide +kernel
  have valid : config.validate = .ok () := by
    cases checked : config.validate with
    | ok => rfl
    | error failure =>
        rw [checked] at sound
        contradiction
  obtain ⟨summary, ran, summarizes, reports, _⟩ :=
    @run_summarizes ⟨5, 4, 2⟩ config valid rfl
      (fun _ same => ⟨"lost", (Option.some.inj same).symm⟩) (by decide) (by decide) (by decide) 0
  have failed : summary.failed = 0 := summarizes.failed
  refine ⟨summary, ran, ?_, summarizes.duplicates, summarizes.redeliveries, ?_, reports.duplicates,
    reports.deadLettered⟩
  · rw [summarizes.completed, failed]
    rfl
  · rw [summarizes.deadLetters, summarizes.deadLettered]
    rfl

end Simulation

end MessageRouting
