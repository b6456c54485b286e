import MessageRouting.Proofs.Exchange.Bookkeeping
import MessageRouting.Proofs.Simulation.Ledger

/-!
# A failing step in the hands of an error handler

The step of a simulation fails a fixed number of times for each message. Its error
handler calls it again until it succeeds or redeliveries ran out; then the message is
lost to the dead letter queue or not, and the failure is handled or stays.
-/

namespace MessageRouting

namespace RoutingConfig

/-- Failures whose redeliveries ran out are handled. -/
def handles (config : RoutingConfig) : Bool :=
  config.errorHandler.handled.getD (config.errorHandler.kind == .deadLetterChannel)

/-- Messages whose redeliveries ran out go to a dead letter queue. -/
def losesToQueue (config : RoutingConfig) : Bool :=
  config.errorHandler.kind == .deadLetterChannel

def destination? (config : RoutingConfig) : Option DeadLetterStep :=
  match config.errorHandler.kind, config.errorHandler.deadLetterUri with
  | .deadLetterChannel, some uri => some ⟨uri, Processor.addToQueue uri 0⟩
  | _, _ => none

def queue? (config : RoutingConfig) : Option QueueConfig :=
  config.errorHandler.deadLetterUri.map fun _ => config.deadLetterQueue

end RoutingConfig

namespace Simulation

def recovers (simulation : Simulation) (config : RoutingConfig) : Bool :=
  config.errorHandler.redelivery.maximum == -1 ||
    simulation.failures ≤ config.errorHandler.redelivery.maximum

def redeliveries (simulation : Simulation) (config : RoutingConfig) : Nat :=
  if simulation.recovers config then simulation.failures
  else config.errorHandler.redelivery.maximum.toNat

def leavesFailed (simulation : Simulation) (config : RoutingConfig) : Bool :=
  !simulation.recovers config && !config.handles

def messageId (number : Nat) : String :=
  "msg-" ++ Text.showNat number

def headers (number : Nat) : Headers :=
  (Headers.empty.insert "messageId" (.text (messageId number))).2

/-- The body of a message. -/
def payload (number : Nat) : String :=
  "payload-" ++ Text.showNat number

def failureAfter (redeliveries : Nat) : Failure :=
  .plain ("simulated failure on attempt " ++ Text.showInt (redeliveries + 1))

def lost (simulation : Simulation) (config : RoutingConfig) (number : Nat) : Lost where
  headers := headers number
  body := some (.text (payload number))
  redeliveries := simulation.redeliveries config
  reason := (failureAfter (simulation.redeliveries config)).display

/-- What is lost when a message passes through the handler. -/
def losses (simulation : Simulation) (config : RoutingConfig) (number : Nat) : List Lost :=
  if !simulation.recovers config && config.losesToQueue then [simulation.lost config number] else []

/-- What is counted when redeliveries ran out. -/
def exhaustion (config : RoutingConfig) : Counters where
  exhausted := 1
  deadLettered := if config.losesToQueue then 1 else 0
  handled := if config.handles then 1 else 0

/-- What is counted when a message passes through the handler, after some redeliveries. -/
def handling (simulation : Simulation) (config : RoutingConfig) (redeliveries : Nat) : Counters :=
  Counters.plus { redeliveries := redeliveries }
    (if simulation.recovers config then {} else exhaustion config)

def guard (simulation : Simulation) (config : RoutingConfig) (policy : RedeliveryPolicy) :
    ErrorHandler where
  rules :=
    { kind := config.errorHandler.kind
      deadLetter := config.destination?
      redelivery := policy
      handled := config.errorHandler.handled.map fun handled _ => handled
      useArrival := config.errorHandler.useArrival
      metrics := some 0 }
  output := failingStep simulation.failures

/-! ## Exchanges under way -/

structure Carries (number : Nat) (completions : List Completion) (exchange : Exchange) : Prop where
  context : exchange.context = ⟨"simulate", Converter.standard⟩
  headers : exchange.inbound.headers = headers number
  body : exchange.inbound.body = some (.text (payload number))
  sound : exchange.inbound.isFault = false
  outbound : exchange.outbound = none
  fault : exchange.fault = none
  unitOfWork : exchange.unitOfWork =
    some { arrival := exchange.inbound, completions := completions, isActive := true }
  unmarked : exchange.known? .rollbackOnly = none

variable {simulation : Simulation} {config : RoutingConfig} {policy : RedeliveryPolicy}
  {number redeliveries : Nat} {completions : List Completion} {exchange other after : Exchange}
  {ledger : Ledger}

/-- What an exchange carries is not changed by its properties and failures. -/
theorem Carries.congr (carries : Carries number completions exchange)
    (context : other.context = exchange.context) (inbound : other.inbound = exchange.inbound)
    (outbound : other.outbound = exchange.outbound) (fault : other.fault = none)
    (unitOfWork : other.unitOfWork = exchange.unitOfWork)
    (unmarked : other.known? .rollbackOnly = exchange.known? .rollbackOnly) :
    Carries number completions other where
  context := context.trans carries.context
  headers := by rw [inbound, carries.headers]
  body := by rw [inbound, carries.body]
  sound := by rw [inbound, carries.sound]
  outbound := outbound.trans carries.outbound
  fault := fault
  unitOfWork := by rw [unitOfWork, inbound, carries.unitOfWork]
  unmarked := unmarked.trans carries.unmarked

theorem Carries.header? (carries : Carries number completions exchange) :
    exchange.inbound.header? "messageId" = some (.text (messageId number)) := by
  rw [Message.header?, carries.headers]
  exact Headers.get?_insert_self ..

theorem Carries.settled (carries : Carries number completions exchange) :
    Carries number completions (ErrorHandler.settled exchange redeliveries) := by
  unfold ErrorHandler.settled
  split <;> exact carries.congr rfl rfl rfl carries.fault rfl (by simp)

theorem Carries.isFailed (carries : Carries number completions exchange) :
    exchange.isFailed = exchange.exception.isSome := by
  have active : exchange.activeMessage = exchange.inbound := by
    rw [Exchange.activeMessage, carries.fault, carries.outbound]
  rw [Exchange.isFailed, active, carries.sound, Bool.or_false]

theorem Carries.isRollbackOnly (carries : Carries number completions exchange) :
    exchange.isRollbackOnly = false := by
  rw [Exchange.isRollbackOnly, Exchange.flag_eq, carries.unmarked]
  rfl

structure Underway (number : Nat) (completions : List Completion) (redeliveries : Nat)
    (exchange : Exchange) : Prop where
  carries : Carries number completions exchange
  counter : exchange.known? .redeliveryCounter = ErrorHandler.counterAfter redeliveries
  unexhausted : exchange.known? .failureHandled = none

structure Passed (simulation : Simulation) (config : RoutingConfig) (number : Nat)
    (completions : List Completion) (after : Exchange) : Prop where
  carries : Carries number completions after
  exception : after.exception.isSome = simulation.leavesFailed config
  settled : after.known? .failureHandled =
    if simulation.recovers config then none else some (.bool true)

/-! ## An attempt -/

theorem failingStep_invoke (bounded : redeliveries ≤ ErrorHandler.maximumCount)
    (counter : exchange.known? .redeliveryCounter = ErrorHandler.counterAfter redeliveries)
    (unfailed : exchange.exception = none) :
    (failingStep simulation.failures).invoke exchange =
      pure { exchange with
        exception :=
          if redeliveries < simulation.failures then some (failureAfter redeliveries)
          else none } := by
  have count := ErrorHandler.redeliveryCount_of_counter counter bounded
  unfold failingStep Processor.invoke Processor.ofFunction
  simp only [count, pure_bind, Int.ofNat_lt]
  by_cases fails : redeliveries < simulation.failures
  · simp only [if_pos fails]
    rfl
  · have same : { exchange with exception := none } = exchange := by rw [← unfailed]
    simp only [if_neg fails, same]

theorem leads_prepare (delay : Duration) :
    Leads config.queue? ledger (ErrorHandler.prepare ⟨delay, none⟩ exchange) ledger
      (· = ErrorHandler.cleared exchange) := by
  unfold ErrorHandler.prepare
  cases delay.isZero with
  | true => exact (leads_wait delay).bind fun _ _ => leads_pure rfl
  | false =>
      refine (leads_report _).bind fun _ _ => ?_
      exact (leads_wait delay).bind fun _ _ => leads_pure rfl

theorem leads_attempt {preparation : Option ErrorHandler.Preparation}
    (bounded : redeliveries ≤ ErrorHandler.maximumCount)
    (unhooked : ∀ held ∈ preparation, held.hook = none)
    (underway : Underway number completions redeliveries exchange)
    (unfailed : preparation = none → exchange.exception = none) :
    Leads config.queue? ledger ((simulation.guard config policy).attempt preparation exchange)
      ledger fun after => Underway number completions redeliveries after ∧
        after.exception =
          if redeliveries < simulation.failures then some (failureAfter redeliveries)
          else none := by
  obtain ⟨carries, counter, unexhausted⟩ := underway
  have stepped : ∀ ready : Exchange, Underway number completions redeliveries ready →
      ready.exception = none → Leads config.queue? ledger
        (if ready.exception.isNone then (failingStep simulation.failures).invoke ready
          else pure ready) ledger fun after => Underway number completions redeliveries after ∧
        after.exception =
          if redeliveries < simulation.failures then some (failureAfter redeliveries)
          else none := by
    intro ready ⟨carries, counter, unexhausted⟩ unfailed
    rw [unfailed, failingStep_invoke bounded counter unfailed]
    refine leads_pure ⟨⟨?_, counter, unexhausted⟩, rfl⟩
    exact carries.congr rfl rfl rfl carries.fault rfl rfl
  cases preparation with
  | none => exact stepped exchange ⟨carries, counter, unexhausted⟩ (unfailed rfl)
  | some held =>
      obtain ⟨delay, hook⟩ := held
      obtain rfl : hook = none := unhooked _ rfl
      refine (leads_prepare delay).bind ?_
      rintro ready rfl
      refine stepped _ ⟨?_, ?_, ?_⟩ rfl
      · exact carries.congr rfl rfl rfl rfl rfl (by simp)
      · simpa using counter
      · simpa using unexhausted

/-! ## When redeliveries ran out -/

theorem policyFor_guard (failure : Failure) :
    (simulation.guard config policy).policyFor failure = none := by
  unfold ErrorHandler.policyFor
  exact List.findSome?_eq_none_iff.mpr fun _ _ => rfl

theorem isHandled_guard (exchange : Exchange) :
    (simulation.guard config policy).isHandled none exchange = config.handles := by
  unfold ErrorHandler.isHandled RoutingConfig.handles guard
  cases config.errorHandler.handled <;> rfl

structure Exhausted (simulation : Simulation) (config : RoutingConfig) (number : Nat)
    (completions : List Completion) (exchange : Exchange) : Prop where
  carries : Carries number completions exchange
  counter : exchange.known? .redeliveryCounter =
    ErrorHandler.counterAfter (simulation.redeliveries config)
  caught : exchange.caught = some (failureAfter (simulation.redeliveries config))
  settled : exchange.known? .failureHandled = some (.bool true)

/-- What an exchange carries is delivered as it is. -/
theorem forDeadLetter_guard (carries : Carries number completions exchange) (entry : Option Message)
    (name : String) :
    (simulation.guard config policy).forDeadLetter none entry name exchange =
      exchange.clearException.put .failureEndpoint (.text name) := by
  have arrived : exchange.arrival? = some exchange.inbound := by
    rw [Exchange.arrival?, carries.unitOfWork]
    rfl
  have restored : { exchange with inbound := exchange.inbound, outbound := none } = exchange := by
    rw [← carries.outbound]
  rw [ErrorHandler.forDeadLetter, ErrorHandler.original?, arrived, Option.some_or]
  split
  · rename_i original chosen
    split at chosen
    · rw [← Option.some.inj chosen, restored]
    · cases chosen
  · rfl

theorem ofLetter_ofExchange (exhausted : Exhausted simulation config number completions exchange)
    (bounded : simulation.redeliveries config ≤ ErrorHandler.maximumCount)
    (timeToLive : Duration) (now : Nat) :
    Lost.ofLetter (.ofExchange exchange timeToLive now) = simulation.lost config number := by
  have count := ErrorHandler.redeliveryCount_of_counter exhausted.counter bounded
  simp [Lost.ofLetter, DeadLetter.ofExchange, lost, exhausted.carries.headers,
    exhausted.carries.body, exhausted.caught, count]

theorem leads_conclude (persists : simulation.recovers config = false) (failure : Failure)
    (deliveredTo : Option String)
    (exhausted : Exhausted simulation config number completions exchange) :
    Leads config.queue? ledger
      ((simulation.guard config policy).conclude none failure deliveredTo exchange)
      (ledger.add { handled := if config.handles then 1 else 0 })
      fun result => Passed simulation config number completions result.1 := by
  obtain ⟨carries, counter, caught, settled⟩ := exhausted
  unfold ErrorHandler.conclude
  rw [isHandled_guard]
  cases handles : config.handles with
  | true =>
      have cleared : Passed simulation config number completions
          (exchange.clearException.put .errorHandlerHandled (.bool true)) := by
        refine ⟨carries.congr rfl rfl rfl carries.fault rfl (by simp), ?_, ?_⟩
        · simp [leavesFailed, handles, Exchange.put, Exchange.setProperty, Exchange.clearException]
        · simpa [persists] using settled
      have counted : Leads config.queue? ledger (Broker.count (some 0) Metrics.recordHandled)
          (ledger.add { handled := 1 }) fun _ => True :=
        leads_count Metrics.counts_recordHandled
      cases (ErrorHandler.redeliveryUnder (simulation.guard config policy) none).logHandled with
      | true =>
          refine (leads_report _).bind fun _ _ => ?_
          exact counted.bind fun _ _ => leads_pure cleared
      | false => exact counted.bind fun _ _ => leads_pure cleared
  | false =>
      have nothing : ledger.add { handled := if false = true then 1 else 0 } = ledger :=
        ledger.add_nothing
      rw [nothing]
      refine leads_pure ⟨carries.congr rfl rfl rfl carries.fault rfl (by simp), ?_, ?_⟩
      · simp [leavesFailed, handles, persists, Exchange.setException]
      · simpa [persists] using settled

theorem leads_reportExhausted (redelivery : RedeliveryPolicy) (failure : Failure) :
    Leads config.queue? ledger (ErrorHandler.reportExhausted redelivery exchange failure) ledger
      fun _ => True := by
  unfold ErrorHandler.reportExhausted
  split
  · exact leads_report _
  · exact leads_pure trivial

theorem leads_deliver (persists : simulation.recovers config = false)
    (bounded : simulation.redeliveries config ≤ ErrorHandler.maximumCount)
    (positive : 0 < config.deadLetterQueue.maximumSize) {uri : String}
    (named : config.errorHandler.deadLetterUri = some uri) (failure : Failure) (entry : Option Message)
    (exhausted : Exhausted simulation config number completions exchange) :
    Leads config.queue? ledger
      ((simulation.guard config policy).deliver none failure entry
        ⟨uri, Processor.addToQueue uri 0⟩ exchange)
      (ledger.add { deadLettered := 1, handled := if config.handles then 1 else 0 }
        [simulation.lost config number])
      fun result => Passed simulation config number completions result.1 := by
  obtain ⟨carries, counter, caught, settled⟩ := exhausted
  have ready : Exhausted simulation config number completions
      (exchange.clearException.put .failureEndpoint (.text uri)) :=
    ⟨carries.congr rfl rfl rfl carries.fault rfl (by simp), by simpa using counter, caught,
      by simpa using settled⟩
  have queue : config.queue? = some config.deadLetterQueue := by
    rw [RoutingConfig.queue?, named]
    rfl
  have added : Leads config.queue? ledger ((Processor.addToQueue uri 0).invoke
      (exchange.clearException.put .failureEndpoint (.text uri)))
      (ledger.add {} [simulation.lost config number])
      (· = exchange.clearException.put .failureEndpoint (.text uri)) := by
    rw [queue]
    exact leads_addToQueue positive uri (ofLetter_ofExchange ready bounded)
  have total : ((ledger.add {} [simulation.lost config number]).add { deadLettered := 1 }).add
      { handled := if config.handles then 1 else 0 } =
        ledger.add { deadLettered := 1, handled := if config.handles then 1 else 0 }
          [simulation.lost config number] := by
    simp [Ledger.add_add, Counters.plus]
  rw [← total]
  unfold ErrorHandler.deliver
  rw [forDeadLetter_guard carries]
  refine added.bind ?_
  rintro _ rfl
  refine (leads_report _).bind fun _ _ => ?_
  refine (leads_count Metrics.counts_recordDeadLettered).bind fun _ _ => ?_
  exact leads_conclude persists failure _ ready

theorem leads_exhaust (persists : simulation.recovers config = false)
    (bounded : simulation.redeliveries config ≤ ErrorHandler.maximumCount)
    (reachable : config.hasDestination = true)
    (positive : 0 < config.deadLetterQueue.maximumSize) (failure : Failure) (entry : Option Message)
    (carries : Carries number completions exchange)
    (counter : exchange.known? .redeliveryCounter =
      ErrorHandler.counterAfter (simulation.redeliveries config))
    (caught : exchange.caught = some (failureAfter (simulation.redeliveries config))) :
    Leads config.queue? ledger
      ((simulation.guard config policy).exhaust none failure entry exchange)
      (ledger.add (exhaustion config) (simulation.losses config number))
      fun result => Passed simulation config number completions result.1 := by
  have exhausted : Exhausted simulation config number completions
      ((exchange.put .redeliveryExhausted (.bool true)).put .failureHandled (.bool true)) :=
    ⟨carries.congr rfl rfl rfl carries.fault rfl (by simp), by simpa using counter, caught,
      by simp⟩
  have looked : Leads config.queue? (ledger.add { exhausted := 1 })
      (Routine.look ((simulation.guard config policy).destination none))
      (ledger.add { exhausted := 1 }) (· = .ok config.destination?) :=
    leads_look fun _ _ => rfl
  unfold ErrorHandler.exhaust
  refine (leads_reportExhausted _ _).bind fun _ _ => ?_
  refine (leads_count Metrics.counts_recordExhausted).bind fun _ _ => ?_
  refine looked.bind ?_
  rintro _ rfl
  cases kind : config.errorHandler.kind with
  | standard =>
      have total : (ledger.add { exhausted := 1 }).add
          { handled := if config.handles then 1 else 0 } =
            ledger.add (exhaustion config) (simulation.losses config number) := by
        simp [Ledger.add_add, Counters.plus, exhaustion, losses, RoutingConfig.losesToQueue, kind]
      have nowhere : config.destination? = none := by
        rw [RoutingConfig.destination?, kind]
      rw [nowhere, ← total]
      exact leads_conclude persists failure none exhausted
  | deadLetterChannel =>
      obtain ⟨uri, named⟩ : ∃ uri, config.errorHandler.deadLetterUri = some uri := by
        cases named : config.errorHandler.deadLetterUri with
        | some uri => exact ⟨uri, rfl⟩
        | none =>
            rw [RoutingConfig.hasDestination, kind, named] at reachable
            contradiction
      have total : (ledger.add { exhausted := 1 }).add
          { deadLettered := 1, handled := if config.handles then 1 else 0 }
          [simulation.lost config number] =
            ledger.add (exhaustion config) (simulation.losses config number) := by
        simp [Ledger.add_add, Counters.plus, exhaustion, losses, RoutingConfig.losesToQueue, kind,
          persists]
      have somewhere : config.destination? = some ⟨uri, Processor.addToQueue uri 0⟩ := by
        rw [RoutingConfig.destination?, kind, named]
      rw [somewhere, ← total]
      exact leads_deliver persists bounded positive named failure entry exhausted

theorem leads_reportRedelivery (redelivery : RedeliveryPolicy) (failure : Failure) (attempt : Nat)
    (delay : Duration) :
    Leads config.queue? ledger
      (ErrorHandler.reportRedelivery redelivery exchange failure attempt delay) ledger
      fun _ => True := by
  unfold ErrorHandler.reportRedelivery
  split
  · exact leads_report _
  · exact leads_pure trivial

/-! ## All attempts -/

/-- The rules of redelivery that a configuration gives. -/
structure Applies (config : RoutingConfig) (policy : RedeliveryPolicy) : Prop where
  maximum : policy.maximum = config.errorHandler.redelivery.maximum
  valid : -1 ≤ config.errorHandler.redelivery.maximum
  reachable : config.hasDestination = true
  positive : 0 < config.deadLetterQueue.maximumSize

/-- A message is redelivered until it succeeds, or as often as it may be. -/
theorem redeliveries_cases (simulation : Simulation) (applies : Applies config policy) :
    (simulation.recovers config = true ∧
        simulation.redeliveries config = simulation.failures) ∨
      (simulation.recovers config = false ∧
        simulation.redeliveries config < simulation.failures) := by
  have valid := applies.valid
  unfold redeliveries
  cases recovers : simulation.recovers config with
  | true => exact .inl ⟨rfl, rfl⟩
  | false =>
      rw [Simulation.recovers, Bool.or_eq_false_iff, beq_eq_false_iff_ne,
        decide_eq_false_iff_not] at recovers
      refine .inr ⟨rfl, ?_⟩
      rw [if_neg Bool.false_ne_true]
      omega

/-- After a failure the step is called again exactly if that is one of the redeliveries of the
message. -/
theorem mayRedeliver_iff (applies : Applies config policy)
    (carries : Carries number completions exchange)
    (fails : redeliveries < simulation.failures) :
    (simulation.guard config policy).mayRedeliver none exchange (redeliveries + 1) = true ↔
      redeliveries < simulation.redeliveries config := by
  obtain ⟨maximum, valid, _, _⟩ := applies
  have allowed : (simulation.guard config policy).mayRedeliver none exchange (redeliveries + 1) =
      policy.allowsAttempt (redeliveries + 1) := by
    unfold ErrorHandler.mayRedeliver
    rw [carries.isRollbackOnly]
    rfl
  rw [allowed, RedeliveryPolicy.allowsAttempt, maximum, Simulation.redeliveries,
    Simulation.recovers]
  simp only [Bool.or_eq_true, decide_eq_true_eq, beq_iff_eq]
  split <;> omega

theorem handling_succ (simulation : Simulation) (config : RoutingConfig) (redeliveries : Nat) :
    Counters.plus { redeliveries := 1 } (simulation.handling config redeliveries) =
      simulation.handling config (redeliveries + 1) := by
  simp [handling, Counters.plus]
  omega

/-- After its last failure a message has passed through the handler. -/
theorem handling_of_recovered (applies : Applies config policy)
    (within : redeliveries ≤ simulation.redeliveries config)
    (recovered : ¬ redeliveries < simulation.failures) (number : Nat) (ledger : Ledger) :
    simulation.recovers config = true ∧
      ledger.add (simulation.handling config (simulation.redeliveries config - redeliveries))
        (simulation.losses config number) = ledger := by
  rcases redeliveries_cases simulation applies with ⟨recovers, all⟩ | ⟨_, fewer⟩
  · have none : simulation.redeliveries config - redeliveries = 0 := by omega
    refine ⟨recovers, ?_⟩
    rw [handling, losses, none, recovers]
    exact ledger.add_nothing
  · omega

/-- What follows upon an attempt: the message has passed, or its failure leads further. -/
theorem leads_attempted (applies : Applies config policy)
    {further : Failure → Routine Broker (Exchange × Outcome)}
    (within : redeliveries ≤ simulation.redeliveries config)
    (underway : Underway number completions redeliveries after)
    (attempted : after.exception =
      if redeliveries < simulation.failures then some (failureAfter redeliveries) else none)
    (fails : redeliveries < simulation.failures →
      Leads config.queue? ledger (further (failureAfter redeliveries))
        (ledger.add (simulation.handling config (simulation.redeliveries config - redeliveries))
          (simulation.losses config number))
        fun result => Passed simulation config number completions result.1) :
    Leads config.queue? ledger
      (match after.exception with
      | none =>
          if after.isFailed then
            (Broker.report .faultReturned).bind fun _ => .done (after, .fault)
          else .done (after, .success redeliveries)
      | some failure =>
          if failure.isFatal then
            (Broker.report (.fatal failure.renderChain)).bind fun _ =>
              .done (after.setCaught failure, .fatal failure)
          else further failure)
      (ledger.add (simulation.handling config (simulation.redeliveries config - redeliveries))
        (simulation.losses config number))
      fun result => Passed simulation config number completions result.1 := by
  by_cases failing : redeliveries < simulation.failures
  · rw [if_pos failing] at attempted
    rw [attempted]
    exact fails failing
  · rw [if_neg failing] at attempted
    obtain ⟨recovers, same⟩ := handling_of_recovered applies within failing number ledger
    have sound : after.isFailed = false := by
      rw [underway.carries.isFailed, attempted]
      rfl
    rw [attempted, same]
    dsimp only
    rw [sound]
    refine leads_pure ⟨underway.carries, ?_, ?_⟩
    · rw [attempted, leavesFailed, recovers]
      rfl
    · rw [underway.unexhausted, recovers]
      rfl

/-- A message on its way through the handler: the redeliveries that are left are made, and if it
cannot recover it is lost. -/
theorem leads_attempts (applies : Applies config policy)
    (countable : Nat) (bounded : countable + redeliveries = ErrorHandler.maximumCount)
    (within : redeliveries ≤ simulation.redeliveries config)
    (small : simulation.failures ≤ ErrorHandler.maximumCount) (entry : Option Message)
    {preparation : Option ErrorHandler.Preparation}
    (unhooked : ∀ held ∈ preparation, held.hook = none)
    (underway : Underway number completions redeliveries exchange)
    (unfailed : preparation = none → exchange.exception = none) :
    Leads config.queue? ledger
      ((simulation.guard config policy).attempts entry countable redeliveries preparation exchange)
      (ledger.add (simulation.handling config (simulation.redeliveries config - redeliveries))
        (simulation.losses config number))
      fun result => Passed simulation config number completions result.1 := by
  -- By induction on the failures that can still be counted; the counter of the exchange is what
  -- ties them to the redeliveries that were made.
  induction countable generalizing redeliveries preparation exchange ledger with
  | zero =>
      unfold ErrorHandler.attempts
      refine (leads_attempt (by omega) unhooked underway unfailed).bind ?_
      rintro after ⟨underway, attempted⟩
      refine leads_attempted applies within underway attempted fun failing => ?_
      exact absurd failing (by omega)
  | succ countable inductionHypothesis =>
      unfold ErrorHandler.attempts
      refine (leads_attempt (by omega) unhooked underway unfailed).bind ?_
      rintro after ⟨underway, attempted⟩
      refine leads_attempted applies within underway attempted fun failing => ?_
      obtain ⟨carries, counter, unexhausted⟩ := underway
      have counted : Carries number completions
          (ErrorHandler.counted (after.setCaught (failureAfter redeliveries)) (redeliveries + 1)) :=
        carries.congr rfl rfl rfl carries.fault rfl (by simp)
      dsimp only
      rw [policyFor_guard]
      by_cases further : redeliveries < simulation.redeliveries config
      · rw [if_pos ((mayRedeliver_iff applies counted failing).mpr further)]
        have again : Underway number completions (redeliveries + 1)
            (ErrorHandler.counted (after.setCaught (failureAfter redeliveries))
              (redeliveries + 1)) :=
          ⟨counted, by simp [ErrorHandler.counterAfter], by simpa using unexhausted⟩
        have left : simulation.redeliveries config - redeliveries =
            simulation.redeliveries config - (redeliveries + 1) + 1 := by omega
        have total : (ledger.add { redeliveries := 1 }).add
            (simulation.handling config (simulation.redeliveries config - (redeliveries + 1)))
            (simulation.losses config number) =
              ledger.add
                (simulation.handling config (simulation.redeliveries config - redeliveries))
                (simulation.losses config number) := by
          rw [Ledger.add_add, handling_succ, ← left]
          rfl
        rw [← total]
        refine leads_drawChance.bind fun chance _ => ?_
        refine (leads_reportRedelivery _ _ _ _).bind fun _ _ => ?_
        refine (leads_count Metrics.counts_recordRedelivery).bind fun _ _ => ?_
        apply inductionHypothesis (by omega) further _ again
        · intro unprepared
          contradiction
        · rintro held ⟨⟩
          rfl
      · rw [if_neg fun allowed => further ((mayRedeliver_iff applies counted failing).mp allowed)]
        obtain rfl : redeliveries = simulation.redeliveries config := by omega
        have persists : simulation.recovers config = false := by
          rcases redeliveries_cases simulation applies with ⟨_, all⟩ | ⟨persists, _⟩
          · omega
          · exact persists
        have total : ledger.add (exhaustion config) (simulation.losses config number) =
            ledger.add (simulation.handling config
              (simulation.redeliveries config - simulation.redeliveries config))
              (simulation.losses config number) := by
          simp [handling, persists, Counters.plus, exhaustion]
        rw [← total]
        exact leads_exhaust persists (by omega) applies.reachable applies.positive _ entry
          counted.settled (by simp) (by simp)

end Simulation

end MessageRouting
