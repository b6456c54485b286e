import MessageRouting.Proofs.Idempotent.Repository
import MessageRouting.Proofs.Simulation.Handling

/-!
# Sending a message along the route of a simulation

A message whose key is in the repository leaves the route as a duplicate. Any other
message passes through the error handler, and its key is settled at the end.
-/

namespace MessageRouting

namespace Simulation

def consumer (simulation : Simulation) (config : RoutingConfig) (policy : RedeliveryPolicy)
    (counter : Nat) : IdempotentConsumer where
  key exchange := (Expression.header "messageId").evaluate exchange
  repository := 0
  options := config.idempotent.options
  duplicates := counter
  metrics := some 0
  inner := .pipeline "simulation" [(simulation.guard config policy).toProcessor]

def route (simulation : Simulation) (config : RoutingConfig) (policy : RedeliveryPolicy)
    (counter : Nat) : Route where
  id := "simulation"
  source := none
  processor := (Processor.pipeline "simulation"
    [(simulation.consumer config policy counter).toProcessor]).inUnitOfWork
  metrics := some 0

def asked (config : RoutingConfig) (repository : KeyRepository) (key : String) : KeyRepository :=
  if config.idempotent.options.eager then (repository.add key).2 else repository

/-- The repository after a message with a new key passed. -/
def admitted (simulation : Simulation) (config : RoutingConfig) (repository : KeyRepository)
    (key : String) : KeyRepository :=
  (asked config repository key).settle config.idempotent.options (simulation.recovers config) key

/-- What is counted when a message with a new key is sent. -/
def passing (simulation : Simulation) (config : RoutingConfig) : Counters :=
  (simulation.handling config (simulation.redeliveries config)).plus
    { exchanges := 1, failures := if simulation.leavesFailed config then 1 else 0 }

variable {simulation : Simulation} {config : RoutingConfig} {policy : RedeliveryPolicy}
  {number counter : Nat} {completions : List Completion} {exchange after : Exchange}
  {ledger : Ledger}

structure Entered (number : Nat) (completions : List Completion) (exchange : Exchange) : Prop where
  carries : Carries number completions exchange
  unfailed : exchange.exception = none
  unmarked : exchange.properties = {}

theorem Entered.known? (entered : Entered number completions exchange) (property : Property) :
    exchange.known? property = none := by
  rw [Exchange.known?, Exchange.property?, entered.unmarked]
  rfl

theorem leads_handler (applies : Applies config policy)
    (small : simulation.failures ≤ ErrorHandler.maximumCount)
    (entered : Entered number completions exchange) :
    Leads config.queue? ledger ((simulation.guard config policy).toProcessor.invoke exchange)
      (ledger.add (simulation.handling config (simulation.redeliveries config))
        (simulation.losses config number))
      (Passed simulation config number completions) := by
  have underway : Underway number completions 0 exchange :=
    ⟨entered.carries, entered.known? _, entered.known? _⟩
  have handled : Leads config.queue? ledger ((simulation.guard config policy).handle exchange)
      (ledger.add (simulation.handling config (simulation.redeliveries config))
        (simulation.losses config number))
      fun result => Passed simulation config number completions result.1 := by
    refine leads_attempts applies ErrorHandler.maximumCount rfl (Nat.zero_le _) small
      _ ?_ underway fun _ => entered.unfailed
    intro held impossible
    contradiction
  rw [ErrorHandler.toProcessor, Processor.invoke_silent]
  exact handled.bind fun result passed => leads_pure passed

/-- A pipeline of one step is that step. -/
theorem invoke_pipeline_single (name : String) (step : Processor)
    (going : exchange.flag .routeStop = false) :
    (Processor.pipeline name [step]).invoke exchange = step.invoke exchange := by
  have ends : ∀ after : Exchange, (if after.mayContinue then Processor.runSteps true [] after
      else pure after) = (pure after : Routine Broker Exchange) := by
    intro after
    split <;> rfl
  rw [Processor.pipeline, Processor.invoke_silent, Processor.runSteps, going]
  simp only [ends]
  exact bind_pure _

/-! ## The consumer -/

theorem Entered.flag (entered : Entered number completions exchange) (property : Property) :
    exchange.flag property = false := by
  rw [Exchange.flag_eq, entered.known? property]
  rfl

theorem keyOf_consumer (carries : Carries number completions exchange) :
    (simulation.consumer config policy counter).keyOf exchange = some (messageId number) := by
  have found : (simulation.consumer config policy counter).key exchange =
      some (.text (messageId number)) := carries.header?
  rw [IdempotentConsumer.keyOf, found, carries.context]
  rfl

theorem leads_accept (key : String) :
    Leads config.queue? ledger ((simulation.consumer config policy counter).accept key)
      (ledger.remembering (asked config ledger.repository key))
      (· = !ledger.repository.contains key) := by
  unfold IdempotentConsumer.accept asked consumer
  cases config.idempotent.options.eager with
  | true => exact leads_withRepository (ledger.repository.fst_add key)
  | false => exact leads_withRepository rfl

/-- A key that is known stays as it is. -/
theorem asked_of_known {repository : KeyRepository} {key : String}
    (known : repository.contains key = true) : asked config repository key = repository := by
  unfold asked
  rw [KeyRepository.add_of_contains known, ite_self]

theorem leads_accept_of_known {key : String} (known : ledger.repository.contains key = true) :
    Leads config.queue? ledger ((simulation.consumer config policy counter).accept key) ledger
      (· = false) := by
  have accepted : Leads config.queue? ledger
      ((simulation.consumer config policy counter).accept key)
      (ledger.remembering (asked config ledger.repository key))
      (· = !ledger.repository.contains key) := leads_accept key
  rw [asked_of_known known, known] at accepted
  exact accepted

theorem leads_accept_of_new {key : String} (isNew : ledger.repository.contains key = false) :
    Leads config.queue? ledger ((simulation.consumer config policy counter).accept key)
      (ledger.remembering (asked config ledger.repository key)) (· = true) := by
  have accepted : Leads config.queue? ledger
      ((simulation.consumer config policy counter).accept key)
      (ledger.remembering (asked config ledger.repository key))
      (· = !ledger.repository.contains key) := leads_accept key
  rw [isNew] at accepted
  exact accepted

theorem invoke_consumer (carries : Carries number completions exchange) :
    (simulation.consumer config policy counter).toProcessor.invoke exchange = (do
      if ← (simulation.consumer config policy counter).accept (messageId number) then
        (simulation.consumer config policy counter).letThrough (messageId number) exchange
      else (simulation.consumer config policy counter).duplicate exchange) := by
  unfold Processor.invoke IdempotentConsumer.toProcessor
  simp only [keyOf_consumer carries, bind_assoc]
  congr 1
  funext isNew
  cases isNew <;> simp

/-- The exchange of a duplicate leaves the consumer without any further step. -/
theorem leads_consumer_of_known (skip : config.idempotent.options.skipDuplicate = true)
    (known : ledger.repository.contains (messageId number) = true)
    (entered : Entered number [] exchange) :
    Leads config.queue? ledger
      ((simulation.consumer config policy counter).toProcessor.invoke exchange)
      (ledger.add { duplicates := 1 })
      fun after => Carries number [] after ∧ after.exception = none := by
  obtain ⟨carries, unfailed, unmarked⟩ := entered
  rw [invoke_consumer carries]
  refine (leads_accept_of_known known).bind ?_
  rintro isNew rfl
  have counted : Leads config.queue? ledger (Routine.modify fun broker =>
      { broker with duplicates := broker.duplicates.modify counter (· + 1) }) ledger
      fun _ => True :=
    Routine.ensures_modify fun broker shows =>
      ⟨trivial, shows.context, shows.counters, shows.repository, shows.queue⟩
  unfold IdempotentConsumer.duplicate
  refine counted.bind fun _ _ => ?_
  refine (leads_count Metrics.counts_recordDuplicate).bind fun _ _ => ?_
  have skips : (simulation.consumer config policy counter).options.skipDuplicate = true := skip
  rw [skips]
  exact leads_pure ⟨carries.congr rfl rfl rfl carries.fault rfl (by simp), unfailed⟩

/-- The exchange of a new message passes through the handler and owes the settlement of its key. -/
theorem leads_consumer_of_new (applies : Applies config policy)
    (small : simulation.failures ≤ ErrorHandler.maximumCount)
    (isNew : ledger.repository.contains (messageId number) = false)
    (entered : Entered number [] exchange) :
    Leads config.queue? ledger
      ((simulation.consumer config policy counter).toProcessor.invoke exchange)
      ((ledger.remembering (asked config ledger.repository (messageId number))).add
        (simulation.handling config (simulation.redeliveries config))
        (simulation.losses config number))
      (Passed simulation config number
        [.settleKey 0 (messageId number) config.idempotent.options]) := by
  obtain ⟨carries, unfailed, unmarked⟩ := entered
  rw [invoke_consumer carries]
  refine (leads_accept_of_new isNew).bind ?_
  rintro isNew rfl
  have owing : Entered number [.settleKey 0 (messageId number) config.idempotent.options]
      (exchange.addCompletion
        (.settleKey 0 (messageId number) config.idempotent.options)) := by
    refine ⟨⟨carries.context, carries.headers, carries.body, carries.sound, carries.outbound,
      carries.fault, ?_, carries.unmarked⟩, unfailed, unmarked⟩
    rw [Exchange.addCompletion, Exchange.unitOfWorkOrNew, carries.unitOfWork]
    rfl
  have inside : exchange.isInUnitOfWork = true := by
    rw [Exchange.isInUnitOfWork, carries.unitOfWork]
    rfl
  have stepped : Leads config.queue?
      (ledger.remembering (asked config ledger.repository (messageId number)))
      ((Processor.pipeline "simulation" [(simulation.guard config policy).toProcessor]).invoke
        (exchange.addCompletion (.settleKey 0 (messageId number) config.idempotent.options)))
      ((ledger.remembering (asked config ledger.repository (messageId number))).add
        (simulation.handling config (simulation.redeliveries config))
        (simulation.losses config number))
      (Passed simulation config number
        [.settleKey 0 (messageId number) config.idempotent.options]) := by
    rw [invoke_pipeline_single _ _ (owing.flag _)]
    exact leads_handler applies small owing
  unfold IdempotentConsumer.letThrough
  rw [inside]
  exact stepped

/-! ## The route -/

structure Fresh (number : Nat) (exchange : Exchange) : Prop where
  context : exchange.context = ⟨"simulate", Converter.standard⟩
  headers : exchange.inbound.headers = headers number
  body : exchange.inbound.body = some (.text (payload number))
  sound : exchange.inbound.isFault = false
  outbound : exchange.outbound = none
  fault : exchange.fault = none
  unbegun : exchange.unitOfWork = none
  unfailed : exchange.exception = none
  unmarked : exchange.properties = {}

theorem Fresh.entered (fresh : Fresh number exchange) :
    Entered number [] exchange.enterUnitOfWork := by
  obtain ⟨context, headers, body, sound, outbound, fault, unbegun, unfailed, unmarked⟩ := fresh
  refine ⟨⟨context, headers, body, sound, outbound, fault, ?_, ?_⟩, unfailed, unmarked⟩
  · rw [Exchange.enterUnitOfWork, Exchange.unitOfWorkOrNew, unbegun]
    rfl
  · rw [Exchange.known?, Exchange.property?]
    exact (congrArg (Table.get? · _) unmarked).trans rfl

/-- The exchange is failed if and only if it has an exception. -/
structure Ended (failed : Bool) (exchange : Exchange) : Prop where
  isFailed : exchange.isFailed = failed
  exception : exchange.exception.isSome = failed

/-- What is left of an exchange when its unit of work has ended. -/
theorem Carries.ended (carries : Carries number completions exchange) :
    Ended exchange.exception.isSome { exchange with unitOfWork := none } :=
  ⟨carries.isFailed, rfl⟩

theorem leads_end_of_nothing (carries : Carries number [] exchange) :
    Leads config.queue? ledger exchange.endUnitOfWork ledger
      (Ended exchange.exception.isSome) := by
  unfold Exchange.endUnitOfWork
  rw [carries.unitOfWork]
  exact leads_pure carries.ended

theorem leads_end_of_passed
    (passed : Passed simulation config number
      [.settleKey 0 (messageId number) config.idempotent.options] exchange) :
    Leads config.queue? ledger exchange.endUnitOfWork
      (ledger.remembering (ledger.repository.settle config.idempotent.options
        (simulation.recovers config) (messageId number)))
      (Ended (simulation.leavesFailed config)) := by
  obtain ⟨carries, exception, settled⟩ := passed
  have ended := carries.ended
  rw [exception] at ended
  have flagged : exchange.flag .failureHandled = !simulation.recovers config := by
    cases recovers : simulation.recovers config with
    | true =>
        rw [Exchange.flag_eq, settled, recovers]
        rfl
    | false =>
        rw [recovers] at settled
        exact Exchange.flag_of_known settled
  let left : Exchange := { exchange with unitOfWork := none }
  have sameFlag : left.flag .failureHandled = exchange.flag .failureHandled := rfl
  have succeeds : (!left.isFailed && !left.flag .failureHandled) = simulation.recovers config := by
    rw [ended.isFailed, sameFlag, flagged, leavesFailed]
    cases simulation.recovers config <;> simp
  have settling : Leads config.queue? ledger
      ((Completion.settleKey 0 (messageId number) config.idempotent.options).carryOut left)
      (ledger.remembering (ledger.repository.settle config.idempotent.options
        (!left.isFailed && !left.flag .failureHandled) (messageId number)))
      fun _ => True := leads_settleKey left (messageId number) config.idempotent.options
  rw [succeeds] at settling
  unfold Exchange.endUnitOfWork
  rw [carries.unitOfWork]
  have carried : Leads config.queue? ledger
      (Routine.forEach [.settleKey 0 (messageId number) config.idempotent.options]
        (Completion.carryOut left))
      (ledger.remembering (ledger.repository.settle config.idempotent.options
        (simulation.recovers config) (messageId number)))
      fun _ => True :=
    settling.bind fun _ _ => leads_pure trivial
  exact carried.bind fun _ _ => leads_pure ended

/-- The route is the consumer in a unit of work. -/
theorem invoke_route (fresh : Fresh number exchange) :
    (simulation.route config policy counter).processor.invoke exchange = (do
      let after ← (simulation.consumer config policy counter).toProcessor.invoke
        exchange.enterUnitOfWork
      after.endUnitOfWork) := by
  have outside : exchange.isInUnitOfWork = false := by
    rw [Exchange.isInUnitOfWork, fresh.unbegun]
    rfl
  unfold route Processor.inUnitOfWork
  rw [Processor.invoke_silent, outside, invoke_pipeline_single _ _ (fresh.entered.flag _)]
  rfl

/-- What the metrics count at the end, and the result. -/
theorem leads_send {between : Ledger} {failed : Bool}
    (routed : Leads config.queue? ledger
      ((simulation.route config policy counter).processor.invoke exchange) between (Ended failed)) :
    Leads config.queue? ledger ((simulation.route config policy counter).send exchange)
      (between.add { exchanges := 1, failures := if failed then 1 else 0 })
      fun result => result.toBool = !failed := by
  unfold Route.send
  refine leads_readCalendar.bind fun started _ => ?_
  refine routed.bind ?_
  rintro after ⟨isFailed, exception⟩
  rw [isFailed]
  refine (leads_count (Metrics.counts_recordExchange failed)).bind fun _ _ => ?_
  refine leads_readCalendar.bind fun ended _ => ?_
  refine (leads_count (Metrics.counts_recordLatency ⟨ended - started⟩)).bind fun _ _ => ?_
  rw [Ledger.add_nothing]
  apply leads_pure
  cases failure : after.exception with
  | none =>
      rw [failure] at exception
      rw [← exception]
      rfl
  | some failure' =>
      rw [failure] at exception
      rw [← exception]
      rfl

/-- A new exchange for a message. -/
theorem leads_newExchange :
    Leads config.queue? ledger (Broker.newExchange .inOnly) ledger fun exchange =>
      exchange.context = ⟨"simulate", Converter.standard⟩ ∧ exchange.inbound.headers = .empty ∧
        exchange.inbound.isFault = false ∧ exchange.outbound = none ∧ exchange.fault = none ∧
        exchange.unitOfWork = none ∧ exchange.exception = none ∧ exchange.properties = {} := by
  unfold Broker.newExchange
  have looked : Leads config.queue? ledger (Routine.look Broker.context) ledger
      (· = ⟨"simulate", Converter.standard⟩) := leads_look fun _ shows => shows.context
  refine looked.bind ?_
  rintro context rfl
  refine leads_freshNumber.bind fun _ _ => ?_
  have freshId : Leads config.queue? ledger Broker.freshId ledger fun _ => True :=
    leads_freshNumber.bind fun _ _ => leads_pure trivial
  refine freshId.bind fun _ _ => ?_
  refine leads_readCalendar.bind fun _ _ => ?_
  exact leads_pure ⟨rfl, rfl, rfl, rfl, rfl, rfl, rfl, rfl⟩

theorem leads_sendMessage {between : Ledger} {failed : Bool}
    (routed : ∀ exchange, Fresh number exchange → Leads config.queue? ledger
      ((simulation.route config policy counter).processor.invoke exchange) between (Ended failed)) :
    Leads config.queue? ledger (sendMessage (simulation.route config policy counter) number)
      (between.add { exchanges := 1, failures := if failed then 1 else 0 })
      fun result => result.toBool = !failed := by
  unfold sendMessage
  refine leads_newExchange.bind ?_
  rintro exchange ⟨context, bare, sound, outbound, fault, unbegun, unfailed, unmarked⟩
  refine leads_send (routed _
    ⟨context, ?_, rfl, sound, outbound, fault, unbegun, unfailed, unmarked⟩)
  change (exchange.inbound.headers.insert "messageId" (.text (messageId number))).2 = _
  rw [bare, headers]

/-- A message whose key is known is a duplicate. -/
theorem leads_sendMessage_of_known (skip : config.idempotent.options.skipDuplicate = true)
    (known : ledger.repository.contains (messageId number) = true) :
    Leads config.queue? ledger (sendMessage (simulation.route config policy counter) number)
      (ledger.add { exchanges := 1, duplicates := 1 }) fun result => result.toBool = true := by
  have total : (ledger.add { duplicates := 1 }).add
      { exchanges := 1, failures := if false then 1 else 0 } =
        ledger.add { exchanges := 1, duplicates := 1 } := by
    simp [Ledger.add_add, Counters.plus]
  rw [← total]
  refine leads_sendMessage fun exchange fresh => ?_
  rw [invoke_route fresh]
  refine (leads_consumer_of_known skip known fresh.entered).bind ?_
  rintro after ⟨carries, unfailed⟩
  have ended : Leads config.queue? (ledger.add { duplicates := 1 }) after.endUnitOfWork
      (ledger.add { duplicates := 1 }) (Ended after.exception.isSome) :=
    leads_end_of_nothing carries
  rw [unfailed] at ended
  exact ended

/-- A message whose key is new passes through the handler. -/
theorem leads_sendMessage_of_new (applies : Applies config policy)
    (small : simulation.failures ≤ ErrorHandler.maximumCount)
    (isNew : ledger.repository.contains (messageId number) = false) :
    Leads config.queue? ledger (sendMessage (simulation.route config policy counter) number)
      ((ledger.remembering
          (simulation.admitted config ledger.repository (messageId number))).add
        (simulation.passing config) (simulation.losses config number))
      fun result => result.toBool = !simulation.leavesFailed config := by
  let between : Ledger :=
    (ledger.remembering
        (simulation.admitted config ledger.repository (messageId number))).add
      (simulation.handling config (simulation.redeliveries config))
      (simulation.losses config number)
  have total : between.add
      { exchanges := 1, failures := if simulation.leavesFailed config then 1 else 0 } =
        (ledger.remembering
          (simulation.admitted config ledger.repository (messageId number))).add
          (simulation.passing config) (simulation.losses config number) := by
    simp [between, Ledger.add_add, passing]
  rw [← total]
  refine leads_sendMessage fun exchange fresh => ?_
  rw [invoke_route fresh]
  refine (leads_consumer_of_new applies small isNew fresh.entered).bind ?_
  intro after passed
  exact leads_end_of_passed passed

end Simulation

end MessageRouting
