import MessageRouting.Proofs.Simulation.Sending
import MessageRouting.Proofs.Text.Numeral

/-!
# Message after message

The same message is sent several times in a row. Its key is remembered from the first
to the last time, or not at all; in the first case the message is a duplicate from the
second time on, in the other it passes through the error handler each time.
-/

namespace MessageRouting

namespace Simulation

/-- The key of a message that has passed is in the repository. -/
def remembers (simulation : Simulation) (config : RoutingConfig) : Bool :=
  simulation.recovers config ||
    (config.idempotent.options.eager && !config.idempotent.options.removeOnFailure)

def ledgerOf (simulation : Simulation) (config : RoutingConfig) (passed : List Nat)
    (duplicates : Nat) (repository : KeyRepository) : Ledger where
  counters :=
    { exchanges := passed.length + duplicates
      failures := if simulation.leavesFailed config then passed.length else 0
      redeliveries := passed.length * simulation.redeliveries config
      exhausted := if simulation.recovers config then 0 else passed.length
      deadLettered :=
        if !simulation.recovers config && config.losesToQueue then passed.length else 0
      handled := if !simulation.recovers config && config.handles then passed.length else 0
      duplicates := duplicates }
  repository := repository
  lost := passed.flatMap (simulation.losses config)

variable {simulation : Simulation} {config : RoutingConfig} {policy : RedeliveryPolicy}
  {numbers : List Nat} {number counter count sent : Nat} {repository : KeyRepository}
  {ledger after : Ledger} {progress : SimulationSummary × Broker}

theorem ledgerOf_known :
    (simulation.ledgerOf config numbers count repository).add { exchanges := 1, duplicates := 1 } =
      simulation.ledgerOf config numbers (count + 1) repository := by
  simp [ledgerOf, Ledger.add, Counters.plus, Nat.add_assoc]

theorem ledgerOf_new (changed : KeyRepository) :
    ((simulation.ledgerOf config numbers count repository).remembering changed).add
        (simulation.passing config) (simulation.losses config number) =
      simulation.ledgerOf config (numbers ++ [number]) count changed := by
  have more : numbers.length * simulation.redeliveries config + simulation.redeliveries config =
      (numbers.length + 1) * simulation.redeliveries config := (Nat.succ_mul ..).symm
  have exchanges : numbers.length + count + 1 = numbers.length + 1 + count := by omega
  cases recovers : simulation.recovers config <;> cases handles : config.handles <;>
    cases loses : config.losesToQueue <;>
    simp [ledgerOf, Ledger.remembering, Ledger.add, Counters.plus, passing, handling, exhaustion, leavesFailed,
      recovers, handles, loses, more, exchanges]

/-! ## Messages one after the other -/

/-- What stands after some messages were sent. -/
structure Stands (simulation : Simulation) (config : RoutingConfig) (sent : Nat)
    (numbers : List Nat) (duplicates : Nat) (repository : KeyRepository)
    (progress : SimulationSummary × Broker) : Prop where
  shows : (simulation.ledgerOf config numbers duplicates repository).Shows config.queue? progress.2
  sent : progress.1.sent = sent
  completed : progress.1.completed =
    duplicates + if simulation.leavesFailed config then 0 else numbers.length
  failed : progress.1.failed = if simulation.leavesFailed config then numbers.length else 0

/-- A message is counted by what became of it. -/
theorem sendCounted_of_leads {route : Route} {succeeds : Bool}
    (leads : Leads config.queue? ledger (sendMessage route number) after
      fun result => result.toBool = succeeds)
    (shows : ledger.Shows config.queue? progress.2) :
    after.Shows config.queue? (sendCounted route progress number).2 ∧
      (sendCounted route progress number).1 =
        if succeeds then { progress.1 with completed := progress.1.completed + 1 }
        else { progress.1 with failed := progress.1.failed + 1 } := by
  obtain ⟨told, showsAfter⟩ := leads progress.2 shows
  unfold sendCounted
  cases result : ((sendMessage route number).run progress.2).1 with
  | ok exchange =>
      rw [result] at told
      obtain rfl : succeeds = true := told.symm
      simp only [result]
      exact ⟨showsAfter, rfl⟩
  | error failure =>
      rw [result] at told
      obtain rfl : succeeds = false := told.symm
      simp only [result]
      exact ⟨showsAfter, rfl⟩

theorem Stands.known (policy : RedeliveryPolicy) (counter : Nat)
    (skip : config.idempotent.options.skipDuplicate = true)
    (stands : Stands simulation config sent numbers count repository progress)
    (known : repository.contains (messageId number) = true) :
    Stands simulation config sent numbers (count + 1) repository
      (sendCounted (simulation.route config policy counter) progress number) := by
  obtain ⟨shows, same, completed, failed⟩ := stands
  have leads : Leads config.queue? (simulation.ledgerOf config numbers count repository)
      (sendMessage (simulation.route config policy counter) number)
      ((simulation.ledgerOf config numbers count repository).add
        { exchanges := 1, duplicates := 1 }) fun result => result.toBool = true :=
    leads_sendMessage_of_known skip known
  rw [ledgerOf_known] at leads
  obtain ⟨showsAfter, counted⟩ := sendCounted_of_leads leads shows
  refine ⟨showsAfter, ?_, ?_, ?_⟩
  · rw [counted]
    exact same
  · rw [counted]
    exact (congrArg (· + 1) completed).trans (by omega)
  · rw [counted]
    exact failed

theorem Stands.new (counter : Nat) (applies : Applies config policy)
    (small : simulation.failures ≤ ErrorHandler.maximumCount)
    (stands : Stands simulation config sent numbers count repository progress)
    (isNew : repository.contains (messageId number) = false) :
    Stands simulation config sent (numbers ++ [number]) count
      (simulation.admitted config repository (messageId number))
      (sendCounted (simulation.route config policy counter) progress number) := by
  obtain ⟨shows, same, completed, failed⟩ := stands
  have leads : Leads config.queue? (simulation.ledgerOf config numbers count repository)
      (sendMessage (simulation.route config policy counter) number)
      (((simulation.ledgerOf config numbers count repository).remembering
          (simulation.admitted config repository (messageId number))).add
        (simulation.passing config) (simulation.losses config number))
      fun result => result.toBool = !simulation.leavesFailed config :=
    leads_sendMessage_of_new applies small isNew
  rw [ledgerOf_new] at leads
  obtain ⟨showsAfter, counted⟩ := sendCounted_of_leads leads shows
  refine ⟨showsAfter, ?_, ?_, ?_⟩
  · rw [counted]
    cases simulation.leavesFailed config <;> exact same
  · rw [counted]
    cases leaves : simulation.leavesFailed config <;> simp_all [Nat.add_assoc]
  · rw [counted]
    cases leaves : simulation.leavesFailed config <;> simp_all

/-! ## All repetitions of a message -/

theorem Stands.replicate_known (policy : RedeliveryPolicy) (counter : Nat)
    (skip : config.idempotent.options.skipDuplicate = true)
    (stands : Stands simulation config sent numbers count repository progress)
    (known : repository.contains (messageId number) = true) (times : Nat) :
    Stands simulation config sent numbers (count + times) repository
      ((List.replicate times number).foldl
        (sendCounted (simulation.route config policy counter)) progress) := by
  induction times generalizing count progress with
  | zero => exact stands
  | succ times inductionHypothesis =>
      have later := inductionHypothesis (stands.known policy counter skip known)
      rw [Nat.add_assoc, Nat.add_comm 1 times] at later
      rw [List.replicate_succ, List.foldl_cons]
      exact later

theorem contains_of_keys_eq_nil {repository : KeyRepository} (none : repository.keys = [])
    (key : String) : repository.contains key = false := by
  rw [KeyRepository.contains, none]
  rfl

/-- A key that is remembered is in the repository after its message has passed. -/
theorem admitted_of_remembers (remembers : simulation.remembers config = true)
    (repository : KeyRepository) (key : String) :
    simulation.admitted config repository key = (repository.add key).2 := by
  unfold admitted asked KeyRepository.settle KeyRepository.confirm
  unfold Simulation.remembers at remembers
  cases recovers : simulation.recovers config <;>
    cases eager : config.idempotent.options.eager <;>
    cases removes : config.idempotent.options.removeOnFailure <;> simp_all

/-- A key that is not remembered leaves no trace. -/
theorem admitted_of_forgets (forgets : simulation.remembers config = false)
    (none : repository.keys = []) (key : String) :
    (simulation.admitted config repository key).keys = [] := by
  have recovers : simulation.recovers config = false := by
    unfold Simulation.remembers at forgets
    exact (Bool.or_eq_false_iff.mp forgets).1
  unfold admitted asked KeyRepository.settle
  rw [recovers]
  cases eager : config.idempotent.options.eager with
  | true =>
      have removes : config.idempotent.options.removeOnFailure = true := by
        simpa [Simulation.remembers, recovers, eager] using forgets
      simp [removes, KeyRepository.add, KeyRepository.remove, KeyRepository.contains, none]
  | false =>
      cases config.idempotent.options.removeOnFailure with
      | true => simp [KeyRepository.remove, KeyRepository.contains, none]
      | false => simpa using none

theorem Stands.replicate_forgotten (counter : Nat) (applies : Applies config policy)
    (small : simulation.failures ≤ ErrorHandler.maximumCount)
    (forgets : simulation.remembers config = false)
    (stands : Stands simulation config sent numbers count repository progress)
    (none : repository.keys = []) (number times : Nat) :
    ∃ later : KeyRepository, later.keys = [] ∧
      Stands simulation config sent (numbers ++ List.replicate times number) count later
        ((List.replicate times number).foldl
          (sendCounted (simulation.route config policy counter)) progress) := by
  induction times generalizing numbers repository progress with
  | zero =>
      refine ⟨repository, none, ?_⟩
      rw [List.replicate_zero, List.append_nil]
      exact stands
  | succ times inductionHypothesis =>
      have isNew := contains_of_keys_eq_nil none (messageId number)
      have once := stands.new counter applies small isNew
      obtain ⟨later, still, standsLater⟩ := inductionHypothesis once
        (admitted_of_forgets forgets none _)
      refine ⟨later, still, ?_⟩
      rw [List.append_assoc] at standsLater
      rw [List.replicate_succ, List.foldl_cons]
      exact standsLater

theorem messageId_injective {first second : Nat} (same : messageId first = messageId second) :
    first = second := by
  apply Text.showNat_injective
  have digits := congrArg String.toList same
  rw [messageId, messageId, String.toList_append, String.toList_append] at digits
  exact String.toList_injective (List.append_cancel_left digits)

/-! ## All messages -/

/-- The numbers of the first messages, each as often as it is sent. -/
def numbersBelow (simulation : Simulation) (count : Nat) : List Nat :=
  (List.range count).flatMap fun number => List.replicate simulation.repetitions number

theorem numbersBelow_succ (simulation : Simulation) (count : Nat) :
    simulation.numbersBelow (count + 1) =
      simulation.numbersBelow count ++ List.replicate simulation.repetitions count := by
  simp [numbersBelow, List.range_succ]

/-- Messages whose keys are remembered pass once, and are duplicates then. -/
theorem stands_of_remembers (counter : Nat) (applies : Applies config policy)
    (small : simulation.failures ≤ ErrorHandler.maximumCount)
    (skip : config.idempotent.options.skipDuplicate = true)
    (repeated : 1 ≤ simulation.repetitions)
    (remembers : simulation.remembers config = true)
    (stands : Stands simulation config sent [] 0 repository progress)
    (none : repository.keys = []) (messages : Nat) :
    ∃ later : KeyRepository,
      (∀ key, later.contains key = true → ∃ number < messages, key = messageId number) ∧
        Stands simulation config sent (List.range messages)
          (messages * (simulation.repetitions - 1)) later
          ((simulation.numbersBelow messages).foldl
            (sendCounted (simulation.route config policy counter)) progress) := by
  -- Keys may be evicted on the way. That does no harm, as no later message has one of them, and the
  -- key of the message that is being repeated is the last one that was added.
  induction messages with
  | zero =>
      refine ⟨repository, ?_, ?_⟩
      · intro key known
        rw [contains_of_keys_eq_nil none] at known
        contradiction
      · rw [Nat.zero_mul]
        exact stands
  | succ messages inductionHypothesis =>
      obtain ⟨later, earlierKeys, standsLater⟩ := inductionHypothesis
      have isNew : later.contains (messageId messages) = false := by
        cases known : later.contains (messageId messages) with
        | false => rfl
        | true =>
            obtain ⟨number, earlier, same⟩ := earlierKeys _ known
            have := messageId_injective same
            omega
      have once := standsLater.new counter applies small isNew
      rw [admitted_of_remembers remembers] at once
      have again := once.replicate_known policy counter skip
        (later.contains_add_self (messageId messages)) (simulation.repetitions - 1)
      refine ⟨(later.add (messageId messages)).2, ?_, ?_⟩
      · intro key known
        by_cases same : messageId messages = key
        · exact ⟨messages, Nat.lt_succ_self messages, same.symm⟩
        · obtain ⟨number, earlier, found⟩ :=
            earlierKeys key (KeyRepository.contains_of_contains_add same known)
          exact ⟨number, Nat.lt_succ_of_lt earlier, found⟩
      · obtain ⟨times, count⟩ : ∃ times, simulation.repetitions = times + 1 :=
          ⟨simulation.repetitions - 1, by omega⟩
        rw [count, Nat.add_sub_cancel] at again ⊢
        rw [numbersBelow_succ, List.foldl_append, List.range_succ, count, Nat.succ_mul,
          List.replicate_succ, List.foldl_cons]
        exact again

/-- Messages whose keys are not remembered pass each time. -/
theorem stands_of_forgets (counter : Nat) (applies : Applies config policy)
    (small : simulation.failures ≤ ErrorHandler.maximumCount)
    (forgets : simulation.remembers config = false)
    (stands : Stands simulation config sent [] 0 repository progress)
    (none : repository.keys = []) (messages : Nat) :
    ∃ later : KeyRepository, later.keys = [] ∧
      Stands simulation config sent (simulation.numbersBelow messages) 0 later
        ((simulation.numbersBelow messages).foldl
          (sendCounted (simulation.route config policy counter)) progress) := by
  induction messages with
  | zero => exact ⟨repository, none, stands⟩
  | succ messages inductionHypothesis =>
      obtain ⟨later, none, standsLater⟩ := inductionHypothesis
      rw [numbersBelow_succ, List.foldl_append]
      exact standsLater.replicate_forgotten counter applies small forgets none messages
        simulation.repetitions

end Simulation

end MessageRouting
