import MessageRouting.Proofs.Idempotent.Retention
import MessageRouting.Proofs.Route.Consult
import MessageRouting.Proofs.UnitOfWork.Firing

/-!
# How a key is settled

A key that is new to a repository is claimed in it before the processing or added behind
it, and taken back or not after a failure. What the completions of a unit of work do to a
repository is to settle the keys that are due in it, in order.
-/

namespace MessageRouting

/-! ## Keys that are due -/

def Completion.settlement? (repository : Nat) : Completion → Option (String × IdempotentOptions)
  | settleKey used key options => if used = repository then some (key, options) else none
  | _ => none

namespace Exchange

def settlements (repository : Nat) (exchange : Exchange) : List (String × IdempotentOptions) :=
  exchange.pending.filterMap (Completion.settlement? repository)

/-- The exchange counts as a success where a key is settled. -/
def succeeded (exchange : Exchange) : Bool :=
  !exchange.isFailed && !exchange.flag .failureHandled

variable {repository : Nat} {exchange other : Exchange}

theorem settlements_congr (same : other.unitOfWork = exchange.unitOfWork) :
    other.settlements repository = exchange.settlements repository :=
  congrArg (List.filterMap _) (pending_congr same)

theorem settlements_enterUnitOfWork :
    exchange.enterUnitOfWork.settlements repository = exchange.settlements repository :=
  congrArg (List.filterMap _) exchange.pending_enterUnitOfWork

theorem settlements_addCompletion (key : String) (options : IdempotentOptions) :
    (exchange.addCompletion (.settleKey repository key options)).settlements repository =
      exchange.settlements repository ++ [(key, options)] := by
  unfold settlements
  rw [pending_addCompletion, List.filterMap_append]
  exact congrArg (_ ++ ·) (List.filterMap_cons_some (if_pos rfl))

end Exchange

namespace KeyRepository

variable {repository : KeyRepository} {key : String}

/-- Settles keys in order. -/
def settleAll (succeeded : Bool) (due : List (String × IdempotentOptions))
    (repository : KeyRepository) : KeyRepository :=
  due.foldl (fun held owed => held.settle owed.2 succeeded owed.1) repository

theorem settleAll_append (succeeded : Bool) (first second : List (String × IdempotentOptions)) :
    repository.settleAll succeeded (first ++ second) =
      (repository.settleAll succeeded first).settleAll succeeded second :=
  List.foldl_append

theorem not_mem_of_contains (absent : repository.contains key = false) : key ∉ repository.keys := by
  intro member
  rw [contains_iff_mem.mpr member] at absent
  contradiction

theorem remove_of_not_mem (absent : key ∉ repository.keys) :
    repository.remove key = (false, repository) :=
  if_neg (mt contains_iff_mem.mp absent)

/-- A key that is taken back leaves the others as its addition left them. -/
theorem remove_add (absent : key ∉ repository.keys) :
    ((repository.add key).2.remove key).2 = { repository with keys := repository.kept } := by
  have apart : key ∉ repository.kept := mt repository.kept_sublist.mem absent
  have others : (repository.kept ++ [key]).filter (· != key) = repository.kept := by
    rw [List.filter_append, List.filter_eq_self.mpr]
    · simp
    · intro other member
      exact bne_iff_ne.mpr (ne_of_mem_of_not_mem member apart)
  have held : ({ repository with keys := repository.kept ++ [key] } : KeyRepository).contains key =
      true := contains_iff_mem.mpr (List.mem_append_right _ (List.mem_singleton_self key))
  rw [add_of_not_mem absent, remove, if_pos held]
  exact congrArg (fun keys => { repository with keys := keys }) others

end KeyRepository

namespace IdempotentConsumer

variable {consumer : IdempotentConsumer} {key : String} {held : KeyRepository}

/-- The key of an exchange whose processing ended is remembered. -/
def remembers (consumer : IdempotentConsumer) (succeeded : Bool) : Bool :=
  succeeded || consumer.options.eager && !consumer.options.removeOnFailure

theorem remembers_eq_true {exchange : Exchange} :
    consumer.remembers exchange.succeeded = true ↔
      exchange.isFailed = false ∧ exchange.flag .failureHandled = false ∨
        consumer.options.eager = true ∧ consumer.options.removeOnFailure = false := by
  unfold remembers Exchange.succeeded
  simp

/-- The oldest key makes room for a key that is added before or after the processing; the key stays
if it is remembered. -/
theorem settle_claim (absent : held.contains key = false) (succeeded : Bool) :
    (consumer.claim key held).2.settle consumer.options succeeded key =
      { held with
        keys := (if consumer.options.eager || succeeded then held.kept else held.keys) ++
          if consumer.remembers succeeded then [key] else [] } := by
  have outside := KeyRepository.not_mem_of_contains absent
  unfold claim remembers KeyRepository.settle KeyRepository.confirm
  cases consumer.options.eager with
  | true =>
      cases succeeded with
      | true => exact congrArg Prod.snd (KeyRepository.add_of_not_mem outside)
      | false =>
          cases consumer.options.removeOnFailure with
          | true => simpa using KeyRepository.remove_add outside
          | false => exact congrArg Prod.snd (KeyRepository.add_of_not_mem outside)
  | false =>
      cases succeeded with
      | true => exact congrArg Prod.snd (KeyRepository.add_of_not_mem outside)
      | false =>
          cases consumer.options.removeOnFailure with
          | true => simpa using congrArg Prod.snd (KeyRepository.remove_of_not_mem outside)
          | false => simp

theorem contains_settle_claim (absent : held.contains key = false) (succeeded : Bool) :
    ((consumer.claim key held).2.settle consumer.options succeeded key).contains key =
      consumer.remembers succeeded := by
  have outside := KeyRepository.not_mem_of_contains absent
  have apart : key ∉ if consumer.options.eager || succeeded then held.kept else held.keys := by
    split
    · exact mt held.kept_sublist.mem outside
    · exact outside
  rw [settle_claim absent, Bool.eq_iff_iff, KeyRepository.contains_iff_mem, List.mem_append,
    or_iff_right apart]
  cases consumer.remembers succeeded <;> simp

theorem claim_of_known (known : held.contains key = true) : (consumer.claim key held).2 = held := by
  unfold claim
  split
  · rw [KeyRepository.add_of_contains known]
  · rfl

/-! ## What a consumer finds and changes -/

def Holds (consumer : IdempotentConsumer) (held : KeyRepository) (seen : Nat) (broker : Broker) :
    Prop :=
  broker.repositories.get? consumer.repository = some held ∧
    broker.duplicates.get? consumer.duplicates = some seen

variable {seen : Nat} {exchange : Exchange}

theorem ensures_accept (consumer : IdempotentConsumer) (key : String) :
    (consumer.accept key).Ensures (consumer.Holds held seen) fun isNew broker =>
      isNew = !held.contains key ∧ consumer.Holds (consumer.claim key held).2 seen broker := by
  refine Routine.ensures_change fun broker found => ?_
  obtain ⟨repository, count⟩ := found
  simp only [repository]
  refine ⟨consumer.fst_claim key held, ?_, count⟩
  rw [Register.get?_modify, if_pos rfl, repository]
  rfl

theorem ensures_count (consumer : IdempotentConsumer) (metrics : Option Nat)
    (tally : Metrics → Metrics) :
    (Broker.count metrics tally).Ensures (consumer.Holds held seen) fun _ =>
      consumer.Holds held seen := by
  cases metrics with
  | none => exact Routine.ensures_pure fun _ found => found
  | some handle => exact Routine.ensures_modify fun _ found => found

theorem ensures_carryOut (consumer : IdempotentConsumer) (exchange : Exchange)
    (completion : Completion) :
    (completion.carryOut exchange).Ensures (consumer.Holds held seen) fun _ =>
      consumer.Holds (held.settleAll exchange.succeeded
        (completion.settlement? consumer.repository).toList) seen := by
  cases completion with
  | note =>
      rw [Completion.carryOut_note]
      exact Routine.ensures_modify fun _ found => found
  | record =>
      rw [Completion.carryOut_record]
      exact Routine.ensures_modify fun _ found => found
  | releaseItem =>
      rw [Completion.carryOut_releaseItem]
      exact Routine.ensures_modify fun _ found => found
  | settleKey used key options =>
      rw [Completion.carryOut_settleKey]
      refine Routine.ensures_modify fun broker found => ⟨?_, found.2⟩
      rw [Register.get?_modify, Completion.settlement?]
      by_cases same : used = consumer.repository
      · obtain rfl := same
        rw [if_pos rfl, if_pos rfl, found.1]
        rfl
      · rw [if_neg same, if_neg same, found.1]
        rfl

theorem ensures_forEach (consumer : IdempotentConsumer) (exchange : Exchange)
    (completions : List Completion) :
    (Routine.forEach completions (Completion.carryOut exchange)).Ensures (consumer.Holds held seen)
      fun _ => consumer.Holds (held.settleAll exchange.succeeded
        (completions.filterMap (Completion.settlement? consumer.repository))) seen := by
  induction completions generalizing held with
  | nil => exact Routine.ensures_pure fun _ found => found
  | cons completion rest inductionHypothesis =>
      have settled : held.settleAll exchange.succeeded
          ((completion :: rest).filterMap (Completion.settlement? consumer.repository)) =
          (held.settleAll exchange.succeeded
            (completion.settlement? consumer.repository).toList).settleAll exchange.succeeded
              (rest.filterMap (Completion.settlement? consumer.repository)) := by
        rw [← KeyRepository.settleAll_append, List.filterMap_cons]
        cases completion.settlement? consumer.repository <;> rfl
      rw [settled]
      exact (consumer.ensures_carryOut exchange completion).bind fun _ => inductionHypothesis

/-- The end of a unit of work settles the keys that are due. -/
theorem ensures_endUnitOfWork (consumer : IdempotentConsumer) (exchange : Exchange) :
    exchange.endUnitOfWork.Ensures (consumer.Holds held seen) fun after broker =>
      after = exchange.bare ∧
        consumer.Holds (held.settleAll exchange.succeeded
          (exchange.settlements consumer.repository)) seen broker := by
  unfold Exchange.endUnitOfWork Exchange.settlements Exchange.pending
  cases begun : exchange.unitOfWork with
  | none =>
      have bare : exchange = exchange.bare := by
        unfold Exchange.bare
        rw [← begun]
      exact Routine.ensures_pure fun _ found => ⟨bare, found⟩
  | some unit =>
      have settled : (Routine.forEach unit.completions (Completion.carryOut exchange.bare)).Ensures
          (consumer.Holds held seen) _ := consumer.ensures_forEach exchange.bare unit.completions
      exact settled.bind fun _ => Routine.ensures_pure fun _ found => ⟨rfl, found⟩

end IdempotentConsumer

end MessageRouting
