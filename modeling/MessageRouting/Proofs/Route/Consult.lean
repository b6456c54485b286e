import MessageRouting.Proofs.Idempotent.Admission
import MessageRouting.Proofs.Route.Veil

/-!
# What a consumer finds

An exchange arrives in front of a consumer that holds back duplicates. What the consumer
decides about it is determined by its key and the repository in which the key is looked
up, and everything that it changes beside the exchange can be hidden from the steps.
-/

namespace MessageRouting

/-- An exchange in front of a consumer that holds back duplicates, without its unit of work, with
its key and the repository in which that was looked up. -/
structure Arrival where
  exchange : Exchange
  key : Option String
  held : Option KeyRepository

def Arrival.Finds (arrival : Arrival) (known : Bool) : Prop :=
  ∃ key held, arrival.key = some key ∧ arrival.held = some held ∧ held.contains key = known

/-! ## Consumers -/

namespace IdempotentConsumer

def claim (consumer : IdempotentConsumer) (key : String) (held : KeyRepository) :
    Bool × KeyRepository :=
  if consumer.options.eager then held.add key else (!held.contains key, held)

def inspect (consumer : IdempotentConsumer) (key : String) :
    Routine Broker (Option KeyRepository × Bool) :=
  Routine.change fun broker =>
    match broker.repositories.get? consumer.repository with
    | some held =>
        ((some held, (consumer.claim key held).1),
          { broker with repositories :=
              broker.repositories.modify consumer.repository fun held =>
                (consumer.claim key held).2 })
    | none => ((none, false), broker)

def treat (consumer : IdempotentConsumer) (key : String) (exchange : Exchange) (isNew : Bool) :
    Routine Broker Admission :=
  if isNew then
    let completion := Completion.settleKey consumer.repository key consumer.options
    if exchange.isInUnitOfWork then return .admitted (exchange.addCompletion completion) none
    else return .admitted exchange (some completion)
  else do
    Routine.modify fun broker =>
      { broker with duplicates := broker.duplicates.modify consumer.duplicates (· + 1) }
    Broker.count consumer.metrics Metrics.recordDuplicate
    let exchange := exchange.put .duplicateMessage (.bool true)
    if consumer.options.skipDuplicate then return .refused exchange none
    else return .admitted exchange none

/-- `assess`, with what the consumer finds. -/
def consult (consumer : IdempotentConsumer) (exchange : Exchange) :
    Routine Broker (Arrival × Admission) :=
  match consumer.keyOf exchange with
  | none =>
      return (⟨exchange.bare, none, none⟩, .refused exchange (some (.noMessageId exchange.id.text)))
  | some key => do
      let (held, isNew) ← consumer.inspect key
      let admission ← consumer.treat key exchange isNew
      return (⟨exchange.bare, some key, held⟩, admission)

theorem inspect_bind (consumer : IdempotentConsumer) (key : String)
    (next : Bool → Routine Broker α) :
    (consumer.inspect key >>= fun found => next found.2) = consumer.accept key >>= next := by
  unfold inspect accept Broker.withRepository
  refine congrArg Routine.get (funext fun broker => ?_)
  cases found : broker.repositories.get? consumer.repository <;> simp only [found] <;> rfl

theorem consult_bind (consumer : IdempotentConsumer) (exchange : Exchange)
    (next : Admission → Routine Broker α) :
    (consumer.consult exchange >>= fun found => next found.2) =
      consumer.assess exchange >>= next := by
  unfold consult assess
  cases consumer.keyOf exchange with
  | none => simp
  | some key =>
      have answered := inspect_bind consumer key fun isNew =>
        consumer.treat key exchange isNew >>= next
      simp only [bind_assoc, pure_bind]
      rw [answered]
      simp only [treat]

/-! ## What is hidden makes no difference -/

/-- The decisions differ in nothing but hidden completions. -/
inductive Admission.Alike (veil : Veil) : Admission → Admission → Prop
  | refused {left right : Exchange} {failure : Option Failure} :
      veil.Same left right → Alike veil (.refused left failure) (.refused right failure)
  | admitted {left right : Exchange} {due : Option Completion} :
      veil.Same left right → Alike veil (.admitted left due) (.admitted right due)

/-- The consumer uses a repository that is not hidden, keeps a count that is, and does not see what
is hidden in a key. -/
structure Blind (veil : Veil) (consumer : IdempotentConsumer) : Prop where
  elsewhere : consumer.repository ≠ veil.repository
  counts : veil.duplicates ≤ consumer.duplicates
  key : ∀ left right, veil.Same left right → consumer.key left = consumer.key right

/-- The same consumer with another count, in front of other steps. -/
def recount (consumer : IdempotentConsumer) (handle : Nat) (inner : Processor) :
    IdempotentConsumer :=
  { consumer with duplicates := handle, inner := inner }

section

variable {veil : Veil} {consumer : IdempotentConsumer} {handle : Nat} (inner : Processor)
  (blind : consumer.Blind veil) (counts : veil.duplicates ≤ handle)

include blind

theorem paired_inspect (key : String) :
    Routine.Paired veil.Apart Eq (consumer.inspect key)
      ((consumer.recount handle inner).inspect key) := by
  refine Routine.paired_change fun first second apart => ?_
  have held := apart.repositories consumer.repository blind.elsewhere
  simp only [recount, held]
  cases first.repositories.get? consumer.repository with
  | none => exact ⟨rfl, apart⟩
  | some repository =>
      exact ⟨rfl, apart.modifyRepository consumer.repository fun held =>
        (consumer.claim key held).2⟩

include counts

theorem paired_treat {left right : Exchange} (same : veil.Same left right) (key : String)
    (isNew : Bool) :
    Routine.Paired veil.Apart (Admission.Alike veil) (consumer.treat key left isNew)
      ((consumer.recount handle inner).treat key right isNew) := by
  cases isNew with
  | true =>
      change Routine.Paired _ _ (if left.isInUnitOfWork then _ else _)
        (if right.isInUnitOfWork then _ else _)
      rw [same.isInUnitOfWork]
      by_cases inside : left.isInUnitOfWork = true
      · rw [if_pos inside, if_pos inside]
        exact Routine.paired_pure (.admitted (same.addCompletion inside _))
      · rw [if_neg inside, if_neg inside]
        exact Routine.paired_pure (.admitted same)
  | false =>
      have counted : Routine.Paired veil.Apart Eq
          (Routine.modify fun broker =>
            { broker with duplicates := broker.duplicates.modify consumer.duplicates (· + 1) })
          (Routine.modify fun broker =>
            { broker with duplicates := broker.duplicates.modify handle (· + 1) }) := by
        refine Routine.paired_modify fun first second apart => ?_
        exact ((apart.modifyDuplicates blind.counts _).symm.modifyDuplicates counts _).symm
      have marked := same.put .duplicateMessage (.bool true)
      refine Routine.paired_bind counted fun _ _ _ => ?_
      refine Routine.paired_bind (Veil.paired_count _ _) fun _ _ _ => ?_
      change Routine.Paired _ _ (if consumer.options.skipDuplicate then _ else _)
        (if consumer.options.skipDuplicate then _ else _)
      by_cases skip : consumer.options.skipDuplicate = true
      · rw [if_pos skip, if_pos skip]
        exact Routine.paired_pure (.refused marked)
      · rw [if_neg skip, if_neg skip]
        exact Routine.paired_pure (.admitted marked)

theorem paired_consult {left right : Exchange} (same : veil.Same left right) :
    Routine.Paired veil.Apart
      (fun one other => one.1 = other.1 ∧ Admission.Alike veil one.2 other.2)
      (consumer.consult left) ((consumer.recount handle inner).consult right) := by
  have keyed : (consumer.recount handle inner).keyOf right = consumer.keyOf left := by
    have context : right.context = left.context := same.congr Exchange.context fun _ _ => rfl
    change (consumer.key right).bind _ = (consumer.key left).bind _
    rw [blind.key left right same, context]
  have named : right.id = left.id := same.congr Exchange.id fun _ _ => rfl
  unfold consult
  rw [keyed, named, same.bare_eq]
  cases consumer.keyOf left with
  | none => exact Routine.paired_pure ⟨rfl, .refused same⟩
  | some key =>
      refine Routine.paired_bind (paired_inspect inner blind key) ?_
      rintro ⟨held, isNew⟩ _ rfl
      refine Routine.paired_bind (paired_treat inner blind counts same key isNew) ?_
      exact fun _ _ alike => Routine.paired_pure ⟨rfl, alike⟩

end

theorem outbound_of_assess {consumer : IdempotentConsumer} {exchange marked : Exchange}
    {due : Option Completion}
    (given : (consumer.assess exchange).Gives (.admitted marked due)) :
    marked.outbound = exchange.outbound := by
  unfold assess at given
  cases found : consumer.keyOf exchange with
  | none =>
      rw [found] at given
      have impossible := Routine.gives_pure.mp given
      contradiction
  | some key =>
      rw [found] at given
      obtain ⟨isNew, _, decided⟩ := Routine.gives_bind.mp given
      cases isNew with
      | true =>
          by_cases inside : exchange.isInUnitOfWork = true
          · rw [if_pos rfl, if_pos inside] at decided
            obtain ⟨rfl, _⟩ :=
              Admission.admitted.inj (Routine.gives_pure.mp decided)
            rfl
          · rw [if_pos rfl, if_neg inside] at decided
            obtain ⟨rfl, _⟩ :=
              Admission.admitted.inj (Routine.gives_pure.mp decided)
            rfl
      | false =>
          rw [if_neg Bool.false_ne_true] at decided
          obtain ⟨_, _, counted⟩ := Routine.gives_bind.mp decided
          obtain ⟨_, _, chosen⟩ := Routine.gives_bind.mp counted
          by_cases skip : consumer.options.skipDuplicate = true
          · rw [if_pos skip] at chosen
            have impossible := Routine.gives_pure.mp chosen
            contradiction
          · rw [if_neg skip] at chosen
            obtain ⟨rfl, _⟩ :=
              Admission.admitted.inj (Routine.gives_pure.mp chosen)
            rfl

theorem outbound_of_consult {consumer : IdempotentConsumer} {exchange marked : Exchange}
    {due : Option Completion} {arrival : Arrival} {broker between : Broker} {slept : Duration}
    (ran : (consumer.consult exchange).run broker =
      ((arrival, .admitted marked due), between, slept)) :
    marked.outbound = exchange.outbound := by
  have given : (consumer.consult exchange).Gives (arrival, .admitted marked due) := by
    have found := Routine.gives_run (consumer.consult exchange) broker
    rw [ran] at found
    exact found
  have decided : (consumer.assess exchange >>= pure).Gives (.admitted marked due) := by
    rw [← consult_bind]
    exact Routine.gives_bind.mpr ⟨_, given, Routine.gives_pure.mpr rfl⟩
  rw [bind_pure] at decided
  exact outbound_of_assess decided

/-! ## A consumer whose own repository is hidden -/

section

variable {consumer : IdempotentConsumer} {exchange other : Exchange} {key : String}
  {broker between state : Broker} {arrival : Arrival} {admission : Admission} {slept : Duration}

theorem fst_claim (consumer : IdempotentConsumer) (key : String) (held : KeyRepository) :
    (consumer.claim key held).1 = !held.contains key := by
  unfold claim KeyRepository.add
  cases held.contains key <;> cases consumer.options.eager <;> rfl

theorem run_consult (keyed : consumer.keyOf exchange = some key) (broker : Broker) :
    ((consumer.consult exchange).run broker).1 =
        (⟨exchange.bare, some key, ((consumer.inspect key).run broker).1.1⟩,
          ((consumer.treat key exchange ((consumer.inspect key).run broker).1.2).run
            ((consumer.inspect key).run broker).2.1).1) ∧
      ((consumer.consult exchange).run broker).2.1 =
        ((consumer.treat key exchange ((consumer.inspect key).run broker).1.2).run
          ((consumer.inspect key).run broker).2.1).2.1 := by
  have asked := Routine.run_bind (consumer.inspect key) (fun found => do
    let admission ← consumer.treat key exchange found.2
    return ((⟨exchange.bare, some key, found.1⟩ : Arrival), admission)) broker
  have chosen := Routine.run_bind_done
    (consumer.treat key exchange ((consumer.inspect key).run broker).1.2)
    (fun admission => ((⟨exchange.bare, some key, ((consumer.inspect key).run broker).1.1⟩ :
      Arrival), admission)) ((consumer.inspect key).run broker).2.1
  have whole : consumer.consult exchange = (consumer.inspect key).bind fun found => do
      let admission ← consumer.treat key exchange found.2
      return (⟨exchange.bare, some key, found.1⟩, admission) := by
    unfold consult
    rw [keyed]
    rfl
  rw [whole, asked.1, asked.2]
  exact ⟨congrArg Prod.fst chosen, congrArg (fun ended => ended.2.1) chosen⟩

/-- The repository is looked up as it is, and nothing else is changed. -/
theorem run_inspect (consumer : IdempotentConsumer) (key : String) (broker : Broker) :
    ((consumer.inspect key).run broker).1.1 = broker.repositories.get? consumer.repository ∧
      (∀ held, broker.repositories.get? consumer.repository = some held →
        ((consumer.inspect key).run broker).1.2 = !held.contains key) ∧
      ∀ (veil : Veil) (state : Broker), veil.repository = consumer.repository →
        veil.Apart broker state → veil.Apart ((consumer.inspect key).run broker).2.1 state := by
  unfold inspect Routine.change
  simp only [Routine.run]
  cases broker.repositories.get? consumer.repository with
  | none =>
      refine ⟨rfl, ?_, fun _ _ _ apart => apart⟩
      intro held impossible
      contradiction
  | some repository =>
      refine ⟨rfl, ?_, ?_⟩
      · intro held same
        obtain rfl := Option.some.inj same
        exact consumer.fst_claim key repository
      · intro veil state hidden apart
        rw [← hidden]
        exact apart.modifyHidden _

/-- What an exchange with a key finds, and what becomes of it. -/
theorem found_of_consult {known : Bool}
    (ran : (consumer.consult exchange).run broker = ((arrival, admission), between, slept))
    (finds : arrival.Finds known) :
    ∃ key claimed,
      (∀ (veil : Veil) (state : Broker), veil.repository = consumer.repository →
        veil.Apart broker state → veil.Apart claimed state) ∧
      admission = ((consumer.treat key exchange (!known)).run claimed).1 ∧
      between = ((consumer.treat key exchange (!known)).run claimed).2.1 := by
  obtain ⟨sought, held, asked, looked, contained⟩ := finds
  have found := congrArg Prod.fst ran
  have left := congrArg (fun ended => ended.2.1) ran
  cases keyed : consumer.keyOf exchange with
  | none =>
      have unkeyed : consumer.consult exchange = pure
          (⟨exchange.bare, none, none⟩,
            .refused exchange (some (.noMessageId exchange.id.text))) := by
        unfold consult
        rw [keyed]
      rw [unkeyed] at found
      obtain ⟨rfl, _⟩ := Prod.mk.inj found
      contradiction
  | some key =>
      obtain ⟨value, after⟩ := run_consult keyed broker
      obtain ⟨repository, answered, hidden⟩ := run_inspect consumer key broker
      obtain ⟨rfl, rfl⟩ := Prod.mk.inj (value.symm.trans found)
      obtain rfl := Option.some.inj asked
      have new : ((consumer.inspect key).run broker).1.2 = !known := by
        rw [← contained]
        exact answered held (repository.symm.trans looked)
      refine ⟨key, ((consumer.inspect key).run broker).2.1, hidden, ?_, ?_⟩
      · rw [new]
      · rw [← new]
        exact left.symm.trans after

/-- An exchange whose key is new is admitted, and only what is hidden is changed. -/
theorem admitted_of_new {veil : Veil} (hidden : veil.repository = consumer.repository)
    (ran : (consumer.consult exchange).run broker = ((arrival, admission), between, slept))
    (isNew : arrival.Finds false) (same : veil.Same exchange other)
    (apart : veil.Apart broker state) :
    ∃ marked due, admission = .admitted marked due ∧ veil.Same marked other ∧
      veil.Apart between state := by
  obtain ⟨key, claimed, hides, rfl, rfl⟩ := found_of_consult ran isNew
  have still := hides veil state hidden apart
  by_cases inside : exchange.isInUnitOfWork = true
  · have admitted : consumer.treat key exchange (!false) = pure (.admitted
        (exchange.addCompletion (.settleKey consumer.repository key consumer.options)) none) :=
      if_pos inside
    rw [admitted]
    have covered : veil.hides (.settleKey consumer.repository key consumer.options) = true :=
      beq_iff_eq.mpr hidden.symm
    exact ⟨_, _, rfl, same.addHidden inside covered, still⟩
  · have admitted : consumer.treat key exchange (!false) = pure (.admitted exchange
        (some (.settleKey consumer.repository key consumer.options))) :=
      if_neg inside
    rw [admitted]
    exact ⟨_, _, rfl, same, still⟩

/-- An exchange whose key is known is marked, and dropped or admitted. Besides what is hidden, its
being a duplicate is counted. -/
theorem marked_of_known {veil : Veil} (hidden : veil.repository = consumer.repository)
    (counts : veil.duplicates ≤ consumer.duplicates)
    (ran : (consumer.consult exchange).run broker = ((arrival, admission), between, slept))
    (known : arrival.Finds true) (apart : veil.Apart broker state) :
    admission =
        (if consumer.options.skipDuplicate then
          .refused (exchange.put .duplicateMessage (.bool true)) none
        else .admitted (exchange.put .duplicateMessage (.bool true)) none) ∧
      veil.Apart between
        ((Broker.count consumer.metrics Metrics.recordDuplicate).run state).2.1 := by
  obtain ⟨key, claimed, hides, rfl, rfl⟩ := found_of_consult ran known
  have still := (hides veil state hidden apart).modifyDuplicates counts (· + 1)
  have counted := (Veil.paired_count consumer.metrics Metrics.recordDuplicate _ _ still).2
  have admitted : consumer.treat key exchange (!true) = (Routine.modify fun broker =>
        { broker with duplicates := broker.duplicates.modify consumer.duplicates (· + 1) }).bind
      fun _ => (Broker.count consumer.metrics Metrics.recordDuplicate).bind fun _ => .done
        (if consumer.options.skipDuplicate then
          .refused (exchange.put .duplicateMessage (.bool true)) none
        else .admitted (exchange.put .duplicateMessage (.bool true)) none) := by
    unfold treat
    cases consumer.options.skipDuplicate <;> rfl
  rw [admitted]
  have view := Routine.run_bind_done (Broker.count consumer.metrics Metrics.recordDuplicate)
    (fun _ => if consumer.options.skipDuplicate then
        Admission.refused (exchange.put .duplicateMessage (.bool true)) none
      else .admitted (exchange.put .duplicateMessage (.bool true)) none)
    { claimed with duplicates := claimed.duplicates.modify consumer.duplicates (· + 1) }
  refine ⟨congrArg Prod.fst view, ?_⟩
  have after := congrArg (fun ended => ended.2.1) view
  exact after ▸ counted

end

end IdempotentConsumer

end MessageRouting
