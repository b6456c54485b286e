import MessageRouting.Proofs.Engine.Credit
import MessageRouting.Proofs.Idempotent.Admission
import MessageRouting.Proofs.Idempotent.Repository
import MessageRouting.Proofs.UnitOfWork.Firing

/-!
# Keys, told

What idempotent consumers do with keys, told while exchanges pass through them side
by side: which exchange arrives, which one calls the steps behind a consumer, which
one is found to be a duplicate, and how a key is settled at the end. A key is released
or evicted by a request to its repository, and it is the request that tells so. The
marks are made by consumers, by ends of units of work and by steps that turn to the
repository themselves, wherever these stand in a processor; everything else that a
processor does is told without marks.
-/

namespace MessageRouting

/-- What happens to a key: an exchange arrives with it at a consumer, the steps behind are called or
a duplicate is counted, the completion of an exchange that was let through is carried out. A
repository gives a key up when it is released after a failure, removed or cleared away, and evicts
it when it is full and another one is added. -/
inductive KeyEvent where
  | arrived (consumer : IdempotentConsumer) (key : String)
  | called (consumer : IdempotentConsumer) (key : String) (isNew : Bool)
  | repeated (consumer : IdempotentConsumer) (key : String) (exchange : Exchange)
  | settled (repository : Nat) (key : String) (options : IdempotentOptions) (succeeded : Bool)
  | released (repository : Nat) (key : String)
  | evicted (repository : Nat) (key : String)

def Exchange.succeeds (exchange : Exchange) : Bool :=
  !exchange.isFailed && !exchange.flag .failureHandled

def RepositoryRequest.losses (handle : Nat) (request : RepositoryRequest)
    (repository : KeyRepository) : List KeyEvent :=
  (request.released repository).map (.released handle) ++
    (request.evicted repository).map (.evicted handle)

/-- The keys that are lost when a request is made to a repository of the broker, if one is made. -/
def Broker.losses (handle : Nat) (request? : Option RepositoryRequest) (broker : Broker) :
    List KeyEvent :=
  (broker.repositories.get? handle).elim [] fun repository =>
    request?.elim [] fun request => request.losses handle repository

namespace RepositoryRequest

def carryOut (handle : Nat) (request : RepositoryRequest) : Routine Broker RepositoryAnswer :=
  Broker.withRepository handle .done fun repository => repository.answer request

def tell (handle : Nat) (request : RepositoryRequest) : Marked KeyEvent Broker RepositoryAnswer :=
  .announcing (Broker.losses handle (some request)) (request.carryOut handle)

end RepositoryRequest

namespace Completion

/-- The keys that are lost when a completion is carried out. -/
def losses (exchange : Exchange) : Completion → Broker → List KeyEvent
  | settleKey repository key options =>
      Broker.losses repository (KeyRepository.settlement? options exchange.succeeds key)
  | _ => fun _ => []

/-- What is told when a completion is carried out. -/
def telling (exchange : Exchange) : Completion → Marked KeyEvent Broker Unit
  | settleKey repository key options =>
      Marked.note (.settled repository key options exchange.succeeds)
  | _ => pure ⟨⟩

def observeCarryOut (exchange : Exchange) (completion : Completion) :
    Marked KeyEvent Broker Unit := do
  Marked.announcing (completion.losses exchange) (completion.carryOut exchange)
  completion.telling exchange

@[simp]
theorem unmarked_observeCarryOut (exchange : Exchange) (completion : Completion) :
    (completion.observeCarryOut exchange).unmarked = completion.carryOut exchange := by
  have silent : (completion.telling exchange).unmarked = pure ⟨⟩ := by
    cases completion <;> rfl
  unfold observeCarryOut
  rw [Marked.unmarked_bind, Marked.unmarked_announcing, silent]
  exact Routine.bind_done _

end Completion

namespace Exchange

def observeAll (exchange : Exchange) : List Completion → Marked KeyEvent Broker Unit
  | [] => pure ⟨⟩
  | completion :: rest => do
      completion.observeCarryOut exchange
      exchange.observeAll rest

/-- `endUnitOfWork`, told. -/
def tellEnd (exchange : Exchange) : Marked KeyEvent Broker Exchange :=
  match exchange.unitOfWork with
  | some unit => do
      let exchange := { exchange with unitOfWork := none }
      exchange.observeAll unit.completions
      return exchange
  | none => pure exchange

theorem unmarked_observeAll (exchange : Exchange) (completions : List Completion) :
    (exchange.observeAll completions).unmarked =
      Routine.forEach completions (Completion.carryOut exchange) := by
  induction completions with
  | nil => rfl
  | cons completion rest inductionHypothesis =>
      unfold observeAll Routine.forEach
      rw [Marked.unmarked_bind, Completion.unmarked_observeCarryOut]
      congr 1
      funext _
      exact inductionHypothesis

@[simp]
theorem unmarked_tellEnd (exchange : Exchange) :
    exchange.tellEnd.unmarked = exchange.endUnitOfWork := by
  unfold tellEnd endUnitOfWork
  cases exchange.unitOfWork with
  | none => rfl
  | some unit => simp [unmarked_observeAll]

end Exchange

namespace IdempotentConsumer

def claim? (consumer : IdempotentConsumer) (key : String) : Option RepositoryRequest :=
  if consumer.options.eager then some (.add key) else none

def tellAssess (consumer : IdempotentConsumer) (exchange : Exchange) :
    Marked KeyEvent Broker Admission :=
  match consumer.keyOf exchange with
  | none => return .refused exchange (some (.noMessageId exchange.id.text))
  | some key => do
      Marked.note (.arrived consumer key)
      if ← Marked.announcing (Broker.losses consumer.repository (consumer.claim? key))
          (consumer.accept key) then
        Marked.note (.called consumer key true)
        let completion := Completion.settleKey consumer.repository key consumer.options
        if exchange.isInUnitOfWork then return .admitted (exchange.addCompletion completion) none
        else return .admitted exchange (some completion)
      else
        Marked.lift (Routine.modify fun broker =>
          { broker with duplicates := broker.duplicates.modify consumer.duplicates (· + 1) })
        Marked.lift (Broker.count consumer.metrics Metrics.recordDuplicate)
        let exchange := exchange.put .duplicateMessage (.bool true)
        Marked.note (.repeated consumer key exchange)
        if consumer.options.skipDuplicate then return .refused exchange none
        else
          Marked.note (.called consumer key false)
          return .admitted exchange none

/-- `settleDue`, told. -/
def tellDue (due : Option Completion) (exchange : Exchange) : Marked KeyEvent Broker Unit :=
  match due with
  | some completion => completion.observeCarryOut exchange
  | none => pure ⟨⟩

/-- What a consumer does, told, given how the steps behind it are told. -/
def tell (consumer : IdempotentConsumer) (inner : Exchange → Marked KeyEvent Broker Exchange)
    (exchange : Exchange) : Marked KeyEvent Broker (Exchange × Option Failure) := do
  match ← consumer.tellAssess exchange with
  | .refused exchange failure => return (exchange, failure)
  | .admitted exchange due => do
      let after ← inner exchange
      tellDue due after
      return (after, none)

@[simp]
theorem unmarked_tellAssess (consumer : IdempotentConsumer) (exchange : Exchange) :
    (consumer.tellAssess exchange).unmarked = consumer.assess exchange := by
  unfold tellAssess assess
  cases consumer.keyOf exchange with
  | none => rfl
  | some key =>
      simp only [Marked.unmarked_bind, Marked.unmarked_note, Marked.unmarked_announcing, pure_bind]
      congr 1
      funext isNew
      cases isNew with
      | true => cases exchange.isInUnitOfWork <;> rfl
      | false =>
          simp only [Bool.false_eq_true, if_false, Marked.unmarked_bind, Marked.unmarked_note,
            Marked.unmarked_lift, pure_bind]
          congr 1
          funext _
          congr 1
          funext _
          cases consumer.options.skipDuplicate <;> rfl

@[simp]
theorem unmarked_tellDue (due : Option Completion) (exchange : Exchange) :
    (tellDue due exchange).unmarked = settleDue due exchange := by
  cases due with
  | none => rfl
  | some completion => exact completion.unmarked_observeCarryOut exchange

theorem unmarked_tell {consumer : IdempotentConsumer}
    {inner : Exchange → Marked KeyEvent Broker Exchange}
    (faithful : ∀ exchange, (inner exchange).unmarked = consumer.inner.invoke exchange)
    (exchange : Exchange) :
    (consumer.tell inner exchange).unmarked = consumer.toProcessor.process exchange := by
  unfold tell
  rw [process_eq, Marked.unmarked_bind, unmarked_tellAssess]
  congr 1
  funext admission
  cases admission with
  | refused => rfl
  | admitted entered due => simp [faithful]

end IdempotentConsumer

/-! ## Requests to repositories -/

/-- A request was made to the repository with the handle, or none was made, and nothing else happened
that consumers see. -/
structure Broker.Asked (handle : Nat) (request? : Option RepositoryRequest) (before after : Broker) :
    Prop where
  repository : after.repositories.get? handle = (before.repositories.get? handle).map fun held =>
    request?.elim held fun request => (held.answer request).2
  others : ∀ other, other ≠ handle →
    after.repositories.get? other = before.repositories.get? other
  duplicates : after.duplicates = before.duplicates
  metrics : after.metrics = before.metrics

/-- Changing a repository as a request does is making the request. -/
theorem Broker.asked_modify {handle : Nat} {request? : Option RepositoryRequest}
    {change : KeyRepository → KeyRepository} (broker : Broker)
    (asks : ∀ held, change held = request?.elim held fun request => (held.answer request).2) :
    Broker.Asked handle request? broker
      { broker with repositories := broker.repositories.modify handle change } where
  repository := by
    rw [Register.get?_modify, if_pos rfl]
    exact congrArg (Option.map · _) (funext asks)
  others other different := by
    rw [Register.get?_modify, if_neg (Ne.symm different)]
  duplicates := rfl
  metrics := rfl

theorem Broker.exists_step_withRepository {α : Type} (handle : Nat) (standard : α)
    (step : KeyRepository → α × KeyRepository) (request? : Option RepositoryRequest)
    (asks : ∀ held, (step held).2 = request?.elim held fun request => (held.answer request).2) :
    ∃ change, Broker.withRepository handle standard step = Routine.change change ∧
      ∀ broker,
        (change broker).1 = (broker.repositories.get? handle).elim standard (fun held =>
          (step held).1) ∧
        Broker.Asked handle request? broker (change broker).2 := by
  refine ⟨_, rfl, ?_⟩
  intro broker
  cases found : broker.repositories.get? handle with
  | none =>
      refine ⟨rfl, ?_⟩
      exact
        { repository := by rw [found]; rfl
          others := fun _ _ => rfl
          duplicates := rfl
          metrics := rfl }
  | some held => exact ⟨rfl, broker.asked_modify asks⟩

theorem RepositoryRequest.exists_step_carryOut (handle : Nat) (request : RepositoryRequest) :
    ∃ change, request.carryOut handle = Routine.change change ∧
      ∀ broker, Broker.Asked handle (some request) broker (change broker).2 := by
  obtain ⟨change, same, asks⟩ := Broker.exists_step_withRepository handle RepositoryAnswer.done
    (fun held => held.answer request) (some request) fun _ => rfl
  exact ⟨change, same, fun broker => (asks broker).2⟩

/-- Whether a key is new is asked at once. -/
theorem IdempotentConsumer.exists_step_accept (consumer : IdempotentConsumer) (key : String) :
    ∃ change, consumer.accept key = Routine.change change ∧
      ∀ broker,
        (change broker).1 = (broker.repositories.get? consumer.repository).elim false (fun held =>
          !held.contains key) ∧
        Broker.Asked consumer.repository (consumer.claim? key) broker (change broker).2 := by
  unfold accept claim?
  cases consumer.options.eager with
  | true =>
      obtain ⟨change, same, asks⟩ := Broker.exists_step_withRepository consumer.repository false
        (fun held => held.add key) (some (.add key)) fun _ => rfl
      refine ⟨change, same, fun broker => ⟨?_, (asks broker).2⟩⟩
      rw [(asks broker).1]
      congr 1
      funext held
      exact held.fst_add key
  | false =>
      exact Broker.exists_step_withRepository consumer.repository false
        (fun held => (!held.contains key, held)) none fun _ => rfl

theorem Completion.exists_step_carryOut (exchange : Exchange) (repository : Nat) (key : String)
    (options : IdempotentOptions) :
    ∃ change, (settleKey repository key options).carryOut exchange = Routine.change change ∧
      ∀ broker, Broker.Asked repository
        (KeyRepository.settlement? options exchange.succeeds key) broker (change broker).2 := by
  rw [carryOut_settleKey]
  refine ⟨fun broker => ((), _), rfl, ?_⟩
  intro broker
  exact broker.asked_modify fun held => held.settle_eq options exchange.succeeds key

/-! ## What happens around consumers -/

/-- A change of the broker that consumers do not see. -/
structure Unseen (before after : Broker) : Prop where
  repositories : after.repositories = before.repositories
  duplicates : after.duplicates = before.duplicates
  metrics : ∀ handle, (after.metrics.get? handle).map (fun held => held.counters.duplicates) =
    (before.metrics.get? handle).map fun held => held.counters.duplicates

/-- What the steps around consumers may do to the broker and to exchanges. -/
structure Latitude where
  kept : Broker → Broker → Prop
  change : Exchange → Exchange → Prop
  turnsTo : Nat → Prop
  unseen : ∀ {before after : Broker}, Unseen before after → kept before after
  still : ∀ {before after : Exchange}, after.pending = before.pending → change before after

/-- A routine that begins with an exchange and ends with the one that is found in its result, and the
same routine told. Only consumers of the given kind, requests to repositories and ends of units of
work make marks. -/
inductive Tells (own : IdempotentConsumer → Prop) (latitude : Latitude) :
    {α : Type} → Exchange → (α → Exchange) → Routine Broker α → Marked KeyEvent Broker α → Prop
  | lift {α : Type} {exchange : Exchange} {view : α → Exchange} {routine : Routine Broker α} :
      (∀ broker, routine.Respects latitude.kept broker) →
      (∀ value, routine.Gives value → latitude.change exchange (view value)) →
      Tells own latitude exchange view routine (.lift routine)
  | bind {α β : Type} {exchange : Exchange} {view : α → Exchange} {further : β → Exchange}
      {routine : Routine Broker α} {next : α → Routine Broker β}
      {marked : Marked KeyEvent Broker α} {follow : α → Marked KeyEvent Broker β} :
      Tells own latitude exchange view routine marked →
      (∀ value, routine.Gives value →
        Tells own latitude (view value) further (next value) (follow value)) →
      Tells own latitude exchange further (routine.bind next) (marked.bind follow)
  | changed {α : Type} {exchange other : Exchange} {view : α → Exchange}
      {routine : Routine Broker α} {marked : Marked KeyEvent Broker α} :
      latitude.change exchange other →
      Tells own latitude other view routine marked →
      Tells own latitude exchange view routine marked
  | consumer {consumer : IdempotentConsumer} {exchange : Exchange}
      {inner : Exchange → Marked KeyEvent Broker Exchange} :
      own consumer →
      (∀ entered, Tells own latitude entered id (consumer.inner.invoke entered) (inner entered)) →
      Tells own latitude exchange Prod.fst (consumer.toProcessor.process exchange)
        (consumer.tell inner exchange)
  | request {exchange : Exchange} {handle : Nat} (request : RepositoryRequest) :
      latitude.turnsTo handle →
      Tells own latitude exchange (fun _ => exchange) (request.carryOut handle)
        (request.tell handle)
  | finish {exchange : Exchange} :
      Tells own latitude exchange id exchange.endUnitOfWork exchange.tellEnd

variable {own : IdempotentConsumer → Prop} {latitude : Latitude} {α β : Type}
  {exchange : Exchange} {view : α → Exchange} {further : β → Exchange}

theorem Tells.unmarked {routine : Routine Broker α} {marked : Marked KeyEvent Broker α}
    (tells : Tells own latitude exchange view routine marked) : marked.unmarked = routine := by
  induction tells with
  | lift => exact Marked.unmarked_lift _
  | bind _ _ first second =>
      rw [Marked.unmarked_bind_eq, first]
      exact Routine.bind_congr second
  | changed _ _ inductionHypothesis => exact inductionHypothesis
  | consumer _ _ inductionHypothesis =>
      exact IdempotentConsumer.unmarked_tell inductionHypothesis _
  | request => exact Marked.unmarked_announcing _ _
  | finish => exact Exchange.unmarked_tellEnd _

theorem Tells.mono {wider : IdempotentConsumer → Prop} {routine : Routine Broker α}
    {marked : Marked KeyEvent Broker α} (wide : ∀ consumer, own consumer → wider consumer)
    (tells : Tells own latitude exchange view routine marked) :
    Tells wider latitude exchange view routine marked := by
  induction tells with
  | lift kept changes => exact .lift kept changes
  | bind _ _ first second => exact .bind first second
  | changed change _ inductionHypothesis => exact .changed change inductionHypothesis
  | consumer owned _ inductionHypothesis => exact .consumer (wide _ owned) inductionHypothesis
  | request request turns => exact .request request turns
  | finish => exact .finish

/-- The routine can be told. -/
def Tellable (own : IdempotentConsumer → Prop) (latitude : Latitude) (exchange : Exchange)
    (view : α → Exchange) (routine : Routine Broker α) : Prop :=
  ∃ marked, Tells own latitude exchange view routine marked

namespace Tellable

open Classical in
theorem bind {routine : Routine Broker α} {next : α → Routine Broker β}
    (first : Tellable own latitude exchange view routine)
    (second : ∀ value, routine.Gives value →
      Tellable own latitude (view value) further (next value)) :
    Tellable own latitude exchange further (routine.bind next) := by
  obtain ⟨marked, tells⟩ := first
  refine ⟨marked.bind fun value =>
    if given : routine.Gives value then (second value given).choose else .lift (next value), ?_⟩
  refine .bind tells ?_
  intro value given
  rw [dif_pos given]
  exact (second value given).choose_spec

theorem changed {other : Exchange} {routine : Routine Broker α}
    (change : latitude.change exchange other)
    (tellable : Tellable own latitude other view routine) :
    Tellable own latitude exchange view routine := by
  obtain ⟨marked, tells⟩ := tellable
  exact ⟨marked, .changed change tells⟩

theorem result {value : α} (same : (view value).pending = exchange.pending) :
    Tellable own latitude exchange view (.done value) := by
  refine ⟨_, .lift (fun _ => trivial) ?_⟩
  intro other given
  obtain rfl := Routine.gives_done.mp given
  exact latitude.still same

/-- What consumers do not see may come before. -/
theorem after_unseen {ν : Type} {routine : Routine Broker ν} {next : ν → Routine Broker α}
    (unseen : ∀ broker, routine.Respects Unseen broker)
    (rest : ∀ value, routine.Gives value → Tellable own latitude exchange view (next value)) :
    Tellable own latitude exchange view (routine.bind next) := by
  have told : Tellable own latitude exchange (fun _ => exchange) routine :=
    ⟨_, .lift (fun broker => (unseen broker).mono fun _ _ => latitude.unseen)
      fun _ _ => latitude.still rfl⟩
  exact told.bind rest

end Tellable

/-- A pass through a consumer, told, with steps behind it that make no marks. -/
def IdempotentConsumer.tellPass (consumer : IdempotentConsumer) (exchange : Exchange) :
    Marked KeyEvent Broker Exchange :=
  (consumer.tell (fun entered => .lift (consumer.inner.invoke entered)) exchange).bind fun ended =>
    .lift (pure (ended.1.recording ended.2))

theorem IdempotentConsumer.tells_tellPass {consumer : IdempotentConsumer} (owned : own consumer)
    (kept : ∀ entered broker, (consumer.inner.invoke entered).Respects latitude.kept broker)
    (changes : ∀ entered after, (consumer.inner.invoke entered).Gives after →
      latitude.change entered after) (exchange : Exchange) :
    Tells own latitude exchange id (consumer.toProcessor.invoke exchange)
      (consumer.tellPass exchange) := by
  refine .bind (.consumer owned fun entered => .lift (kept entered) (changes entered)) ?_
  rintro ⟨after, failure⟩ _
  refine .lift (fun _ => trivial) ?_
  intro value given
  obtain rfl := Routine.gives_pure.mp given
  apply latitude.still
  cases failure <;> rfl

/-! ## What holds of everything that is told -/

section Told

variable {law : List KeyEvent → Broker → Broker → Prop} {observe : Broker → Broker → List KeyEvent}
  {routine : Routine Broker α} {marked : Marked KeyEvent Broker α}

theorem obeys_observeAll (additive : Marked.Additive law)
    (carried : ∀ (exchange : Exchange) (completion : Completion),
      (completion.observeCarryOut exchange).Obeys law observe)
    (exchange : Exchange) (completions : List Completion) :
    (exchange.observeAll completions).Obeys law observe := by
  induction completions with
  | nil => exact Marked.obeys_done additive _
  | cons completion rest inductionHypothesis =>
      exact (carried exchange completion).bind additive fun _ _ => inductionHypothesis

/-- A law that the decisions of consumers obey, the completions, and what happens around consumers,
is obeyed by whatever is told. -/
theorem Tells.obeys (additive : Marked.Additive law)
    (around : ∀ {before after : Broker}, latitude.kept before after →
      law (observe before after) before after)
    (assessed : ∀ consumer, own consumer → ∀ exchange,
      (consumer.tellAssess exchange).Obeys law observe)
    (requested : ∀ handle, latitude.turnsTo handle → ∀ request : RepositoryRequest,
      (request.tell handle).Obeys law observe)
    (carried : ∀ (exchange : Exchange) (completion : Completion),
      (completion.observeCarryOut exchange).Obeys law observe)
    (tells : Tells own latitude exchange view routine marked) : marked.Obeys law observe := by
  induction tells with
  | lift kept _ => exact Marked.obeys_lift additive around kept
  | @bind _ _ _ _ _ _ _ _ _ tells _ first second =>
      refine first.bind additive fun value given => second value ?_
      rw [tells.unmarked] at given
      exact given
  | changed _ _ inductionHypothesis => exact inductionHypothesis
  | @consumer consumer exchange inner owned _ inductionHypothesis =>
      apply (assessed consumer owned exchange).bind additive
      intro admission _
      cases admission with
      | refused => exact Marked.obeys_done additive _
      | admitted entered due =>
          apply (inductionHypothesis entered).bind additive
          intro after _
          have settling : (IdempotentConsumer.tellDue due after).Obeys law observe := by
            cases due with
            | none => exact Marked.obeys_done additive _
            | some completion => exact carried after completion
          exact settling.bind additive fun _ _ => Marked.obeys_done additive _
  | request request turns => exact requested _ turns request
  | @finish exchange =>
      unfold Exchange.tellEnd
      cases exchange.unitOfWork with
      | none => exact Marked.obeys_done additive _
      | some unit =>
          exact (obeys_observeAll additive carried _ unit.completions).bind additive fun _ _ =>
            Marked.obeys_done additive _

theorem eachMark_observeAll {kind : KeyEvent → Prop}
    (carried : ∀ (exchange : Exchange) (completion : Completion),
      (completion.observeCarryOut exchange).EachMark kind)
    (exchange : Exchange) (completions : List Completion) :
    (exchange.observeAll completions).EachMark kind := by
  induction completions with
  | nil => trivial
  | cons completion rest inductionHypothesis =>
      exact (carried exchange completion).bind fun _ _ => inductionHypothesis

/-- A kind of marks to which the marks of consumers and of completions belong comprises whatever is
told. -/
theorem Tells.eachMark {kind : KeyEvent → Prop}
    (assessed : ∀ consumer, own consumer → ∀ exchange, (consumer.tellAssess exchange).EachMark kind)
    (requested : ∀ handle, latitude.turnsTo handle → ∀ request : RepositoryRequest,
      (request.tell handle).EachMark kind)
    (carried : ∀ (exchange : Exchange) (completion : Completion),
      (completion.observeCarryOut exchange).EachMark kind)
    (tells : Tells own latitude exchange view routine marked) : marked.EachMark kind := by
  induction tells with
  | lift => exact Marked.eachMark_lift _
  | @bind _ _ _ _ _ _ _ _ _ tells _ first second =>
      refine first.bind fun value given => second value ?_
      rw [tells.unmarked] at given
      exact given
  | changed _ _ inductionHypothesis => exact inductionHypothesis
  | @consumer consumer exchange inner owned _ inductionHypothesis =>
      apply (assessed consumer owned exchange).bind
      intro admission _
      cases admission with
      | refused => trivial
      | admitted entered due =>
          apply (inductionHypothesis entered).bind
          intro after _
          cases due with
          | none => trivial
          | some completion => exact (carried after completion).bind fun _ _ => trivial
  | request request turns => exact requested _ turns request
  | @finish exchange =>
      unfold Exchange.tellEnd
      cases exchange.unitOfWork with
      | none => trivial
      | some unit =>
          exact (eachMark_observeAll carried _ unit.completions).bind fun _ _ => trivial

end Told

/-! ## Routines that consumers do not see -/

section Unseen

variable {broker : Broker}

theorem unseen_report (event : RedeliveryEvent) (broker : Broker) :
    (Broker.report event).Respects Unseen broker := by
  unfold Broker.report
  split
  · trivial
  · exact ⟨⟨rfl, rfl, fun _ => rfl⟩, trivial⟩

theorem unseen_count {change : Metrics → Metrics} (handle : Option Nat)
    (same : ∀ held, (change held).counters.duplicates = held.counters.duplicates)
    (broker : Broker) : (Broker.count handle change).Respects Unseen broker := by
  cases handle with
  | none => trivial
  | some handle =>
      refine ⟨⟨rfl, rfl, ?_⟩, trivial⟩
      intro other
      dsimp only
      rw [Register.get?_modify]
      by_cases itself : handle = other
      · rw [if_pos itself, Option.map_map]
        congr 1
        funext held
        exact same held
      · rw [if_neg itself]

theorem unseen_drawChance (broker : Broker) : Broker.drawChance.Respects Unseen broker :=
  ⟨⟨rfl, rfl, fun _ => rfl⟩, trivial⟩

theorem unseen_wait (span : Duration) (broker : Broker) :
    (Routine.wait span : Routine Broker Unit).Respects Unseen broker := by
  unfold Routine.wait
  split
  · trivial
  · exact fun _ => trivial

end Unseen

namespace ErrorHandler

theorem unseen_reportRedelivery (redelivery : RedeliveryPolicy) (exchange : Exchange)
    (failure : Failure) (attempt : Nat) (delay : Duration) (broker : Broker) :
    (reportRedelivery redelivery exchange failure attempt delay).Respects Unseen broker := by
  unfold reportRedelivery
  split
  · exact unseen_report _ broker
  · trivial

theorem unseen_reportExhausted (redelivery : RedeliveryPolicy) (exchange : Exchange)
    (failure : Failure) (broker : Broker) :
    (reportExhausted redelivery exchange failure).Respects Unseen broker := by
  unfold reportExhausted
  split
  · exact unseen_report _ broker
  · trivial

theorem unseen_pause (delay : Duration) (broker : Broker) :
    (pause delay).Respects Unseen broker := by
  unfold pause
  split
  · exact (unseen_report _ broker).bind fun _ => unseen_wait delay
  · exact unseen_wait delay broker

end ErrorHandler

/-! ## Processors that are put together -/

namespace Processor

def CanTell (own : IdempotentConsumer → Prop) (latitude : Latitude) (processor : Processor) : Prop :=
  ∀ exchange, Tellable own latitude exchange Prod.fst (processor.process exchange)

/-- A processor that stays within the latitude and turns to no repository but those of it. -/
def Within (latitude : Latitude) (processor : Processor) : Prop :=
  processor.CanTell (fun _ => False) latitude

theorem within_of_respects {latitude : Latitude} {processor : Processor}
    (kept : ∀ exchange broker, (processor.process exchange).Respects latitude.kept broker)
    (changes : ∀ exchange ended, (processor.process exchange).Gives ended →
      latitude.change exchange ended.1) : processor.Within latitude :=
  fun exchange => ⟨_, .lift (kept exchange) (changes exchange)⟩

/-- Processors that are put together from consumers of one kind and other parts. -/
inductive Arranged (own : IdempotentConsumer → Prop) (part : Processor → Prop) : Processor → Prop
  | single {processor : Processor} : part processor → Arranged own part processor
  | pipeline {name : String} {steps : List Processor} :
      (∀ step ∈ steps, Arranged own part step) → Arranged own part (pipeline name steps)
  | handler {handler : ErrorHandler} :
      Arranged own part handler.output →
      (∀ failure hook, handler.hookUnder (handler.policyFor failure) = some hook →
        Arranged own part hook) →
      (∀ policy broker deadLetter, handler.destination policy broker = .ok (some deadLetter) →
        Arranged own part deadLetter.processor) →
      Arranged own part handler.toProcessor
  | consumer {consumer : IdempotentConsumer} :
      own consumer → Arranged own part consumer.inner → Arranged own part consumer.toProcessor
  | inUnitOfWork {inner : Processor} :
      Arranged own part inner → Arranged own part inner.inUnitOfWork

variable {own : IdempotentConsumer → Prop} {latitude : Latitude} {processor : Processor}

theorem CanTell.invoke (told : processor.CanTell own latitude) (exchange : Exchange) :
    Tellable own latitude exchange id (processor.invoke exchange) := by
  refine (told exchange).bind ?_
  rintro ⟨after, failure⟩ _
  apply Tellable.result
  cases failure <;> rfl

theorem canTell_silent {name : String} {body : Exchange → Routine Broker Exchange}
    (told : ∀ exchange, Tellable own latitude exchange id (body exchange)) :
    (silent name body).CanTell own latitude := by
  intro exchange
  refine (told exchange).bind ?_
  intro after _
  exact .result rfl

theorem tellable_runSteps {steps : List Processor}
    (told : ∀ step ∈ steps, step.CanTell own latitude) (promoting : Bool) (exchange : Exchange) :
    Tellable own latitude exchange id (runSteps promoting steps exchange) := by
  induction steps generalizing promoting exchange with
  | nil => exact .result rfl
  | cons step rest inductionHypothesis =>
      unfold runSteps
      by_cases stop : exchange.flag .routeStop = true
      · rw [if_pos stop]
        exact .result rfl
      · rw [if_neg stop]
        have promoted : (if promoting then exchange.promote else exchange).pending =
            exchange.pending := by
          apply Exchange.pending_congr
          cases promoting <;> simp
        apply Tellable.changed (latitude.still promoted)
        refine ((told step List.mem_cons_self).invoke _).bind ?_
        intro after _
        by_cases further : after.mayContinue = true
        · rw [if_pos further]
          exact inductionHypothesis
            (fun other member => told other (List.mem_cons_of_mem _ member)) true after
        · rw [if_neg further]
          exact .result rfl

theorem canTell_inUnitOfWork (told : processor.CanTell own latitude) :
    processor.inUnitOfWork.CanTell own latitude := by
  apply canTell_silent
  intro exchange
  by_cases inside : exchange.isInUnitOfWork = true
  · rw [if_pos inside]
    exact told.invoke exchange
  · rw [if_neg inside]
    apply Tellable.changed (latitude.still exchange.pending_enterUnitOfWork)
    exact (told.invoke _).bind fun after _ => ⟨_, .finish⟩

end Processor

namespace ErrorHandler

variable {own : IdempotentConsumer → Prop} {latitude : Latitude} {handler : ErrorHandler}

theorem tellable_prepare {preparation : Preparation}
    (hooks : ∀ hook, preparation.hook = some hook → hook.CanTell own latitude)
    (exchange : Exchange) :
    Tellable own latitude exchange id (prepare preparation exchange) := by
  have whole : prepare preparation exchange = (pause preparation.delay).bind fun _ =>
      preparation.hook.elim (pure (cleared exchange)) fun hook =>
        hook.invoke (cleared exchange) := by
    unfold prepare pause
    cases preparation.delay.isZero <;> cases preparation.hook <;> rfl
  rw [whole]
  apply Tellable.after_unseen (unseen_pause _)
  intro _ _
  cases found : preparation.hook with
  | none => exact .result rfl
  | some hook =>
      have ready : (cleared exchange).pending = exchange.pending := rfl
      exact .changed (latitude.still ready) ((hooks hook found).invoke _)

theorem tellable_attempt {preparation : Option Preparation}
    (output : handler.output.CanTell own latitude)
    (hooks : ∀ held ∈ preparation, ∀ hook, held.hook = some hook → hook.CanTell own latitude)
    (exchange : Exchange) :
    Tellable own latitude exchange id (handler.attempt preparation exchange) := by
  have stepped : ∀ ready : Exchange, Tellable own latitude ready id
      (if ready.exception.isNone then handler.output.invoke ready else pure ready) := by
    intro ready
    by_cases unfailed : ready.exception.isNone = true
    · rw [if_pos unfailed]
      exact output.invoke ready
    · rw [if_neg unfailed]
      exact .result rfl
  cases preparation with
  | none => exact stepped exchange
  | some held => exact (tellable_prepare (hooks held rfl) exchange).bind fun ready _ => stepped ready

theorem tellable_conclude (policy : Option ExceptionPolicy) (failure : Failure)
    (deliveredTo : Option String) (exchange : Exchange) :
    Tellable own latitude exchange Prod.fst
      (handler.conclude policy failure deliveredTo exchange) := by
  unfold conclude
  by_cases handled : handler.isHandled policy exchange = true
  · rw [if_pos handled]
    have counted : ∀ outcome : Outcome, Tellable own latitude exchange Prod.fst
        ((Broker.count handler.rules.metrics Metrics.recordHandled).bind fun _ =>
          .done (exchange.clearException.put .errorHandlerHandled (.bool true), outcome)) :=
      fun outcome => .after_unseen (unseen_count _ fun _ => rfl) fun _ _ => .result rfl
    cases (handler.redeliveryUnder policy).logHandled with
    | true => exact .after_unseen (unseen_report _) fun _ _ => counted _
    | false => exact counted _
  · rw [if_neg handled]
    exact .result rfl

theorem pending_forDeadLetter (handler : ErrorHandler) (policy : Option ExceptionPolicy)
    (entry : Option Message) (name : String) (exchange : Exchange) :
    (handler.forDeadLetter policy entry name exchange).pending = exchange.pending :=
  Exchange.pending_congr (unitOfWork_forDeadLetter policy entry name exchange)

theorem tellable_deliver {policy : Option ExceptionPolicy} {failure : Failure} {entry : Option Message}
    {deadLetter : DeadLetterStep} (told : deadLetter.processor.CanTell own latitude)
    (exchange : Exchange) :
    Tellable own latitude exchange Prod.fst
      (handler.deliver policy failure entry deadLetter exchange) := by
  have ready := pending_forDeadLetter handler policy entry deadLetter.name exchange
  apply Tellable.changed (latitude.still ready)
  refine (told.invoke _).bind ?_
  intro after _
  dsimp only [id]
  cases after.exception with
  | some failed => exact .after_unseen (unseen_report _) fun _ _ => .result rfl
  | none =>
      refine .after_unseen (unseen_report _) fun _ _ => ?_
      refine .after_unseen (unseen_count _ fun _ => rfl) fun _ _ => ?_
      exact tellable_conclude ..

theorem tellable_exhaust {policy : Option ExceptionPolicy} {failure : Failure} {entry : Option Message}
    (destinations : ∀ broker deadLetter, handler.destination policy broker = .ok (some deadLetter) →
      deadLetter.processor.CanTell own latitude)
    (exchange : Exchange) :
    Tellable own latitude exchange Prod.fst
      (handler.exhaust policy failure entry exchange) := by
  have marked : (markedExhausted exchange).pending = exchange.pending := rfl
  apply Tellable.changed (latitude.still marked)
  refine .after_unseen (unseen_reportExhausted _ _ _) fun _ _ => ?_
  refine .after_unseen (unseen_count _ fun _ => rfl) fun _ _ => ?_
  refine .after_unseen (fun _ => trivial) fun destination given => ?_
  obtain ⟨broker, found⟩ := Routine.gives_look.mp given
  cases destination with
  | error unavailable => exact .after_unseen (unseen_report _) fun _ _ => .result rfl
  | ok step =>
      cases step with
      | none => exact tellable_conclude ..
      | some deadLetter => exact tellable_deliver (destinations broker deadLetter found.symm) _

theorem pending_counted (after : Exchange) (failure : Failure) (redeliveries : Nat) :
    (counted (after.setCaught failure) redeliveries).pending = after.pending :=
  Exchange.pending_congr (by simp)

theorem pending_settled (after : Exchange) (failure : Failure) (redeliveries : Nat) :
    (settled (counted (after.setCaught failure) (redeliveries + 1)) redeliveries).pending =
      after.pending :=
  Exchange.pending_congr (by simp)

/-- What follows upon an attempt: a failure that is not fatal leads further. -/
theorem tellable_attempted {after : Exchange} {redeliveries : Nat}
    {further : Failure → Routine Broker (Exchange × Outcome)}
    (told : ∀ failure, Tellable own latitude after Prod.fst (further failure)) :
    Tellable own latitude after Prod.fst
      (match after.exception with
      | none =>
          if after.isFailed then
            (Broker.report .faultReturned).bind fun _ => .done (after, .fault)
          else .done (after, .success redeliveries)
      | some failure =>
          if failure.isFatal then
            (Broker.report (.fatal failure.renderChain)).bind fun _ =>
              .done (after.setCaught failure, .fatal failure)
          else further failure) := by
  cases after.exception with
  | none =>
      dsimp only
      by_cases failed : after.isFailed = true
      · rw [if_pos failed]
        exact .after_unseen (unseen_report _) fun _ _ => .result rfl
      · rw [if_neg failed]
        exact .result rfl
  | some failure =>
      dsimp only
      by_cases fatal : failure.isFatal = true
      · rw [if_pos fatal]
        exact .after_unseen (unseen_report _) fun _ _ => .result rfl
      · rw [if_neg fatal]
        exact told failure

theorem tellable_attempts (output : handler.output.CanTell own latitude)
    (hooks : ∀ failure hook, handler.hookUnder (handler.policyFor failure) = some hook →
      hook.CanTell own latitude)
    (destinations : ∀ policy broker deadLetter,
      handler.destination policy broker = .ok (some deadLetter) →
        deadLetter.processor.CanTell own latitude)
    (entry : Option Message) (countable redeliveries : Nat) (preparation : Option Preparation)
    (prepared : ∀ held ∈ preparation, ∀ hook, held.hook = some hook → hook.CanTell own latitude)
    (exchange : Exchange) :
    Tellable own latitude exchange Prod.fst
      (handler.attempts entry countable redeliveries preparation exchange) := by
  have exhausting : ∀ (redeliveries : Nat) (policy : Option ExceptionPolicy) (failure : Failure)
      (after : Exchange), Tellable own latitude after Prod.fst
        (handler.exhaust policy failure entry
          (settled (counted (after.setCaught failure) (redeliveries + 1)) redeliveries)) :=
    fun redeliveries policy failure after =>
      .changed (latitude.still (pending_settled after failure redeliveries))
        (tellable_exhaust (destinations policy) _)
  induction countable generalizing redeliveries preparation exchange with
  | zero =>
      unfold attempts
      refine (tellable_attempt output prepared exchange).bind ?_
      intro after _
      exact tellable_attempted fun failure => exhausting redeliveries _ failure after
  | succ countable inductionHypothesis =>
      unfold attempts
      refine (tellable_attempt output prepared exchange).bind ?_
      intro after _
      refine tellable_attempted fun failure => ?_
      dsimp only [id]
      split
      · have counted := pending_counted after failure (redeliveries + 1)
        apply Tellable.changed (latitude.still counted)
        refine .after_unseen unseen_drawChance fun chance _ => ?_
        refine .after_unseen (unseen_reportRedelivery _ _ _ _ _) fun _ _ => ?_
        refine .after_unseen (unseen_count _ fun _ => rfl) fun _ _ => ?_
        apply inductionHypothesis
        intro held member hook found
        obtain rfl := Option.mem_some.mp member
        exact hooks failure hook found
      · exact exhausting redeliveries _ failure after

theorem canTell_toProcessor (output : handler.output.CanTell own latitude)
    (hooks : ∀ failure hook, handler.hookUnder (handler.policyFor failure) = some hook →
      hook.CanTell own latitude)
    (destinations : ∀ policy broker deadLetter,
      handler.destination policy broker = .ok (some deadLetter) →
        deadLetter.processor.CanTell own latitude) :
    handler.toProcessor.CanTell own latitude := by
  apply Processor.canTell_silent
  intro exchange
  have passed := tellable_attempts output hooks destinations (handler.entryOf exchange) maximumCount 0 none
    (fun _ impossible => nomatch impossible) exchange
  exact passed.bind fun _ _ => .result rfl

end ErrorHandler

namespace Processor

variable {own : IdempotentConsumer → Prop} {latitude : Latitude} {processor : Processor}

/-- A processor that is put together from such consumers and from parts within the latitude can be
told. -/
theorem Arranged.canTell (arranged : processor.Arranged own (Within latitude)) :
    processor.CanTell own latitude := by
  induction arranged with
  | single part =>
      intro exchange
      obtain ⟨marked, tells⟩ := part exchange
      exact ⟨marked, tells.mono fun _ => False.elim⟩
  | pipeline _ inductionHypothesis =>
      exact canTell_silent fun exchange => tellable_runSteps inductionHypothesis false exchange
  | handler _ _ _ output hooks destinations =>
      exact ErrorHandler.canTell_toProcessor output hooks destinations
  | consumer owned _ inductionHypothesis =>
      intro exchange
      exact ⟨_, .consumer owned fun entered => (inductionHypothesis.invoke entered).choose_spec⟩
  | inUnitOfWork _ inductionHypothesis => exact canTell_inUnitOfWork inductionHypothesis

def Begins (own : IdempotentConsumer → Prop) (latitude : Latitude) (starts : Exchange → Prop)
    (routine : Routine Broker Exchange) : Prop :=
  ∃ processor exchange, Arranged own (Within latitude) processor ∧ starts exchange ∧
    routine = processor.invoke exchange

def BeginsTold (own : IdempotentConsumer → Prop) (latitude : Latitude) (starts : Exchange → Prop)
    (marked : Marked KeyEvent Broker Exchange) : Prop :=
  ∃ exchange routine, starts exchange ∧ Tells own latitude exchange id routine marked

/-- Whatever happens to such processors side by side can be told. -/
theorem exists_told_of_runs (observe : Broker → Broker → List KeyEvent)
    {starts : Exchange → Prop} {permits : Broker → Broker → Prop} {broker : Broker}
    {ensemble : Ensemble Broker Exchange}
    (runs : Ensemble.Runs (Begins own latitude starts) permits { state := broker } ensemble) :
    ∃ chronicle : Chronicle KeyEvent Broker Exchange,
      Chronicle.Runs observe (BeginsTold own latitude starts) permits { state := broker }
          chronicle ∧ chronicle.ensemble = ensemble := by
  refine Chronicle.exists_of_runs ?_ runs
  rintro _ ⟨processor, exchange, arranged, started, rfl⟩
  obtain ⟨marked, tells⟩ := arranged.canTell.invoke exchange
  exact ⟨marked, ⟨exchange, _, started, tells⟩, tells.unmarked⟩

end Processor

end MessageRouting
