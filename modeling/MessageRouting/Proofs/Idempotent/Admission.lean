import MessageRouting.Idempotent.Consumer
import MessageRouting.Proofs.Engine.Watched

/-!
# In front of the steps behind an idempotent consumer

A consumer keeps an exchange from the steps behind it or calls them once. It has
decided which when it calls them, and a completion may be left to do after that.
-/

namespace MessageRouting

namespace IdempotentConsumer

/-- What a consumer decides about an exchange. The steps behind are not called with one that is
refused; with one that is admitted they are, and the completion is carried out after them. -/
inductive Admission where
  | refused (exchange : Exchange) (failure : Option Failure)
  | admitted (exchange : Exchange) (due : Option Completion)

def assess (consumer : IdempotentConsumer) (exchange : Exchange) : Routine Broker Admission :=
  match consumer.keyOf exchange with
  | none => return .refused exchange (some (.noMessageId exchange.id.text))
  | some key => do
      if ← consumer.accept key then
        let completion := Completion.settleKey consumer.repository key consumer.options
        if exchange.isInUnitOfWork then return .admitted (exchange.addCompletion completion) none
        else return .admitted exchange (some completion)
      else
        Routine.modify fun broker =>
          { broker with duplicates := broker.duplicates.modify consumer.duplicates (· + 1) }
        Broker.count consumer.metrics Metrics.recordDuplicate
        let exchange := exchange.put .duplicateMessage (.bool true)
        if consumer.options.skipDuplicate then return .refused exchange none
        else return .admitted exchange none

/-- Carries out what is due after the steps behind a consumer. -/
def settleDue (due : Option Completion) (exchange : Exchange) : Routine Broker Unit :=
  match due with
  | some completion => completion.carryOut exchange
  | none => pure ()

/-- A consumer acts on its decision. -/
theorem process_eq (consumer : IdempotentConsumer) (exchange : Exchange) :
    consumer.toProcessor.process exchange = (do
      match ← consumer.assess exchange with
      | .refused exchange failure => return (exchange, failure)
      | .admitted exchange due => do
          let after ← consumer.inner.invoke exchange
          settleDue due after
          return (after, none)) := by
  unfold toProcessor assess
  cases found : consumer.keyOf exchange with
  | none => simp [found]
  | some key =>
      simp only [found, bind_assoc]
      congr 1
      funext isNew
      cases isNew with
      | true =>
          unfold letThrough
          cases exchange.isInUnitOfWork <;> simp [settleDue]
      | false =>
          unfold duplicate
          cases consumer.options.skipDuplicate <;> simp [settleDue]

/-- A consumer that refuses or admits an exchange may have marked it, and registers its completion
only on an exchange that is in a unit of work. -/
theorem cases_of_assess {consumer : IdempotentConsumer} {exchange : Exchange} {admission : Admission}
    (given : (consumer.assess exchange).Gives admission) :
    (∃ marked failure, admission = .refused marked failure ∧
        marked.unitOfWork = exchange.unitOfWork) ∨
      (∃ marked due, admission = .admitted marked due ∧
        marked.unitOfWork = exchange.unitOfWork) ∨
      ∃ key, exchange.isInUnitOfWork = true ∧
        admission = .admitted
          (exchange.addCompletion (.settleKey consumer.repository key consumer.options)) none := by
  unfold assess at given
  cases found : consumer.keyOf exchange with
  | none =>
      rw [found] at given
      obtain rfl := Routine.gives_pure.mp given
      exact .inl ⟨_, _, rfl, rfl⟩
  | some key =>
      rw [found] at given
      obtain ⟨isNew, _, decided⟩ := Routine.gives_bind.mp given
      cases isNew with
      | true =>
          by_cases inside : exchange.isInUnitOfWork = true
          · rw [if_pos rfl, if_pos inside] at decided
            obtain rfl := Routine.gives_pure.mp decided
            exact .inr (.inr ⟨key, inside, rfl⟩)
          · rw [if_pos rfl, if_neg inside] at decided
            obtain rfl := Routine.gives_pure.mp decided
            exact .inr (.inl ⟨_, _, rfl, rfl⟩)
      | false =>
          rw [if_neg Bool.false_ne_true] at decided
          obtain ⟨_, _, counted⟩ := Routine.gives_bind.mp decided
          obtain ⟨_, _, marked⟩ := Routine.gives_bind.mp counted
          by_cases skip : consumer.options.skipDuplicate = true
          · rw [if_pos skip] at marked
            obtain rfl := Routine.gives_pure.mp marked
            exact .inl ⟨_, _, rfl, rfl⟩
          · rw [if_neg skip] at marked
            obtain rfl := Routine.gives_pure.mp marked
            exact .inr (.inl ⟨_, _, rfl, rfl⟩)

end IdempotentConsumer

namespace Watched

variable {ε : Type}

/-- A consumer in front of a watched step. The consumer itself logs nothing. -/
def behind (consumer : IdempotentConsumer) (inner : Watched ε)
    (within : consumer.inner = inner.processor) : Watched ε where
  processor := consumer.toProcessor
  observe exchange := do
    match ← Logged.lift (consumer.assess exchange) with
    | .refused exchange failure => return (exchange, failure)
    | .admitted exchange due => do
        let after ← inner.invoke exchange
        Logged.lift (IdempotentConsumer.settleDue due after)
        return (after, none)
  faithful exchange := by
    rw [IdempotentConsumer.process_eq, Logged.result_bind, Logged.result_lift]
    congr 1
    funext admission
    cases admission <;> simp [within]

end Watched

end MessageRouting
