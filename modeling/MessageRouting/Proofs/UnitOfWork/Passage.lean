import MessageRouting.Proofs.Idempotent.Admission
import MessageRouting.Proofs.Redelivery.Course

/-!
# How a unit of work passes through processors

Pipelines, error handlers and idempotent consumers leave the unit of work of an
exchange to the processors that they call, except for the completion that a
consumer registers. So a way in which units of work may change that all of these
processors keep to is one that the composed processor keeps to.
-/

namespace MessageRouting

namespace Exchange

variable (exchange : Exchange)

/-! ## What leaves the unit of work alone -/

@[simp]
theorem unitOfWork_put (property : Property) (value : Value) :
    (exchange.put property value).unitOfWork = exchange.unitOfWork :=
  rfl

@[simp]
theorem unitOfWork_promote : exchange.promote.unitOfWork = exchange.unitOfWork := by
  unfold promote
  cases exchange.outbound <;> rfl

@[simp]
theorem unitOfWork_recording (failure : Option Failure) :
    (exchange.recording failure).unitOfWork = exchange.unitOfWork := by
  cases failure <;> rfl

@[simp]
theorem unitOfWork_setCaught (failure : Failure) :
    (exchange.setCaught failure).unitOfWork = exchange.unitOfWork :=
  rfl

end Exchange

/-- A way in which the unit of work of an exchange may change, in no step or in several. -/
structure Passage (change : Exchange → Exchange → Prop) : Prop where
  still : ∀ {before after : Exchange},
    after.unitOfWork = before.unitOfWork → change before after
  andThen : ∀ {before between after : Exchange},
    change before between → change between after → change before after

namespace Processor

def Passes (change : Exchange → Exchange → Prop) (processor : Processor) : Prop :=
  ∀ before after, (processor.invoke before).Gives after → change before after

theorem gives_invoke {processor : Processor} {before after : Exchange} :
    (processor.invoke before).Gives after ↔
      ∃ ended, (processor.process before).Gives ended ∧ after = ended.1.recording ended.2 := by
  unfold invoke
  constructor
  · intro given
    obtain ⟨⟨left, failure⟩, processed, recorded⟩ := Routine.gives_bind.mp given
    exact ⟨(left, failure), processed, Routine.gives_pure.mp recorded⟩
  · rintro ⟨⟨left, failure⟩, processed, rfl⟩
    exact Routine.gives_bind.mpr ⟨(left, failure), processed, Routine.gives_pure.mpr rfl⟩

variable {change : Exchange → Exchange → Prop}

/-! ## Pipelines -/

theorem passes_runSteps (passage : Passage change) {steps : List Processor}
    (pass : ∀ step ∈ steps, step.Passes change) {promoting : Bool} {before after : Exchange}
    (given : (runSteps promoting steps before).Gives after) : change before after := by
  induction steps generalizing promoting before with
  | nil =>
      obtain rfl := Routine.gives_pure.mp given
      exact passage.still rfl
  | cons step rest inductionHypothesis =>
      unfold runSteps at given
      by_cases stop : before.flag .routeStop = true
      · rw [if_pos stop] at given
        obtain rfl := Routine.gives_pure.mp given
        exact passage.still rfl
      · rw [if_neg stop] at given
        obtain ⟨between, called, followed⟩ := Routine.gives_bind.mp given
        have promoted : change before (if promoting then before.promote else before) := by
          apply passage.still
          cases promoting <;> simp
        have stepped := passage.andThen promoted
          (pass step List.mem_cons_self _ _ called)
        by_cases further : between.mayContinue = true
        · rw [if_pos further] at followed
          exact passage.andThen stepped
            (inductionHypothesis (fun other member => pass other (List.mem_cons_of_mem _ member))
              followed)
        · rw [if_neg further] at followed
          obtain rfl := Routine.gives_pure.mp followed
          exact stepped

theorem passes_pipeline (passage : Passage change) {name : String} {steps : List Processor}
    (pass : ∀ step ∈ steps, step.Passes change) : (pipeline name steps).Passes change := by
  intro before after given
  unfold pipeline at given
  rw [invoke_silent] at given
  exact passes_runSteps passage pass given

end Processor

/-! ## Idempotent consumers -/

namespace IdempotentConsumer

variable {change : Exchange → Exchange → Prop} {consumer : IdempotentConsumer}

/-- A consumer lets the exchange through to the inner step at most once. -/
theorem passes_toProcessor (passage : Passage change)
    (registers : ∀ key (exchange : Exchange), exchange.isInUnitOfWork = true →
      change exchange
        (exchange.addCompletion (.settleKey consumer.repository key consumer.options)))
    (inner : consumer.inner.Passes change) : consumer.toProcessor.Passes change := by
  intro before after given
  obtain ⟨ended, processed, rfl⟩ := Processor.gives_invoke.mp given
  suffices change before ended.1 from
    passage.andThen this (passage.still (Exchange.unitOfWork_recording ended.1 ended.2))
  rw [process_eq] at processed
  obtain ⟨admission, decided, followed⟩ := Routine.gives_bind.mp processed
  have called : ∀ marked due, admission = .admitted marked due → change marked ended.1 := by
    rintro marked due rfl
    obtain ⟨left, through, closed⟩ := Routine.gives_bind.mp followed
    obtain ⟨_, _, reported⟩ := Routine.gives_bind.mp closed
    obtain rfl := Routine.gives_pure.mp reported
    exact inner _ _ through
  rcases cases_of_assess decided with
    ⟨marked, failure, rfl, same⟩ | ⟨marked, due, rfl, same⟩ | ⟨key, inside, rfl⟩
  · obtain rfl := Routine.gives_pure.mp followed
    exact passage.still same
  · exact passage.andThen (passage.still same) (called _ _ rfl)
  · exact passage.andThen (registers key before inside) (called _ _ rfl)

end IdempotentConsumer

/-! ## Error handlers -/

namespace ErrorHandler

variable {change : Exchange → Exchange → Prop} {handler : ErrorHandler}

@[simp]
theorem unitOfWork_counted (exchange : Exchange) (redeliveries : Nat) :
    (counted exchange redeliveries).unitOfWork = exchange.unitOfWork :=
  rfl

@[simp]
theorem unitOfWork_settled (exchange : Exchange) (redeliveries : Nat) :
    (settled exchange redeliveries).unitOfWork = exchange.unitOfWork := by
  unfold settled
  split <;> rfl

theorem unitOfWork_ranOut (after : Exchange) (failure : Failure) (redeliveries : Nat) :
    (ranOut after failure redeliveries).unitOfWork = after.unitOfWork := by
  unfold ranOut markedExhausted
  simp

theorem unitOfWork_forDeadLetter (policy : Option ExceptionPolicy) (entry : Option Message)
    (name : String) (exchange : Exchange) :
    (handler.forDeadLetter policy entry name exchange).unitOfWork = exchange.unitOfWork := by
  unfold forDeadLetter
  split <;> rfl

theorem unitOfWork_conclusion (policy : Option ExceptionPolicy) (failure : Failure)
    (deliveredTo : Option String) (exchange : Exchange) :
    (handler.conclusion policy failure deliveredTo exchange).1.unitOfWork =
      exchange.unitOfWork := by
  unfold conclusion
  split <;> rfl

/-- What runs before the redeliveries of the handler changes exchanges in the given way. -/
def HooksPass (change : Exchange → Exchange → Prop) (handler : ErrorHandler) : Prop :=
  ∀ failure hook, handler.hookUnder (handler.policyFor failure) = some hook → hook.Passes change

def Preparation.Passes (change : Exchange → Exchange → Prop) (preparation : Preparation) : Prop :=
  ∀ hook, preparation.hook = some hook → hook.Passes change

theorem Prepared.passes (passage : Passage change) {preparation : Option Preparation}
    {exchange ready : Exchange} {history : History}
    (prepared : Prepared preparation exchange history ready)
    (hooks : ∀ held ∈ preparation, held.Passes change) : change exchange ready := by
  cases prepared with
  | first => exact passage.still rfl
  | unhooked => exact passage.still rfl
  | hooked _ ran =>
      have ready : change exchange (cleared exchange) := passage.still rfl
      exact passage.andThen ready (hooks _ rfl _ rfl _ _ ran)

theorem Attempted.passes (passage : Passage change) {preparation : Option Preparation}
    {exchange after : Exchange} {history : History}
    (attempted : Attempted handler preparation exchange history after)
    (output : handler.output.Passes change)
    (hooks : ∀ held ∈ preparation, held.Passes change) : change exchange after := by
  cases attempted with
  | ran prepared _ ran => exact passage.andThen (prepared.passes passage hooks) (output _ _ ran)
  | withheld prepared => exact prepared.passes passage hooks

/-- Up to an attempt, the exchange has changed in the given way, and what precedes the attempt
changes it so again. -/
theorem Reached.passes (passage : Passage change) {start standing : Standing} {earlier : History}
    (reached : Reached handler start earlier standing)
    (output : handler.output.Passes change)
    (hooks : handler.HooksPass change)
    (unprepared : start.preparation = none) :
    change start.exchange standing.exchange ∧
      ∀ held ∈ standing.preparation, held.Passes change := by
  induction reached with
  | start =>
      refine ⟨passage.still rfl, ?_⟩
      rw [unprepared]
      simp
  | again _ retried inductionHypothesis =>
      obtain ⟨before, prepared⟩ := inductionHypothesis
      cases retried with
      | @caught _ _ _ _ _ after _ failure attempted =>
          refine ⟨?_, ?_⟩
          · exact passage.andThen before
              (passage.andThen (attempted.passes passage output prepared) (passage.still rfl))
          · intro held member
            obtain rfl := Option.mem_some.mp member
            intro hook found
            exact hooks failure hook found

def DestinationsPass (change : Exchange → Exchange → Prop) (handler : ErrorHandler) : Prop :=
  ∀ policy broker deadLetter, handler.destination policy broker = .ok (some deadLetter) →
    deadLetter.processor.Passes change

theorem Ended.passes (passage : Passage change) {policy : Option ExceptionPolicy}
    {failure : Failure} {entry : Option Message} {marked : Exchange} {history : History}
    {result : Exchange × Outcome}
    (ended : Ended handler policy failure entry marked history result)
    (destinations : handler.DestinationsPass change) : change marked result.1 := by
  cases ended with
  | unavailable => exact passage.still rfl
  | undelivered => exact passage.still (unitOfWork_conclusion ..)
  | refused broker found ran =>
      exact passage.andThen (passage.still (unitOfWork_forDeadLetter ..))
        (destinations _ broker _ found _ _ ran)
  | delivered broker found ran =>
      exact passage.andThen
        (passage.andThen (passage.still (unitOfWork_forDeadLetter ..))
          (destinations _ broker _ found _ _ ran))
        (passage.still (unitOfWork_conclusion ..))

/-- Every pass through a handler changes the exchange in the way of the processors that the handler
calls. -/
theorem passes_toProcessor (passage : Passage change)
    (output : handler.output.Passes change)
    (hooks : handler.HooksPass change)
    (destinations : handler.DestinationsPass change) : handler.toProcessor.Passes change := by
  intro before after given
  unfold toProcessor at given
  rw [Processor.invoke_silent] at given
  obtain ⟨⟨left, outcome⟩, passed, kept⟩ := Routine.gives_bind.mp given
  obtain rfl := Routine.gives_pure.mp kept
  obtain ⟨history, observed⟩ := handle_gives.mp passed
  obtain ⟨_, standing, _, reached, closing, _⟩ := course_of_observe observed
  obtain ⟨earlier, prepared⟩ := reached.passes passage output hooks rfl
  refine passage.andThen earlier ?_
  cases closing with
  | succeeded attempted => exact attempted.passes passage output prepared
  | faulted attempted => exact attempted.passes passage output prepared
  | misconfigured attempted =>
      exact passage.andThen (attempted.passes passage output prepared) (passage.still rfl)
  | exhausted attempted _ _ _ ended =>
      exact passage.andThen
        (passage.andThen (attempted.passes passage output prepared)
          (passage.still (unitOfWork_ranOut ..)))
        (ended.passes passage destinations)

end ErrorHandler

/-! ## Processors that are put together -/

namespace Processor

/-- Processors that are put together from some parts. -/
inductive Composed (part : Processor → Prop) : Processor → Prop
  | single {processor : Processor} : part processor → Composed part processor
  | pipeline {name : String} {steps : List Processor} :
      (∀ step ∈ steps, Composed part step) → Composed part (pipeline name steps)
  | handler {handler : ErrorHandler} :
      Composed part handler.output →
      (∀ failure hook, handler.hookUnder (handler.policyFor failure) = some hook →
        Composed part hook) →
      (∀ policy broker deadLetter, handler.destination policy broker = .ok (some deadLetter) →
        Composed part deadLetter.processor) →
      Composed part handler.toProcessor
  | consumer {consumer : IdempotentConsumer} :
      Composed part consumer.inner → Composed part consumer.toProcessor
  | inUnitOfWork {inner : Processor} : Composed part inner → Composed part inner.inUnitOfWork

/-- A way in which an exchange in a unit of work may change, the completions of idempotent consumers
included, is the way of every processor that is put together from parts which keep to it. -/
theorem Composed.passes {change : Exchange → Exchange → Prop} {processor : Processor}
    (composed : processor.Composed (Passes change)) (passage : Passage change)
    (registers : ∀ repository key options (exchange : Exchange), exchange.isInUnitOfWork = true →
      change exchange (exchange.addCompletion (.settleKey repository key options)))
    (outside : ∀ before after : Exchange, before.isInUnitOfWork = false → change before after) :
    processor.Passes change := by
  induction composed with
  | single part => exact part
  | pipeline _ inductionHypothesis => exact passes_pipeline passage inductionHypothesis
  | handler _ _ _ output hooks destinations =>
      exact ErrorHandler.passes_toProcessor passage output hooks destinations
  | @consumer consumer _ inductionHypothesis =>
      exact IdempotentConsumer.passes_toProcessor passage
        (fun key => registers consumer.repository key consumer.options) inductionHypothesis
  | @inUnitOfWork inner _ inductionHypothesis =>
      intro before after given
      unfold Processor.inUnitOfWork at given
      rw [invoke_silent] at given
      by_cases inside : before.isInUnitOfWork = true
      · rw [if_pos inside] at given
        exact inductionHypothesis before after given
      · exact outside before after (eq_false_of_ne_true inside)

end Processor

end MessageRouting
