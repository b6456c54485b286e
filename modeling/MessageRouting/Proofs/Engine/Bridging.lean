import MessageRouting.Engine.Asynchronous
import MessageRouting.Engine.Pipeline
import MessageRouting.Proofs.Engine.Advance
import MessageRouting.Proofs.Engine.Ensures

/-!
# Processors in the form with a callback

A processor that is started in the form with a callback runs up to its first
suspension. Awaiting the callback runs the rest, so that nothing of the processor
is lost: it makes the same changes and waits as long.
-/

namespace MessageRouting

universe u v w

namespace Routine

variable {σ : Type u} {α : Type v} {β : Type w}

/-- From the state, the routine gets to its result without a suspension. -/
def EndsAtOnce (routine : Routine σ α) (state : σ) : Prop :=
  ∃ value after, routine.advance state = (.finished value, after)

/-- Where a routine stands at its first suspension, and what is left of it there. -/
theorem advance_untilSuspended (routine : Routine σ α) (state : σ) :
    (∃ value after, routine.untilSuspended.advance state = (.finished (.inl value), after) ∧
        routine.advance state = (.finished value, after) ∧
        routine.run state = (value, after, ⟨0⟩)) ∨
      ∃ rest after, routine.untilSuspended.advance state = (.finished (.inr rest), after) ∧
        ¬routine.EndsAtOnce state ∧ rest.run after = routine.run state := by
  induction routine generalizing state with
  | done value => exact .inl ⟨value, state, rfl, rfl, rfl⟩
  | get body inductionHypothesis => exact inductionHypothesis state state
  | put between body inductionHypothesis => exact inductionHypothesis between
  | sleep span body =>
      right
      refine ⟨.sleep span body, state, rfl, ?_, rfl⟩
      rintro ⟨value, after, finished⟩
      have waits : Progress.waiting span (body ()) = .finished value :=
        congrArg Prod.fst finished
      contradiction

/-- What follows upon a routine may follow upon each of the two parts. -/
theorem untilSuspended_bind_next (routine : Routine σ α) (next : α → Routine σ β) :
    (routine.untilSuspended.bind fun
      | .inl value => next value
      | .inr rest => rest.bind next) = routine.bind next := by
  induction routine with
  | done => rfl
  | get body inductionHypothesis => simp [untilSuspended, bind, inductionHypothesis]
  | put state body inductionHypothesis => simp [untilSuspended, bind, inductionHypothesis]
  | sleep => rfl

end Routine

namespace AsyncStep

/-- A processor in the form with a callback, which is awaited by a processor again. -/
def bridged (processor : Processor) : Processor :=
  (ofProcessor processor).toProcessor

theorem process_bridged (processor : Processor) (exchange : Exchange) :
    (bridged processor).process exchange =
      (processor.invoke exchange).bind fun after => .done (after, none) := by
  rw [← Routine.untilSuspended_bind_next]
  change ((processor.invoke exchange).untilSuspended.bind _).bind _ = _
  rw [Routine.bind_assoc]
  congr 1
  funext part
  cases part <;> rfl

/-- Awaiting the callback, a processor does what it does by itself. -/
@[simp]
theorem invoke_bridged (processor : Processor) :
    (bridged processor).invoke = processor.invoke := by
  funext exchange
  have awaited : (bridged processor).invoke exchange =
      ((bridged processor).process exchange).bind fun ended =>
        .done (ended.2.elim ended.1 ended.1.fail) := by
    refine congrArg (Routine.bind _) (funext fun ended => ?_)
    obtain ⟨after, _ | failure⟩ := ended <;> rfl
  rw [awaited, process_bridged, Routine.bind_assoc]
  exact Routine.bind_done (processor.invoke exchange)

end AsyncStep

namespace Processor

/-- A pipeline depends on nothing but what its steps do when they are invoked. -/
theorem runSteps_replace {step other : Processor} (same : other.invoke = step.invoke)
    (promoting : Bool) (before after : List Processor) (exchange : Exchange) :
    runSteps promoting (before ++ other :: after) exchange =
      runSteps promoting (before ++ step :: after) exchange := by
  induction before generalizing promoting exchange with
  | nil =>
      change runSteps promoting (other :: after) exchange = runSteps promoting (step :: after) exchange
      rw [runSteps, runSteps, same]
  | cons first rest inductionHypothesis =>
      have later : runSteps true (rest ++ other :: after) =
          runSteps true (rest ++ step :: after) :=
        funext (inductionHypothesis true)
      change runSteps promoting (first :: (rest ++ other :: after)) exchange =
        runSteps promoting (first :: (rest ++ step :: after)) exchange
      rw [runSteps, runSteps, later]

end Processor

namespace AsyncStep

/-- A processor that is bridged does what the processor does, and reports no failure beside the one
on the exchange. The form with a callback returns without a suspension. It has called back by then
if the processor does not suspend, else it calls back later; either way it calls back once, with the
exchange that the processor leaves, and the callback is told which of the two it was. In a pipeline,
a step and its bridged form are the same. -/
theorem bridge_transparent (processor : Processor) (exchange : Exchange) :
    ((bridged processor).process exchange = do
        let after ← processor.invoke exchange
        return (after, none)) ∧
      (bridged processor).invoke exchange = processor.invoke exchange ∧
      (∀ broker, ∃ handover between call,
        ((ofProcessor processor).start exchange).advance broker = (.finished handover, between) ∧
          (handover.isFinished = true ↔ (processor.invoke exchange).EndsAtOnce broker) ∧
          handover.earlyCalls = (if handover.isFinished then [call] else []) ∧
          (handover.calls.run between).1 = [call] ∧
          (∀ calls, handover.calls.Gives calls → calls.length = 1) ∧
          call.beforeReturn = handover.isFinished ∧
          (call.exchange, (handover.calls.run between).2) =
            (processor.invoke exchange).run broker) ∧
      ∀ name before after,
        (Processor.pipeline name (before ++ bridged processor :: after)).process =
          (Processor.pipeline name (before ++ processor :: after)).process := by
  refine ⟨process_bridged processor exchange, ?_, ?_, ?_⟩
  · rw [invoke_bridged]
  · intro broker
    rcases (processor.invoke exchange).advance_untilSuspended broker with
      ⟨after, between, part, finished, ran⟩ | ⟨rest, between, part, suspends, ran⟩
    · refine ⟨.returned after, between, ⟨after, true⟩, ?_, ?_, rfl, rfl, ?_, rfl, ran.symm⟩
      · exact Routine.advance_bind_of_finished part
      · exact ⟨fun _ => ⟨after, between, finished⟩, fun _ => rfl⟩
      · intro calls given
        rw [Routine.gives_pure.mp given]
        rfl
    · have called : (Handover.continued rest).calls.run between =
          ([⟨(rest.run between).1, false⟩], (rest.run between).2) :=
        Routine.run_bind_done rest (fun after => [Callback.mk after false]) between
      refine ⟨.continued rest, between, ⟨(rest.run between).1, false⟩, ?_, ?_, rfl, ?_, ?_, rfl, ?_⟩
      · exact Routine.advance_bind_of_finished part
      · constructor
        · intro impossible
          contradiction
        · intro endsAtOnce
          exact absurd endsAtOnce suspends
      · rw [called]
      · intro calls given
        obtain ⟨after, _, ended⟩ := Routine.gives_bind.mp given
        rw [Routine.gives_pure.mp ended]
        rfl
      · rw [called, ← ran]
  · intro name before after
    have same : Processor.runSteps false (before ++ bridged processor :: after) =
        Processor.runSteps false (before ++ processor :: after) :=
      funext (Processor.runSteps_replace (invoke_bridged processor) false before after)
    rw [Processor.pipeline, Processor.pipeline, same]

end AsyncStep

end MessageRouting
