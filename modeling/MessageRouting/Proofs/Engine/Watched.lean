import MessageRouting.Engine.Pipeline
import MessageRouting.Engine.UnitOfWork
import MessageRouting.Proofs.Engine.Log

/-!
# Watched processors

A processor is watched by a version of it that keeps a log and is the processor
itself without that log. Watching goes through pipelines and units of work, so
that the log of a composed processor is put together from those of its parts.
-/

namespace MessageRouting

def Exchange.recording (exchange : Exchange) : Option Failure → Exchange
  | some failure => exchange.fail failure
  | none => exchange

/-- A processor and a version of it that keeps a log. -/
structure Watched (ε : Type) where
  processor : Processor
  observe : Exchange → Logged ε Broker (Exchange × Option Failure)
  faithful : ∀ exchange, (observe exchange).result = processor.process exchange

namespace Watched

variable {ε : Type}

def invoke (watched : Watched ε) (exchange : Exchange) : Logged ε Broker Exchange := do
  let (after, failure) ← watched.observe exchange
  return after.recording failure

@[simp]
theorem result_invoke (watched : Watched ε) (exchange : Exchange) :
    (watched.invoke exchange).result = watched.processor.invoke exchange := by
  unfold invoke Processor.invoke
  rw [Logged.result_bind, watched.faithful]
  congr 1

/-- Runs watched steps in order, as a pipeline does. -/
def runSteps (promoting : Bool) : List (Watched ε) → Exchange → Logged ε Broker Exchange
  | [], exchange => pure exchange
  | step :: rest, exchange =>
      if exchange.flag .routeStop then pure exchange
      else do
        let after ← step.invoke (if promoting then exchange.promote else exchange)
        if after.mayContinue then runSteps true rest after else pure after

@[simp]
theorem result_runSteps (promoting : Bool) (steps : List (Watched ε)) (exchange : Exchange) :
    (runSteps promoting steps exchange).result =
      Processor.runSteps promoting (steps.map processor) exchange := by
  induction steps generalizing promoting exchange with
  | nil => rfl
  | cons step rest inductionHypothesis =>
      simp [runSteps, Processor.runSteps, inductionHypothesis]

/-! ## The first step -/

/-- The exchange as the next step gets it stops a route only if it did before. -/
theorem flag_ready (promoting : Bool) (exchange : Exchange) :
    (if promoting then exchange.promote else exchange).flag .routeStop =
      exchange.flag .routeStop := by
  cases promoting with
  | false => rfl
  | true =>
      change exchange.promote.flag .routeStop = _
      unfold Exchange.promote
      cases exchange.outbound <;> rfl

/-- A stopped exchange is held back in front of the steps. -/
theorem runSteps_stopped (promoting : Bool) (steps : List (Watched ε)) {exchange : Exchange}
    (stopped : exchange.flag .routeStop = true) :
    runSteps promoting steps exchange = pure exchange := by
  cases steps with
  | nil => rfl
  | cons first rest => exact if_pos stopped

/-- What the first step promotes may be promoted before. -/
theorem runSteps_ready (promoting : Bool) (first : Watched ε) (rest : List (Watched ε))
    {exchange : Exchange} (unstopped : exchange.flag .routeStop = false) :
    runSteps promoting (first :: rest) exchange =
      runSteps false (first :: rest) (if promoting then exchange.promote else exchange) := by
  unfold runSteps
  rw [flag_ready, unstopped]
  rfl

/-! ## Composed processors -/

/-- A watched processor that reports no failure of its own. -/
def silent (name : String) (body : Exchange → Routine Broker Exchange)
    (watch : Exchange → Logged ε Broker Exchange)
    (faithful : ∀ exchange, (watch exchange).result = body exchange) : Watched ε where
  processor := .silent name body
  observe exchange := do
    let after ← watch exchange
    return (after, none)
  faithful exchange := by
    rw [Logged.result_bind, faithful]
    rfl

def pipeline (name : String) (steps : List (Watched ε)) : Watched ε :=
  silent name (Processor.runSteps false (steps.map processor)) (runSteps false steps)
    (result_runSteps false steps)

def inUnitOfWork (inner : Watched ε) : Watched ε :=
  silent "unit-of-work"
    (fun exchange =>
      if exchange.isInUnitOfWork then inner.processor.invoke exchange
      else do
        let exchange ← inner.processor.invoke exchange.enterUnitOfWork
        exchange.endUnitOfWork)
    (fun exchange =>
      if exchange.isInUnitOfWork then inner.invoke exchange
      else do
        let after ← inner.invoke exchange.enterUnitOfWork
        Logged.lift after.endUnitOfWork)
    (by simp)

/-! ## Logs and results -/

theorem gives_silent {name : String} {body : Exchange → Routine Broker Exchange}
    {watch : Exchange → Logged ε Broker Exchange}
    {faithful : ∀ exchange, (watch exchange).result = body exchange} {exchange after : Exchange}
    {entries : List ε} :
    ((silent name body watch faithful).invoke exchange).Gives entries after ↔
      (watch exchange).Gives entries after := by
  constructor
  · intro given
    obtain ⟨_, _, _, observed, recorded, rfl⟩ := Logged.gives_bind.mp given
    obtain ⟨own, ended, _, watched, reported, rfl⟩ := Logged.gives_bind.mp observed
    obtain ⟨rfl, rfl⟩ := Logged.gives_pure.mp reported
    obtain ⟨rfl, rfl⟩ := Logged.gives_pure.mp recorded
    rw [List.append_nil, List.append_nil]
    exact watched
  · intro watched
    refine Logged.gives_bind.mpr ⟨entries, (after, none), [], ?_, ?_, ?_⟩
    · exact Logged.gives_bind.mpr
        ⟨entries, after, [], watched, Logged.gives_pure.mpr ⟨rfl, rfl⟩, (List.append_nil _).symm⟩
    · exact Logged.gives_pure.mpr ⟨rfl, rfl⟩
    · exact (List.append_nil _).symm

/-- A pipeline holds an exchange back in front of its first step, ends behind that step, or goes on
to the others. -/
theorem cases_of_runSteps {promoting : Bool} {first : Watched ε} {others : List (Watched ε)}
    {exchange after : Exchange} {entries : List ε}
    (given : (runSteps promoting (first :: others) exchange).Gives entries after) :
    (exchange.flag .routeStop = true ∧ entries = [] ∧ after = exchange) ∨
      ∃ own between rest,
        (first.invoke (if promoting then exchange.promote else exchange)).Gives own between ∧
          entries = own ++ rest ∧
          (between.mayContinue = false ∧ rest = [] ∧ after = between ∨
            between.mayContinue = true ∧ (runSteps true others between).Gives rest after) := by
  unfold runSteps at given
  by_cases stop : exchange.flag .routeStop = true
  · rw [if_pos stop] at given
    obtain ⟨nothing, same⟩ := Logged.gives_pure.mp given
    exact .inl ⟨stop, nothing, same⟩
  · rw [if_neg stop] at given
    obtain ⟨own, between, rest, called, followed, whole⟩ := Logged.gives_bind.mp given
    refine .inr ⟨own, between, rest, called, whole, ?_⟩
    by_cases further : between.mayContinue = true
    · rw [if_pos further] at followed
      exact .inr ⟨further, followed⟩
    · rw [if_neg further] at followed
      obtain ⟨nothing, same⟩ := Logged.gives_pure.mp followed
      exact .inl ⟨eq_false_of_ne_true further, nothing, same⟩

end Watched

end MessageRouting
