import Mathlib.Data.List.Forall2
import MessageRouting.Proofs.Redelivery.Faults
import MessageRouting.Proofs.Route.Assembly
import MessageRouting.Proofs.Route.Watch

/-!
# No silent loss in a route

A route goes from one step to the next only if the step left no failure and no
mark that holds it up. So an exchange that comes out of a route without failure
and without such a mark has been through every step, in order, and each step
ended without an exception.
-/

namespace MessageRouting

namespace ErrorHandler

/-! ## When a guarded step lets the route go on -/

/-- A failure that is declared handled is marked as such. -/
theorem Ended.known?_handled {handler : ErrorHandler} {policy : Option ExceptionPolicy}
    {failure : Failure} {entry : Option Message} {marked : Exchange} {history : History}
    {result : Exchange × Outcome}
    (ended : Ended handler policy failure entry marked history result)
    (declared : result.2.isDeclared = true) :
    result.1.known? .errorHandlerHandled = some (.bool true) := by
  have conclusion : ∀ deliveredTo exchange,
      (handler.conclusion policy failure deliveredTo exchange).2.isDeclared = true →
        (handler.conclusion policy failure deliveredTo exchange).1.known? .errorHandlerHandled =
          some (.bool true) := by
    intro deliveredTo exchange
    unfold ErrorHandler.conclusion
    split
    · simp
    · intro undeclared
      contradiction
  cases ended with
  | unavailable => contradiction
  | undelivered => exact conclusion none marked declared
  | refused => contradiction
  | delivered => exact conclusion _ _ declared

/-- An attempt that leaves no exception has called the step. -/
theorem Attempted.last_step {handler : ErrorHandler} {preparation : Option Preparation}
    {exchange after : Exchange} {history : History}
    (attempted : Attempted handler preparation exchange history after)
    (unfailed : after.exception = none) :
    ∃ visit, history.steps.getLast? = some visit ∧ visit.after = after := by
  cases attempted with
  | @ran ready _ before =>
      have steps : (before ++ [.step ⟨ready, after⟩] : History).steps =
          before.steps ++ [⟨ready, after⟩] :=
        History.steps_append before [.step ⟨ready, after⟩]
      rw [steps]
      exact ⟨_, List.getLast?_concat, rfl⟩
  | withheld _ failed =>
      rw [unfailed] at failed
      contradiction

/-- A route goes on behind a guarded step only if the step succeeded in the end. -/
theorem success_of_mayContinue {handler : ErrorHandler} {exchange after : Exchange}
    {history : History} {outcome : Outcome}
    (given : (handler.observe exchange).Gives history (after, outcome))
    (further : after.mayContinue = true) :
    (∃ number, outcome = .success number) ∧
      ∃ visit, history.steps.getLast? = some visit ∧ visit.after.exception = none := by
  obtain ⟨completed, _, unhandled⟩ := Exchange.mayContinue_iff.mp further
  obtain ⟨earlier, standing, last, _, closing, rfl⟩ := course_of_observe given
  cases closing with
  | succeeded attempted unfailed =>
      obtain ⟨visit, found, rfl⟩ := attempted.last_step unfailed
      refine ⟨⟨standing.redeliveries, rfl⟩, visit, ?_, unfailed⟩
      rw [History.steps_append, List.getLast?_append, found]
      rfl
  | faulted _ _ fault =>
      rw [fault] at completed
      contradiction
  | @misconfigured after _ failure _ failed =>
      have fault : (after.setCaught failure).isFailed = true :=
        Exchange.isFailed_of_exception failed
      rw [fault] at completed
      contradiction
  | exhausted _ _ _ _ ended =>
      rcases ended.outcome with declared | ⟨failure, fatal⟩
      · rw [Exchange.flag_of_known (ended.known?_handled declared)] at unhandled
        contradiction
      · have exception := ended.exception_eq
        rw [fatal] at exception
        rw [Exchange.isFailed_of_exception exception] at completed
        contradiction

end ErrorHandler

/-! ## Runs of single steps -/

namespace StepRun

def Completed (run : StepRun) : Prop :=
  ∃ visit, run.visits.getLast? = some visit ∧ visit.after.exception = none

/-- No error handler ended the step otherwise than with success. -/
def Proceeds (run : StepRun) : Prop :=
  ∀ outcome, run.outcome = some outcome → ∃ number, outcome = .success number

theorem proceeds_of_unguarded {run : StepRun} (unguarded : run.outcome = none) : run.Proceeds := by
  intro outcome ended
  rw [unguarded] at ended
  contradiction

end StepRun

def Processor.Ran (processor : Processor) (run : StepRun) : Prop :=
  ∀ visit ∈ run.visits, (processor.invoke visit.before).Gives visit.after

namespace Watched

theorem gives_processor {ε : Type} {watched : Watched ε} {exchange after : Exchange}
    {entries : List ε} (given : (watched.invoke exchange).Gives entries after) :
    (watched.processor.invoke exchange).Gives after := by
  rw [← result_invoke]
  exact Logged.result_gives.mpr ⟨entries, given⟩

/-- A watched step is run once by each call of it, with calls of the processor only, and a route
goes on behind it only if the run was completed. -/
def RunsOnce (position : Nat) (processor : Processor) (watched : Watched StepRun) : Prop :=
  ∀ (exchange : Exchange) (runs : List StepRun) (after : Exchange),
    (watched.invoke exchange).Gives runs after →
      ∃ run, runs = [run] ∧ run.position = position ∧ processor.Ran run ∧
        (after.mayContinue = true → run.Completed ∧ run.Proceeds)

theorem runsOnce_plain (position : Nat) (processor : Processor) :
    (plain position processor).RunsOnce position processor := by
  intro exchange runs after given
  have ran := gives_processor given
  obtain ⟨_, ended, _, observed, recorded, rfl⟩ := Logged.gives_bind.mp given
  obtain ⟨rfl, rfl⟩ := Logged.gives_pure.mp recorded
  simp only [plain, Logged.gives_lift_bind, Logged.gives_log_bind, Logged.gives_pure] at observed
  obtain ⟨_, _, _, ⟨rfl, rfl⟩, rfl⟩ := observed
  refine ⟨_, rfl, rfl, ?_, ?_⟩
  · intro visit called
    obtain rfl := List.mem_singleton.mp called
    exact ran
  · intro further
    obtain ⟨completed, _⟩ := Exchange.mayContinue_iff.mp further
    exact ⟨⟨_, rfl, Exchange.exception_of_completed completed⟩,
      StepRun.proceeds_of_unguarded rfl⟩

theorem runsOnce_guarded (position : Nat) (handler : ErrorHandler) :
    (guarded position handler).RunsOnce position handler.output := by
  intro exchange runs after given
  obtain ⟨_, ended, _, observed, rest, rfl⟩ := Logged.gives_bind.mp (gives_silent.mp given)
  obtain ⟨rfl, rfl⟩ := Logged.gives_pure.mp rest
  obtain ⟨history, passed, rfl⟩ := Logged.gives_reshape.mp observed
  refine ⟨_, rfl, rfl, ?_, ?_⟩
  · exact ErrorHandler.calls_of_observe passed
  · intro further
    obtain ⟨⟨number, success⟩, completed⟩ := ErrorHandler.success_of_mayContinue passed further
    refine ⟨completed, ?_⟩
    intro outcome same
    exact ⟨number, (Option.some.inj same).symm.trans success⟩

end Watched

/-! ## Runs of several steps -/

/-- The exchange is failed, or carries a mark with which a route may have left steps out. -/
def Exchange.isHalted (exchange : Exchange) : Bool :=
  exchange.isFailed || exchange.isRollbackOnly || exchange.flag .errorHandlerHandled ||
    exchange.flag .routeStop || exchange.flag .duplicateMessage

theorem Exchange.isHalted_eq_false {exchange : Exchange} :
    exchange.isHalted = false ↔
      exchange.isFailed = false ∧ exchange.isRollbackOnly = false ∧
        exchange.flag .errorHandlerHandled = false ∧ exchange.flag .routeStop = false ∧
        exchange.flag .duplicateMessage = false := by
  simp [isHalted, and_assoc]

theorem Exchange.mayContinue_of_unhalted {exchange : Exchange}
    (unhalted : exchange.isHalted = false) : exchange.mayContinue = true := by
  obtain ⟨completed, unmarked, unhandled, _⟩ := isHalted_eq_false.mp unhalted
  exact mayContinue_iff.mpr ⟨completed, unmarked, unhandled⟩

/-- The calls of a run are calls of the step. -/
inductive RouteStep.Ran (broker : Broker) : RouteStep → StepRun → Prop
  | process {processor : Processor} {run : StepRun} :
      processor.Ran run → Ran broker (.process processor) run
  | send {uri : String} {producer : Processor} {run : StepRun} :
      broker.producer uri = .ok producer →
      (Processor.sendTo uri producer).Ran run → Ran broker (.send uri) run
  | idempotent {consumer : IdempotentConsumer} {run : StepRun} :
      consumer.toProcessor.Ran run →
      Ran broker (.idempotent consumer.key consumer.repository consumer.options) run

/-- The runs of some steps, the first of which is at the given position, and the exchange they
leave. -/
structure Orderly (broker : Broker) (position : Nat) (steps : List RouteStep)
    (runs : List StepRun) (after : Exchange) : Prop where
  ordered : runs.map StepRun.position = List.range' position runs.length
  genuine : List.Forall₂ (RouteStep.Ran broker) (steps.take runs.length) runs
  complete : after.isHalted = false → runs.length = steps.length ∧ ∀ run ∈ runs, run.Completed
  stopped : runs.Pairwise fun run _ => run.Proceeds

theorem orderly_halted {broker : Broker} {position : Nat} {steps : List RouteStep}
    {after : Exchange} (halted : after.isHalted = true) :
    Orderly broker position steps [] after where
  ordered := rfl
  genuine := .nil
  complete unhalted := by
    rw [halted] at unhalted
    contradiction
  stopped := .nil

/-- The run of one step, followed by the runs of the steps behind it. -/
theorem Orderly.cons {broker : Broker} {position : Nat} {step : RouteStep}
    {steps : List RouteStep} {run : StepRun} {runs : List StepRun} {after : Exchange}
    (orderly : Orderly broker (position + 1) steps runs after)
    (placed : run.position = position)
    (ran : step.Ran broker run)
    (completed : after.isHalted = false → run.Completed)
    (proceeds : run.Proceeds) :
    Orderly broker position (step :: steps) (run :: runs) after where
  ordered := by
    rw [List.map_cons, orderly.ordered, placed]
    rfl
  genuine := .cons ran orderly.genuine
  complete unhalted := by
    obtain ⟨length, allCompleted⟩ := orderly.complete unhalted
    refine ⟨congrArg (· + 1) length, ?_⟩
    intro other member
    rcases List.mem_cons.mp member with rfl | later
    · exact completed unhalted
    · exact allCompleted other later
  stopped := List.pairwise_cons.mpr ⟨fun _ _ => proceeds, orderly.stopped⟩

theorem orderly_single {broker : Broker} {step : RouteStep}
    {steps : List RouteStep} {run : StepRun} {after : Exchange}
    (ran : step.Ran broker run)
    (halted : after.isHalted = true) :
    Orderly broker run.position (step :: steps) [run] after where
  ordered := rfl
  genuine := .cons ran .nil
  complete unhalted := by
    rw [halted] at unhalted
    contradiction
  stopped := List.pairwise_singleton _ run

namespace Watched

/-- A step that is run once, in front of steps whose runs are orderly. -/
theorem orderly_runSteps {broker : Broker} {position : Nat} {step : RouteStep}
    {processor : Processor} {steps : List RouteStep} {first : Watched StepRun}
    {others : List (Watched StepRun)} {promoting : Bool} {exchange after : Exchange}
    {runs : List StepRun}
    (once : first.RunsOnce position processor)
    (ran : ∀ run, processor.Ran run → step.Ran broker run)
    (orderly : ∀ exchange runs after, (runSteps true others exchange).Gives runs after →
      Orderly broker (position + 1) steps runs after)
    (given : (runSteps promoting (first :: others) exchange).Gives runs after) :
    Orderly broker position (step :: steps) runs after := by
  rcases cases_of_runSteps given with
    ⟨stop, rfl, rfl⟩ | ⟨_, between, rest, called, rfl, followed⟩
  · apply orderly_halted
    simp [Exchange.isHalted, stop]
  · obtain ⟨run, rfl, rfl, genuine, ended⟩ := once _ _ _ called
    rcases followed with ⟨held, rfl, rfl⟩ | ⟨further, passed⟩
    · apply orderly_single (ran run genuine)
      cases halted : after.isHalted with
      | true => rfl
      | false =>
          rw [Exchange.mayContinue_of_unhalted halted] at held
          contradiction
    · obtain ⟨completed, proceeds⟩ := ended further
      exact (orderly between rest after passed).cons rfl (ran run genuine)
        (fun _ => completed) proceeds

end Watched

/-! ## Idempotent consumers -/

namespace IdempotentConsumer

/-- A consumer stops the exchange, or ends with what the steps behind it make of it. -/
theorem gives_observe {consumer : IdempotentConsumer} {inner : Watched StepRun}
    {exchange : Exchange} {runs : List StepRun} {ended : Exchange × Option Failure}
    (given : (consumer.observe inner exchange).Gives runs ended) :
    (runs = [] ∧ (ended.1.recording ended.2).isHalted = true) ∨
      (ended.2 = none ∧ ∃ entered, (inner.invoke entered).Gives runs ended.1) := by
  unfold observe at given
  cases found : consumer.keyOf exchange with
  | none =>
      rw [found] at given
      obtain ⟨rfl, rfl⟩ := Logged.gives_pure.mp given
      exact .inl ⟨rfl, rfl⟩
  | some key =>
      simp only [found, Logged.gives_lift_bind] at given
      obtain ⟨isNew, _, followed⟩ := given
      cases isNew with
      | true =>
          rw [if_pos rfl] at followed
          obtain ⟨_, after, _, through, reported, rfl⟩ := Logged.gives_bind.mp followed
          obtain ⟨rfl, rfl⟩ := Logged.gives_pure.mp reported
          refine .inr ⟨rfl, ?_⟩
          rw [List.append_nil]
          unfold observeLetThrough at through
          by_cases inside : exchange.isInUnitOfWork = true
          · rw [if_pos inside] at through
            exact ⟨_, through⟩
          · rw [if_neg inside] at through
            obtain ⟨own, _, _, called, settled, rfl⟩ := Logged.gives_bind.mp through
            obtain ⟨_, _, left⟩ := Logged.gives_lift_bind.mp settled
            obtain ⟨rfl, rfl⟩ := Logged.gives_pure.mp left
            rw [List.append_nil]
            exact ⟨_, called⟩
      | false =>
          rw [if_neg Bool.false_ne_true] at followed
          obtain ⟨_, after, _, through, reported, rfl⟩ := Logged.gives_bind.mp followed
          obtain ⟨rfl, rfl⟩ := Logged.gives_pure.mp reported
          rw [List.append_nil]
          simp only [observeDuplicate, Logged.gives_lift_bind] at through
          obtain ⟨_, _, _, _, through⟩ := through
          by_cases skip : consumer.options.skipDuplicate = true
          · rw [if_pos skip] at through
            obtain ⟨rfl, rfl⟩ := Logged.gives_pure.mp through
            left
            have marked :
                (exchange.put .duplicateMessage (.bool true)).flag .duplicateMessage = true :=
              Exchange.flag_of_known (by simp)
            simp [Exchange.isHalted, Exchange.recording, marked]
          · rw [if_neg skip] at through
            exact .inr ⟨rfl, _, through⟩

end IdempotentConsumer

namespace Watched

/-- A consumer's run begins before the runs of the steps behind it. -/
theorem gives_idempotent {position : Nat} {consumer : IdempotentConsumer} {id : String}
    {inner : List (Watched StepRun)} {within : consumer.inner = (pipeline id inner).processor}
    {exchange after : Exchange} {runs : List StepRun}
    (given : ((idempotent position consumer (pipeline id inner) within).invoke exchange).Gives
      runs after) :
    ∃ own, runs = ⟨position, [⟨exchange, after⟩], none⟩ :: own ∧
      (own = [] ∧ after.isHalted = true ∨
        ∃ entered, (runSteps false inner entered).Gives own after) := by
  obtain ⟨_, ended, _, observed, recorded, rfl⟩ := Logged.gives_bind.mp given
  obtain ⟨rfl, rfl⟩ := Logged.gives_pure.mp recorded
  obtain ⟨own, passed, rfl⟩ := Logged.gives_reshape.mp observed
  refine ⟨own, List.append_nil _, ?_⟩
  rcases IdempotentConsumer.gives_observe passed with stopped | ⟨unfailed, entered, called⟩
  · exact .inl stopped
  · right
    rw [unfailed]
    exact ⟨entered, gives_silent.mp called⟩

/-- A consumer that holds back duplicates, in front of steps whose runs are orderly. -/
theorem orderly_idempotent {broker : Broker} {position : Nat} {steps : List RouteStep}
    {consumer : IdempotentConsumer} {id : String} {inner : List (Watched StepRun)}
    {within : consumer.inner = (pipeline id inner).processor} {promoting : Bool}
    {exchange after : Exchange} {runs : List StepRun}
    (orderly : ∀ exchange runs after, (runSteps false inner exchange).Gives runs after →
      Orderly broker (position + 1) steps runs after)
    (given : (runSteps promoting
      [idempotent position consumer (pipeline id inner) within] exchange).Gives runs after) :
    Orderly broker position
      (.idempotent consumer.key consumer.repository consumer.options :: steps) runs after := by
  rcases cases_of_runSteps given with
    ⟨stop, rfl, rfl⟩ | ⟨_, between, rest, called, rfl, followed⟩
  · apply orderly_halted
    simp [Exchange.isHalted, stop]
  · have last : rest = [] ∧ after = between := by
      rcases followed with ⟨_, last⟩ | ⟨_, passed⟩
      · exact last
      · exact Logged.gives_pure.mp passed
    obtain ⟨rfl, rfl⟩ := last
    rw [List.append_nil]
    have genuine := gives_processor called
    obtain ⟨own, rfl, ended⟩ := gives_idempotent called
    have ran : (RouteStep.idempotent consumer.key consumer.repository consumer.options).Ran broker
        ⟨position, [⟨if promoting then exchange.promote else exchange, after⟩], none⟩ := by
      apply RouteStep.Ran.idempotent
      intro visit member
      obtain rfl := List.mem_singleton.mp member
      exact genuine
    rcases ended with ⟨rfl, halted⟩ | ⟨entered, passed⟩
    · exact orderly_single ran halted
    · refine (orderly entered own after passed).cons rfl ran ?_
        (StepRun.proceeds_of_unguarded rfl)
      intro unhalted
      obtain ⟨completed, _⟩ := Exchange.isHalted_eq_false.mp unhalted
      exact ⟨_, rfl, Exchange.exception_of_completed completed⟩

end Watched

/-! ## Whole routes -/

theorem output_of_build {rules : HandlerPlan} {broker : Broker} {output : Processor}
    {handler : ErrorHandler} (built : rules.build broker output = .ok handler) :
    handler.output = output := by
  obtain ⟨_, _, built⟩ := ok_of_bind built
  obtain rfl := Except.ok.inj built
  rfl

/-- A destination is the producer of an endpoint, or the processor that the rules name. -/
theorem destination_of_build {rules : HandlerPlan} {broker state : Broker} {output : Processor}
    {handler : ErrorHandler} (built : rules.build broker output = .ok handler)
    {policy : Option ExceptionPolicy} {deadLetter : DeadLetterStep}
    (found : handler.destination policy state = .ok (some deadLetter)) :
    (∃ (registered : Broker) (uri : String), registered.producer uri = .ok deadLetter.processor) ∨
      rules.deadLetter = some (.step deadLetter.name deadLetter.processor) := by
  obtain ⟨resolved, looked, made⟩ := ok_of_bind built
  obtain rfl := Except.ok.inj made
  unfold ErrorHandler.destination at found
  split at found
  · obtain ⟨producer, registered, kept⟩ := ok_of_bind found
    obtain rfl := Option.some.inj (Except.ok.inj kept)
    exact .inl ⟨state, _, registered⟩
  · obtain rfl := Except.ok.inj found
    cases planned : rules.deadLetter with
    | none =>
        rw [planned] at looked
        exact absurd (Except.ok.inj looked) nofun
    | some destination =>
        rw [planned] at looked
        obtain ⟨step, resolved, same⟩ := ok_of_map looked
        obtain rfl := Option.some.inj same
        cases destination with
        | uri uri =>
            obtain ⟨producer, registered, kept⟩ := ok_of_bind resolved
            obtain rfl := Except.ok.inj kept
            exact .inl ⟨broker, uri, registered⟩
        | step name processor =>
            obtain rfl := Except.ok.inj resolved
            exact .inr rfl

namespace RoutePlan

theorem runsOnce_of_watchGuarded {plan : RoutePlan} {broker : Broker} {position : Nat}
    {processor : Processor} {watched : Watched StepRun}
    (built : plan.watchGuarded broker position processor = .ok watched) :
    watched.RunsOnce position processor := by
  unfold watchGuarded at built
  cases found : plan.handlerPlan with
  | none =>
      rw [found] at built
      obtain rfl := Except.ok.inj built
      exact Watched.runsOnce_plain position processor
  | some rules =>
      rw [found] at built
      obtain ⟨handler, resolved, rfl⟩ := ok_of_map built
      rw [← output_of_build resolved]
      exact Watched.runsOnce_guarded position handler

theorem orderly_of_watchSteps {plan : RoutePlan} {steps : List RouteStep} {broker later : Broker}
    {position : Nat} {watched : List (Watched StepRun)}
    (built : plan.watchSteps position steps broker = .ok (watched, later))
    (promoting : Bool) (exchange : Exchange) (runs : List StepRun) (after : Exchange)
    (given : (Watched.runSteps promoting watched exchange).Gives runs after) :
    Orderly broker position steps runs after := by
  induction steps generalizing position watched later promoting exchange runs after with
  | nil =>
      obtain ⟨rfl, rfl⟩ := Prod.mk.inj (Except.ok.inj built)
      obtain ⟨rfl, rfl⟩ := Logged.gives_pure.mp given
      refine ⟨rfl, .nil, fun _ => ⟨rfl, ?_⟩, .nil⟩
      intro run member
      exact absurd member List.not_mem_nil
  | cons step rest inductionHypothesis =>
      cases step with
      | process processor =>
          obtain ⟨first, guarded, built⟩ := ok_of_bind built
          obtain ⟨others, assembled, built⟩ := ok_of_bind built
          obtain ⟨rfl, rfl⟩ := Prod.mk.inj (Except.ok.inj built)
          exact Watched.orderly_runSteps (runsOnce_of_watchGuarded guarded)
            (fun _ => RouteStep.Ran.process) (inductionHypothesis assembled true) given
      | send uri =>
          obtain ⟨producer, registered, built⟩ := ok_of_bind built
          obtain ⟨first, guarded, built⟩ := ok_of_bind built
          obtain ⟨others, assembled, built⟩ := ok_of_bind built
          obtain ⟨rfl, rfl⟩ := Prod.mk.inj (Except.ok.inj built)
          exact Watched.orderly_runSteps (runsOnce_of_watchGuarded guarded)
            (fun _ => RouteStep.Ran.send registered) (inductionHypothesis assembled true) given
      | idempotent key repository options =>
          obtain ⟨inner, assembled, built⟩ := ok_of_bind built
          obtain ⟨rfl, rfl⟩ := Prod.mk.inj (Except.ok.inj built)
          exact Watched.orderly_idempotent (inductionHypothesis assembled false) given

/-- The end of a unit of work neither halts an exchange nor lets it go on. -/
theorem isHalted_endUnitOfWork {exchange after : Exchange}
    (given : exchange.endUnitOfWork.Gives after) : after.isHalted = exchange.isHalted := by
  unfold Exchange.endUnitOfWork at given
  cases found : exchange.unitOfWork with
  | none =>
      rw [found] at given
      obtain rfl := Routine.gives_pure.mp given
      rfl
  | some unit =>
      rw [found] at given
      obtain ⟨_, _, left⟩ := Routine.gives_bind.mp given
      obtain rfl := Routine.gives_pure.mp left
      rfl

theorem orderly_inUnitOfWork {broker : Broker} {steps : List RouteStep} {id : String}
    {watched : List (Watched StepRun)} {exchange after : Exchange} {runs : List StepRun}
    (orderly : ∀ exchange runs after, (Watched.runSteps false watched exchange).Gives runs after →
      Orderly broker 0 steps runs after)
    (given : ((Watched.pipeline id watched).inUnitOfWork.invoke exchange).Gives runs after) :
    Orderly broker 0 steps runs after := by
  have passed := Watched.gives_silent.mp given
  by_cases inside : exchange.isInUnitOfWork = true
  · rw [if_pos inside] at passed
    exact orderly _ _ _ (Watched.gives_silent.mp passed)
  · rw [if_neg inside] at passed
    obtain ⟨own, between, rest, called, ended, rfl⟩ := Logged.gives_bind.mp passed
    obtain ⟨rfl, left⟩ := Logged.gives_lift.mp ended
    rw [List.append_nil]
    have first := orderly _ _ _ (Watched.gives_silent.mp called)
    refine ⟨first.ordered, first.genuine, ?_, first.stopped⟩
    rw [isHalted_endUnitOfWork left]
    exact first.complete

/-- Sending leaves the exchange as the steps of the route left it. -/
theorem gives_send {watched : WatchedRoute} {exchange : Exchange} {runs : List StepRun}
    {result : Except Failure Exchange} (given : (watched.send exchange).Gives runs result) :
    ∃ after, (watched.watched.invoke exchange).Gives runs after ∧
      ∀ answer, result = .ok answer → answer = after := by
  simp only [WatchedRoute.send, Logged.gives_lift_bind] at given
  obtain ⟨_, _, given⟩ := given
  obtain ⟨own, after, rest, passed, followed, rfl⟩ := Logged.gives_bind.mp given
  simp only [Logged.gives_lift_bind, Logged.gives_pure] at followed
  obtain ⟨_, _, _, _, _, _, rfl, rfl⟩ := followed
  rw [List.append_nil]
  refine ⟨after, passed, ?_⟩
  intro answer same
  cases failed : after.exception with
  | none =>
      rw [failed] at same
      exact (Except.ok.inj same).symm
  | some =>
      rw [failed] at same
      contradiction

theorem orderly_of_watch {plan : RoutePlan} {broker later : Broker} {watched : WatchedRoute}
    (built : plan.watch broker = .ok (watched, later)) {exchange after : Exchange}
    {runs : List StepRun} (given : (watched.watched.invoke exchange).Gives runs after) :
    Orderly broker 0 plan.steps runs after := by
  have assembled : ∃ steps, plan.watchSteps 0 plan.steps broker = .ok steps ∧
      watched.watched = (Watched.pipeline plan.id steps.1).inUnitOfWork := by
    unfold watch at built
    cases empty : plan.steps.isEmpty with
    | true =>
        rw [empty] at built
        contradiction
    | false =>
        rw [empty] at built
        cases found : plan.source with
        | none =>
            rw [found] at built
            obtain ⟨steps, assembled, built⟩ := ok_of_bind built
            obtain ⟨rfl, _⟩ := Prod.mk.inj (Except.ok.inj built)
            exact ⟨steps, assembled, rfl⟩
        | some uri =>
            rw [found] at built
            obtain ⟨_, _, built⟩ := ok_of_bind built
            obtain ⟨steps, assembled, built⟩ := ok_of_bind built
            obtain ⟨rfl, _⟩ := Prod.mk.inj (Except.ok.inj built)
            exact ⟨steps, assembled, rfl⟩
  obtain ⟨steps, assembled, same⟩ := assembled
  rw [same] at given
  exact orderly_inUnitOfWork (orderly_of_watchSteps assembled false) given

/-- Every run of a route that was built goes through its steps in order. If the exchange comes out
without failure and without a mark that holds it up, then every step was called, and its last call
ended without an exception. Behind a step whose error handler ended otherwise than with success, no
step is called. -/
theorem no_silent_loss {plan : RoutePlan} {broker later : Broker} {route : Route}
    (built : plan.build broker = .ok (route, later)) :
    ∃ watched : WatchedRoute, plan.watch broker = .ok (watched, later) ∧ watched.route = route ∧
      ∀ exchange, (watched.send exchange).result = route.send exchange ∧
        ∀ runs result, (watched.send exchange).Gives runs result →
          runs.map StepRun.position = List.range runs.length ∧
          List.Forall₂ (RouteStep.Ran broker) (plan.steps.take runs.length) runs ∧
          (∀ after, result = .ok after → after.isFailed = false →
            after.flag .rollbackOnly = false → after.flag .errorHandlerHandled = false →
            after.flag .routeStop = false → after.flag .duplicateMessage = false →
            runs.length = plan.steps.length ∧
              ∀ run ∈ runs, ∃ visit, run.visits.getLast? = some visit ∧
                visit.after.exception = none) ∧
          (∀ earlier run following outcome, runs = earlier ++ run :: following →
            run.outcome = some outcome → (∀ number, outcome ≠ .success number) →
            following = []) := by
  rw [← map_watch] at built
  obtain ⟨⟨watched, broker'⟩, watching, same⟩ := ok_of_map built
  obtain ⟨rfl, rfl⟩ := Prod.mk.inj same
  refine ⟨watched, watching, rfl, ?_⟩
  intro exchange
  refine ⟨watched.result_send exchange, ?_⟩
  intro runs result given
  obtain ⟨after, passed, answered⟩ := gives_send given
  have orderly := orderly_of_watch watching passed
  refine ⟨?_, orderly.genuine, ?_, ?_⟩
  · rw [List.range_eq_range']
    exact orderly.ordered
  · intro answer same completed unmarked unhandled unstopped fresh
    obtain rfl := answered answer same
    exact orderly.complete
      (Exchange.isHalted_eq_false.mpr ⟨completed, unmarked, unhandled, unstopped, fresh⟩)
  · intro earlier run following outcome whole ended unsuccessful
    have stopped := orderly.stopped
    rw [whole] at stopped
    cases following with
    | nil => rfl
    | cons next rest =>
        obtain ⟨_, behind, _⟩ := List.pairwise_append.mp stopped
        have proceeds := (List.pairwise_cons.mp behind).1 next List.mem_cons_self
        obtain ⟨number, success⟩ := proceeds outcome ended
        exact absurd success (unsuccessful number)

/-- A route of two steps, the first of which fails once. -/
def relay : RoutePlan where
  id := "relay"
  steps :=
    [.process (.ofFunction "recovering" fun exchange =>
        (exchange, if exchange.flag .redelivered then none else some (.plain "refused"))),
      .process (.ofFunction "keeping" fun exchange => (exchange, none))]
  errorHandler := some { redelivery := { maximum := 2, pattern := some ⟨[]⟩ } }

def relayRoute : Route where
  id := relay.id
  source := none
  processor :=
    (Processor.pipeline relay.id (relay.steps.filterMap fun
      | .process processor => some (ErrorHandler.toProcessor
          { rules := { redelivery := { maximum := 2, pattern := some ⟨[]⟩ } }
            output := processor })
      | _ => none)).inUnitOfWork
  metrics := none

/-- The exchange gets through both steps. -/
theorem no_silent_loss_relay :
    ∃ (watched : WatchedRoute) (runs : List StepRun) (after : Exchange),
      (watched.send ErrorHandler.fresh).Gives runs (.ok after) ∧
        watched.route = relayRoute ∧ runs.length = 2 := by
  have built : relay.build default = .ok (relayRoute, default) := rfl
  have unhalted : (((relayRoute.send ErrorHandler.fresh).run default).1.map
      Exchange.isHalted).toOption = some false := by
    decide +kernel
  obtain ⟨watched, _, same, sends⟩ := no_silent_loss built
  obtain ⟨erased, runs⟩ := sends ErrorHandler.fresh
  have given := Logged.gives_alone (watched.send ErrorHandler.fresh) default
  rw [← erased, Logged.run_result] at unhalted
  cases result : ((watched.send ErrorHandler.fresh).alone default).2 with
  | error =>
      rw [result] at unhalted
      contradiction
  | ok after =>
      rw [result] at unhalted given
      obtain ⟨completed, unmarked, unhandled, unstopped, isNew⟩ :=
        Exchange.isHalted_eq_false.mp (Option.some.inj unhalted)
      obtain ⟨_, _, complete, _⟩ := runs _ _ given
      obtain ⟨all, _⟩ := complete after rfl completed unmarked unhandled unstopped isNew
      exact ⟨watched, _, after, given, same, all⟩

end RoutePlan

end MessageRouting
