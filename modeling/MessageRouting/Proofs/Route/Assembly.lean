import MessageRouting.Proofs.Idempotent.Admission
import MessageRouting.Proofs.Redelivery.History
import MessageRouting.Route.Basic

/-!
# How the steps of a route are put together

Building a route leaves a list of processors, in which it is not seen any more
which of them are error handlers. An assembly keeps that. Its processors are
those of the route that is built, and watched they write down the histories of
its error handlers, one after the other.
-/

namespace MessageRouting

/-! ## What was built without a failure -/

theorem ok_of_bind {ε α β : Type} {first : Except ε α} {next : α → Except ε β} {result : β}
    (built : first >>= next = .ok result) :
    ∃ value, first = .ok value ∧ next value = .ok result := by
  cases first with
  | error => contradiction
  | ok value => exact ⟨value, rfl, built⟩

theorem ok_of_map {ε α β : Type} {first : Except ε α} {change : α → β} {result : β}
    (built : first.map change = .ok result) :
    ∃ value, first = .ok value ∧ change value = result := by
  cases first with
  | error => contradiction
  | ok value => exact ⟨value, rfl, Except.ok.inj built⟩

/-! ## Assemblies -/

/-- A step as it stands in a route. -/
inductive Stage where
  | plain (processor : Processor)
  | guarded (handler : ErrorHandler)

/-- The steps of a route as they are put together. A consumer that holds back duplicates has the
steps behind it to itself. -/
inductive Assembly where
  | done
  | next (stage : Stage) (rest : Assembly)
  | behind (consumer : IdempotentConsumer) (id : String) (steps : Assembly)

namespace Watched

/-- A processor that logs nothing. -/
def unlogged (ε : Type) (processor : Processor) : Watched ε where
  processor := processor
  observe exchange := Logged.lift (processor.process exchange)
  faithful _ := Logged.result_lift _

/-- An error handler that logs the histories of its passes. -/
def handling (handler : ErrorHandler) : Watched Moment :=
  silent handler.toProcessor.name
    (fun exchange => do return (← handler.handle exchange).1)
    (fun exchange => do
      let ended ← handler.observe exchange
      return ended.1)
    (by simp [ErrorHandler.result_observe])

end Watched

namespace Stage

def processor : Stage → Processor
  | plain processor => processor
  | guarded handler => handler.toProcessor

def watch : Stage → Watched Moment
  | plain processor => .unlogged Moment processor
  | guarded handler => .handling handler

@[simp]
theorem processor_watch (stage : Stage) : stage.watch.processor = stage.processor := by
  cases stage <;> rfl

end Stage

namespace Assembly

def processors : Assembly → List Processor
  | done => []
  | next stage rest => stage.processor :: rest.processors
  | behind consumer id steps =>
      [{ consumer with inner := .pipeline id steps.processors : IdempotentConsumer }.toProcessor]

def watch : Assembly → List (Watched Moment)
  | done => []
  | next stage rest => stage.watch :: rest.watch
  | behind consumer id steps =>
      [.behind { consumer with inner := .pipeline id (steps.watch.map Watched.processor) }
        (.pipeline id steps.watch) rfl]

@[simp]
theorem map_watch (assembly : Assembly) :
    assembly.watch.map Watched.processor = assembly.processors := by
  induction assembly with
  | done => rfl
  | next stage rest inductionHypothesis =>
      simp [watch, processors, inductionHypothesis]
  | behind consumer id steps inductionHypothesis =>
      unfold watch processors
      rw [← inductionHypothesis]
      rfl

end Assembly

def Broker.recounted (broker : Broker) (duplicates : Register Nat) : Broker :=
  { broker with duplicates := duplicates }

namespace RoutePlan

def stage (plan : RoutePlan) (broker : Broker) (processor : Processor) : Except Failure Stage :=
  match plan.handlerPlan with
  | some rules => (rules.build broker processor).map Stage.guarded
  | none => .ok (.plain processor)

def assembly (plan : RoutePlan) : List RouteStep → Broker → Except Failure (Assembly × Broker)
  | [], broker => .ok (.done, broker)
  | .process processor :: rest, broker => do
      let first ← plan.stage broker processor
      let (others, broker) ← plan.assembly rest broker
      return (.next first others, broker)
  | .send uri :: rest, broker => do
      let first ← plan.stage broker (.sendTo uri (← broker.producer uri))
      let (others, broker) ← plan.assembly rest broker
      return (.next first others, broker)
  | .idempotent key repository options :: rest, broker => do
      let (steps, broker) ← plan.assembly rest broker
      let consumer : IdempotentConsumer :=
        { key := key
          repository := repository
          options := options
          duplicates := broker.duplicates.next
          metrics := plan.metrics
          inner := .pipeline plan.id steps.processors }
      return (.behind consumer plan.id steps, { broker with duplicates := broker.duplicates.add 0 })

def ofAssembly (built : Assembly × Broker) : List Processor × Broker :=
  (built.1.processors, built.2)

theorem map_stage (plan : RoutePlan) (broker : Broker) (processor : Processor) :
    (plan.stage broker processor).map Stage.processor = plan.guarded broker processor := by
  unfold stage guarded
  cases plan.handlerPlan with
  | none => rfl
  | some rules =>
      dsimp only
      cases rules.build broker processor <;> rfl

/-- The assembled processors are those of the route. -/
theorem map_assembly (plan : RoutePlan) (steps : List RouteStep) (broker : Broker) :
    (plan.assembly steps broker).map ofAssembly = plan.assemble steps broker := by
  induction steps with
  | nil => rfl
  | cons step rest inductionHypothesis =>
      cases step with
      | process processor =>
          unfold assembly assemble
          rw [← inductionHypothesis, ← map_stage plan broker processor]
          cases plan.stage broker processor with
          | error => rfl
          | ok first => cases plan.assembly rest broker <;> rfl
      | send uri =>
          unfold assembly assemble
          rw [← inductionHypothesis]
          cases broker.producer uri with
          | error => rfl
          | ok producer =>
              dsimp only [Bind.bind, Except.bind]
              rw [← map_stage plan broker (.sendTo uri producer)]
              cases plan.stage broker (.sendTo uri producer) with
              | error => rfl
              | ok first => cases plan.assembly rest broker <;> rfl
      | idempotent key repository options =>
          unfold assembly assemble
          rw [← inductionHypothesis]
          cases plan.assembly rest broker <;> rfl

variable {plan : RoutePlan} {broker later : Broker} {steps : List RouteStep} {assembly : Assembly}

theorem assemble_of_assembly (kept : plan.assembly steps broker = .ok (assembly, later)) :
    plan.assemble steps broker = .ok (assembly.processors, later) := by
  rw [← map_assembly, kept]
  rfl

/-! ## What is put together -/

/-- The step calls a processor, and stands in the route like this. -/
inductive Stands (plan : RoutePlan) (broker : Broker) : RouteStep → Stage → Prop
  | process {processor : Processor} {stage : Stage} :
      plan.stage broker processor = .ok stage → Stands plan broker (.process processor) stage
  | send {uri : String} {producer : Processor} {stage : Stage} :
      broker.producer uri = .ok producer → plan.stage broker (.sendTo uri producer) = .ok stage →
        Stands plan broker (.send uri) stage

def consumer (plan : RoutePlan) (key : Exchange → Option Value) (repository : Nat)
    (options : IdempotentOptions) (duplicates : Nat) (steps : Assembly) : IdempotentConsumer where
  key := key
  repository := repository
  options := options
  duplicates := duplicates
  metrics := plan.metrics
  inner := .pipeline plan.id steps.processors

/-- The steps are put together like this, and leave the broker like this. The last one is built
first. -/
inductive Assembles (plan : RoutePlan) (broker : Broker) :
    List RouteStep → Assembly → Broker → Prop
  | done : Assembles plan broker [] .done broker
  | next {step : RouteStep} {stage : Stage} {rest : List RouteStep} {others : Assembly}
      {later : Broker} :
      plan.Stands broker step stage → Assembles plan broker rest others later →
        Assembles plan broker (step :: rest) (.next stage others) later
  | behind {key : Exchange → Option Value} {repository : Nat} {options : IdempotentOptions}
      {rest : List RouteStep} {others : Assembly} {later : Broker} :
      Assembles plan broker rest others later →
        Assembles plan broker (.idempotent key repository options :: rest)
          (.behind (plan.consumer key repository options later.duplicates.next others) plan.id
            others)
          (later.recounted (later.duplicates.add 0))

theorem assembles_of_assembly
    (built : plan.assembly steps broker = .ok (assembly, later)) :
    plan.Assembles broker steps assembly later := by
  induction steps generalizing assembly later with
  | nil =>
      obtain ⟨rfl, rfl⟩ := Prod.mk.inj (Except.ok.inj built)
      exact .done
  | cons step rest inductionHypothesis =>
      cases step with
      | process processor =>
          obtain ⟨stage, first, built⟩ := ok_of_bind built
          obtain ⟨⟨others, between⟩, assembled, built⟩ := ok_of_bind built
          obtain ⟨rfl, rfl⟩ := Prod.mk.inj (Except.ok.inj built)
          exact .next (.process first) (inductionHypothesis assembled)
      | send uri =>
          obtain ⟨producer, registered, built⟩ := ok_of_bind built
          obtain ⟨stage, first, built⟩ := ok_of_bind built
          obtain ⟨⟨others, between⟩, assembled, built⟩ := ok_of_bind built
          obtain ⟨rfl, rfl⟩ := Prod.mk.inj (Except.ok.inj built)
          exact .next (.send registered first) (inductionHypothesis assembled)
      | idempotent key repository options =>
          obtain ⟨⟨others, between⟩, assembled, built⟩ := ok_of_bind built
          obtain ⟨rfl, rfl⟩ := Prod.mk.inj (Except.ok.inj built)
          have inner : plan.Assembles broker rest others between := inductionHypothesis assembled
          exact .behind inner

theorem Assembles.built
    (assembles : plan.Assembles broker steps assembly later) :
    plan.assembly steps broker = .ok (assembly, later) := by
  induction assembles with
  | done => rfl
  | next stands _ inductionHypothesis =>
      cases stands with
      | process first =>
          unfold RoutePlan.assembly
          rw [first]
          change (plan.assembly _ broker >>= _) = _
          rw [inductionHypothesis]
          rfl
      | send registered first =>
          unfold RoutePlan.assembly
          rw [registered]
          change (plan.stage broker _ >>= _) = _
          rw [first]
          change (plan.assembly _ broker >>= _) = _
          rw [inductionHypothesis]
          rfl
  | behind _ inductionHypothesis =>
      unfold RoutePlan.assembly
      rw [inductionHypothesis]
      rfl

/-- The steps that a route is written down with are not looked at otherwise when it is built. -/
theorem assembly_steps (plan : RoutePlan) (listed steps : List RouteStep) (broker : Broker) :
    RoutePlan.assembly { plan with steps := listed } steps broker = plan.assembly steps broker := by
  induction steps with
  | nil => rfl
  | cons step rest inductionHypothesis =>
      cases step <;> unfold RoutePlan.assembly <;> rw [inductionHypothesis] <;> rfl

end RoutePlan

namespace Watched

variable {ε : Type}

def sendThrough (watched : Watched ε) (route : Route) (exchange : Exchange) :
    Logged ε Broker (Except Failure Exchange) := do
  let started ← Logged.lift Broker.readCalendar
  let exchange ← watched.invoke exchange
  Logged.lift (Broker.count route.metrics fun metrics => metrics.recordExchange exchange.isFailed)
  let ended ← Logged.lift Broker.readCalendar
  Logged.lift (Broker.count route.metrics fun metrics => metrics.recordLatency ⟨ended - started⟩)
  return match exchange.exception with
    | some source => .error (.routing exchange.id.text source)
    | none => .ok exchange

theorem result_sendThrough {watched : Watched ε} {route : Route}
    (same : watched.processor = route.processor) (exchange : Exchange) :
    (watched.sendThrough route exchange).result = route.send exchange := by
  unfold sendThrough Route.send
  rw [Logged.result_bind, Logged.result_lift]
  congr 1
  funext started
  rw [Logged.result_bind, result_invoke, same]
  congr 1
  funext after
  cases failed : after.exception <;> simp

/-- What is logged of sending is logged of the processor. -/
theorem gives_sendThrough {watched : Watched ε} {route : Route} {exchange : Exchange}
    {entries : List ε} {answer : Except Failure Exchange}
    (given : (watched.sendThrough route exchange).Gives entries answer) :
    ∃ after, (watched.invoke exchange).Gives entries after := by
  obtain ⟨_, _, followed⟩ := Logged.gives_lift_bind.mp given
  obtain ⟨own, after, rest, passed, counted, rfl⟩ := Logged.gives_bind.mp followed
  simp only [Logged.gives_lift_bind, Logged.gives_pure] at counted
  obtain ⟨_, _, _, _, _, _, rfl, _⟩ := counted
  rw [List.append_nil]
  exact ⟨after, passed⟩

end Watched

end MessageRouting
