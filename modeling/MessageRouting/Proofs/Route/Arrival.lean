import MessageRouting.Proofs.Route.Assembly
import MessageRouting.Proofs.Route.NoSilentLoss
import MessageRouting.Proofs.UnitOfWork.Passage

/-!
# The message that arrived, at a dead letter destination

Where the rules of an error handler ask for it, a dead letter destination gets the
message with which the unit of work of the exchange began. For a unit of work that
the route began, that is the message that was sent. A unit of work that a
registration began earlier remembers what the inbound message was then.
-/

namespace MessageRouting

namespace Exchange

def Holds (exchange : Exchange) (arrival : Message) : Prop :=
  exchange.isInUnitOfWork = true ∧ exchange.arrival? = some arrival

/-- A unit of work in the hands of a processor stays there, with the message it began with. -/
def HoldsOn (before after : Exchange) : Prop :=
  ∀ arrival, before.Holds arrival → after.Holds arrival

theorem holds_congr {before after : Exchange} (same : after.unitOfWork = before.unitOfWork)
    (arrival : Message) : after.Holds arrival ↔ before.Holds arrival := by
  unfold Holds isInUnitOfWork arrival?
  rw [same]

theorem passage_holdsOn : Passage HoldsOn where
  still same arrival := (holds_congr same arrival).mpr
  andThen first second arrival held := second arrival (first arrival held)

theorem holdsOn_addCompletion (exchange : Exchange) (completion : Completion) :
    HoldsOn exchange (exchange.addCompletion completion) := by
  rintro arrival ⟨inside, arrived⟩
  unfold isInUnitOfWork at inside
  unfold arrival? at arrived
  cases found : exchange.unitOfWork with
  | none =>
      rw [found] at inside
      contradiction
  | some unit =>
      rw [found] at inside arrived
      unfold Holds isInUnitOfWork arrival? addCompletion unitOfWorkOrNew
      rw [found]
      exact ⟨inside, arrived⟩

theorem holds_enterUnitOfWork (exchange : Exchange) :
    exchange.enterUnitOfWork.Holds (exchange.arrival?.getD exchange.inbound) := by
  unfold Holds enterUnitOfWork arrival? unitOfWorkOrNew
  cases exchange.unitOfWork <;> exact ⟨rfl, rfl⟩

theorem holds_of_isInUnitOfWork {exchange : Exchange} (inside : exchange.isInUnitOfWork = true) :
    exchange.Holds (exchange.arrival?.getD exchange.inbound) := by
  unfold Holds
  unfold isInUnitOfWork at inside ⊢
  unfold arrival?
  cases found : exchange.unitOfWork with
  | none =>
      rw [found] at inside
      contradiction
  | some unit =>
      rw [found] at inside
      exact ⟨inside, rfl⟩

end Exchange

/-! ## What a history delivers -/

/-- Each delivery is made for the last failure that was caught, and if that failure is due the
message, the message is all that is delivered. -/
def History.Restores (due : Failure → Bool) (arrival : Message) (history : History) : Prop :=
  ∀ (earlier : History) name visit (rest : History),
    history = earlier ++ .delivery name visit :: rest →
      ∃ failure, earlier.failures.getLast? = some failure ∧
        (due failure = true → visit.before.inbound = arrival ∧ visit.before.outbound = none)

namespace History

variable {due : Failure → Bool} {arrival : Message}

theorem restores_of_undelivered {history : History} (undelivered : history.deliveries = []) :
    history.Restores due arrival := by
  rintro earlier name visit rest rfl
  rw [deliveries_append] at undelivered
  exact absurd (List.append_eq_nil_iff.mp undelivered).2 (List.cons_ne_nil _ _)

theorem Restores.append {first second : History} (before : first.Restores due arrival)
    (after : second.Restores due arrival) : (first ++ second : History).Restores due arrival := by
  intro earlier name visit rest whole
  rcases List.append_eq_append_iff.mp whole with ⟨own, rfl, split⟩ | ⟨own, split, tail⟩
  · obtain ⟨failure, last, restored⟩ := after own name visit rest split
    refine ⟨failure, ?_, restored⟩
    rw [failures_append, List.getLast?_append, last]
    rfl
  · cases own with
    | nil =>
        obtain ⟨failure, last, _⟩ := after [] name visit rest tail.symm
        contradiction
    | cons moment others =>
        obtain ⟨rfl, _⟩ := List.cons.inj tail
        exact before earlier name visit others split

/-- The moments up to a delivery, and the delivery. -/
theorem restores_concat {before : History} {failure : Failure} {name : String} {visit : Visit}
    (undelivered : before.deliveries = []) (caught : before.failures.getLast? = some failure)
    (restored : due failure = true → visit.before.inbound = arrival ∧ visit.before.outbound = none) :
    (before ++ [.delivery name visit] : History).Restores due arrival := by
  intro earlier name' visit' rest whole
  rcases List.append_eq_append_iff.mp whole with ⟨own, rfl, split⟩ | ⟨own, split, tail⟩
  · cases own with
    | nil =>
        obtain ⟨same, _⟩ := List.cons.inj split
        obtain ⟨rfl, rfl⟩ := Moment.delivery.inj same
        rw [List.append_nil]
        exact ⟨failure, caught, restored⟩
    | cons moment others =>
        have nothing := (List.cons.inj split).2
        simp at nothing
  · cases own with
    | nil =>
        obtain ⟨same, _⟩ := List.cons.inj tail
        obtain ⟨rfl, rfl⟩ := Moment.delivery.inj same
        rw [List.append_nil] at split
        rw [← split]
        exact ⟨failure, caught, restored⟩
    | cons moment others =>
        obtain ⟨rfl, _⟩ := List.cons.inj tail
        rw [split, deliveries_append] at undelivered
        exact absurd (List.append_eq_nil_iff.mp undelivered).2 (List.cons_ne_nil _ _)

end History

/-! ## Error handlers -/

/-- A dead letter destination that is called for the failure gets the message that arrived. -/
def HandlerRules.restoresArrival {δ : Type} (rules : HandlerRules δ) (failure : Failure) : Bool :=
  ((rules.strategy rules.policies failure).bind ExceptionPolicy.useArrival).getD rules.useArrival

/-- What runs before a redelivery that follows the failure, if anything does. -/
def HandlerRules.hookFor {δ : Type} (rules : HandlerRules δ) (failure : Failure) :
    Option Processor :=
  ((rules.strategy rules.policies failure).bind ExceptionPolicy.onRedelivery).or rules.onRedelivery

namespace ErrorHandler

variable {handler : ErrorHandler} {arrival : Message}

theorem inbound_forDeadLetter {failure : Failure} {entry : Option Message} {name : String}
    {exchange : Exchange} (held : exchange.Holds arrival)
    (due : handler.rules.restoresArrival failure = true) :
    (handler.forDeadLetter (handler.policyFor failure) entry name exchange).inbound = arrival ∧
      (handler.forDeadLetter (handler.policyFor failure) entry name exchange).outbound = none := by
  have uses : handler.usesArrival (handler.policyFor failure) = true := due
  have chosen : handler.original? (handler.policyFor failure) entry exchange = some arrival := by
    rw [original?, if_pos uses, held.2, Option.some_or]
  rw [forDeadLetter, chosen]
  exact ⟨rfl, rfl⟩

/-- The exhausted path delivers the message that arrived. -/
theorem Ended.restores {failure : Failure} {entry : Option Message} {marked : Exchange}
    {before history : History} {result : Exchange × Outcome}
    (ended : Ended handler (handler.policyFor failure) failure entry marked history result)
    (held : marked.Holds arrival) (undelivered : before.deliveries = [])
    (caught : before.failures.getLast? = some failure) :
    (before ++ history : History).Restores handler.rules.restoresArrival arrival := by
  have quiet : (before ++ [] : History).Restores handler.rules.restoresArrival arrival := by
    rw [List.append_nil]
    exact History.restores_of_undelivered undelivered
  cases ended with
  | unavailable => exact quiet
  | undelivered => exact quiet
  | refused =>
      exact History.restores_concat undelivered caught fun due => inbound_forDeadLetter held due
  | delivered =>
      exact History.restores_concat undelivered caught fun due => inbound_forDeadLetter held due

/-- A pass delivers the message that arrived, and an exchange that goes on from it still holds
that message. -/
theorem restores_of_observe {exchange after : Exchange} {history : History} {outcome : Outcome}
    (output : handler.output.Passes Exchange.HoldsOn)
    (hooks : handler.HooksPass Exchange.HoldsOn)
    (held : exchange.Holds arrival)
    (given : (handler.observe exchange).Gives history (after, outcome)) :
    history.Restores handler.rules.restoresArrival arrival ∧
      (after.mayContinue = true → after.Holds arrival) := by
  have goesOn : after.mayContinue = true → ∃ number, outcome = .success number :=
    fun further => (success_of_mayContinue given further).1
  obtain ⟨earlier, standing, last, reached, closing, rfl⟩ := course_of_observe given
  obtain ⟨change, prepared⟩ := reached.passes Exchange.passage_holdsOn output hooks rfl
  have undelivered := reached.underway.undelivered
  have quiet : ∀ {attempt : History}, attempt.deliveries = [] →
      (earlier ++ attempt : History).Restores handler.rules.restoresArrival arrival := by
    intro attempt none
    apply History.restores_of_undelivered
    rw [History.deliveries_append, undelivered, none]
    rfl
  cases closing with
  | succeeded attempted =>
      have kept := attempted.passes Exchange.passage_holdsOn output prepared
      exact ⟨quiet attempted.moments.2.2.1, fun _ => kept arrival (change arrival held)⟩
  | faulted attempted =>
      refine ⟨quiet attempted.moments.2.2.1, ?_⟩
      intro further
      obtain ⟨_, impossible⟩ := goesOn further
      contradiction
  | @misconfigured _ attempt failure attempted =>
      refine ⟨quiet ?_, ?_⟩
      · rw [History.deliveries_append, attempted.moments.2.2.1]
        rfl
      · intro further
        obtain ⟨_, impossible⟩ := goesOn further
        contradiction
  | @exhausted ran attempt rest failure _ attempted _ _ _ ended =>
      have kept := attempted.passes Exchange.passage_holdsOn output prepared
      have marked : (ranOut ran failure standing.redeliveries).Holds arrival :=
        (Exchange.holds_congr (unitOfWork_ranOut ran failure standing.redeliveries) arrival).mpr
          (kept arrival (change arrival held))
      refine ⟨?_, ?_⟩
      · have path : (earlier ++ attempt ++
            [.caught failure, .exhausted (ranOut ran failure standing.redeliveries)] ++
              rest : History).Restores handler.rules.restoresArrival arrival := by
          apply ended.restores marked
          · rw [History.deliveries_append, History.deliveries_append, undelivered,
              attempted.moments.2.2.1]
            rfl
          · rw [History.failures_append, List.getLast?_append]
            rfl
        simpa using path
      · intro further
        obtain ⟨_, success⟩ := goesOn further
        rcases ended.outcome with declared | ⟨_, fatal⟩
        · rw [success] at declared
          contradiction
        · rw [success] at fatal
          contradiction

end ErrorHandler

/-! ## Pipelines -/

namespace Watched

variable {due : Failure → Bool}

/-- What the processor delivers is the message that arrived, where that is due, and an exchange
that goes on from it still holds that message. -/
def Restores (due : Failure → Bool) (watched : Watched Moment) : Prop :=
  ∀ (arrival : Message) (exchange after : Exchange) (history : History),
    exchange.Holds arrival → (watched.invoke exchange).Gives history after →
      history.Restores due arrival ∧ (after.mayContinue = true → after.Holds arrival)

theorem restores_handling {handler : ErrorHandler}
    (output : handler.output.Passes Exchange.HoldsOn)
    (hooks : handler.HooksPass Exchange.HoldsOn) :
    (handling handler).Restores handler.rules.restoresArrival := by
  intro arrival exchange after history held given
  obtain ⟨own, ended, _, observed, rest, rfl⟩ := Logged.gives_bind.mp (gives_silent.mp given)
  obtain ⟨rfl, rfl⟩ := Logged.gives_pure.mp rest
  rw [List.append_nil]
  exact ErrorHandler.restores_of_observe output hooks held observed

theorem restores_runSteps {steps : List (Watched Moment)} (restore : ∀ step ∈ steps, step.Restores due)
    {promoting : Bool} {arrival : Message} {exchange after : Exchange} {history : History}
    (held : exchange.Holds arrival)
    (given : (runSteps promoting steps exchange).Gives history after) :
    history.Restores due arrival ∧ (after.mayContinue = true → after.Holds arrival) := by
  induction steps generalizing promoting exchange history with
  | nil =>
      obtain ⟨rfl, rfl⟩ := Logged.gives_pure.mp given
      exact ⟨History.restores_of_undelivered rfl, fun _ => held⟩
  | cons step rest inductionHypothesis =>
      rcases cases_of_runSteps given with
        ⟨_, rfl, rfl⟩ | ⟨own, between, others, called, rfl, followed⟩
      · exact ⟨History.restores_of_undelivered rfl, fun _ => held⟩
      · have promoted : (if promoting then exchange.promote else exchange).Holds arrival := by
          cases promoting with
          | true => exact (Exchange.holds_congr (Exchange.unitOfWork_promote exchange) arrival).mpr held
          | false => exact held
        obtain ⟨restored, kept⟩ :=
          restore step List.mem_cons_self arrival _ between own promoted called
        rcases followed with ⟨_, rfl, rfl⟩ | ⟨further, passed⟩
        · rw [List.append_nil]
          exact ⟨restored, kept⟩
        · obtain ⟨restoredLater, keptLater⟩ := inductionHypothesis
            (fun other member => restore other (List.mem_cons_of_mem step member))
            (kept further) passed
          exact ⟨restored.append restoredLater, keptLater⟩

theorem restores_pipeline {id : String} {steps : List (Watched Moment)}
    (restore : ∀ step ∈ steps, step.Restores due) : (pipeline id steps).Restores due := by
  intro arrival exchange after history held given
  exact restores_runSteps restore held (gives_silent.mp given)

theorem restores_behind {consumer : IdempotentConsumer} {inner : Watched Moment}
    {within : consumer.inner = inner.processor} (restores : inner.Restores due) :
    (behind consumer inner within).Restores due := by
  intro arrival exchange after history held given
  obtain ⟨own, ended, _, observed, recorded, rfl⟩ := Logged.gives_bind.mp given
  obtain ⟨rfl, rfl⟩ := Logged.gives_pure.mp recorded
  rw [List.append_nil]
  obtain ⟨admission, decided, followed⟩ := Logged.gives_lift_bind.mp observed
  have called : ∀ marked dueThen, admission = .admitted marked dueThen → marked.Holds arrival →
      History.Restores due arrival own ∧
        ((ended.1.recording ended.2).mayContinue = true →
          (ended.1.recording ended.2).Holds arrival) := by
    rintro marked dueThen rfl markedHolds
    obtain ⟨inside, left, rest, through, closed, rfl⟩ := Logged.gives_bind.mp followed
    obtain ⟨_, _, reported⟩ := Logged.gives_lift_bind.mp closed
    obtain ⟨rfl, rfl⟩ := Logged.gives_pure.mp reported
    rw [List.append_nil]
    exact restores arrival marked left inside markedHolds through
  rcases IdempotentConsumer.cases_of_assess decided with
    ⟨marked, failure, rfl, same⟩ | ⟨marked, dueThen, rfl, same⟩ | ⟨key, inside, rfl⟩
  · obtain ⟨rfl, rfl⟩ := Logged.gives_pure.mp followed
    refine ⟨History.restores_of_undelivered rfl, fun _ => ?_⟩
    have kept := (Exchange.unitOfWork_recording marked failure).trans same
    exact (Exchange.holds_congr kept arrival).mpr held
  · exact called marked dueThen rfl ((Exchange.holds_congr same arrival).mpr held)
  · exact called _ _ rfl (Exchange.holdsOn_addCompletion exchange _ arrival held)

end Watched

/-! ## Routes -/

theorem Endpoint.passes_producer {change : Exchange → Exchange → Prop} (passage : Passage change)
    {uri : String} {endpoint : Endpoint} {producer : Processor}
    (found : endpoint.producer uri = .ok producer) : producer.Passes change := by
  intro before after given
  apply passage.still
  cases endpoint with
  | recording record =>
      obtain rfl := Except.ok.inj found
      obtain ⟨ended, processed, rfl⟩ := Processor.gives_invoke.mp given
      obtain ⟨_, _, looked⟩ := Routine.gives_bind.mp processed
      obtain ⟨_, _, kept⟩ := Routine.gives_bind.mp looked
      obtain rfl := Routine.gives_pure.mp kept
      exact Exchange.unitOfWork_recording _ _
  | deadLetter queue =>
      obtain rfl := Except.ok.inj found
      unfold Processor.addToQueue at given
      rw [Processor.invoke_silent] at given
      obtain ⟨_, _, added⟩ := Routine.gives_bind.mp given
      obtain ⟨_, _, kept⟩ := Routine.gives_bind.mp added
      obtain rfl := Routine.gives_pure.mp kept
      rfl
  | polling => contradiction
  | closed => contradiction

theorem Processor.passes_sendTo {change : Exchange → Exchange → Prop} (passage : Passage change)
    {uri : String} {producer : Processor} (passes : producer.Passes change) :
    (sendTo uri producer).Passes change := by
  intro before after given
  have noted : change before (before.put .toEndpoint (.text uri)) := passage.still rfl
  exact passage.andThen noted (passes _ after given)

namespace RoutePlan

/-- Steps and what runs before redeliveries leave an exchange in the unit of work that it is in. -/
structure StaysInUnitOfWork (plan : RoutePlan) : Prop where
  steps : ∀ processor, .process processor ∈ plan.steps → processor.Passes Exchange.HoldsOn
  hooks : ∀ rules failure hook, plan.errorHandler = some rules →
    rules.hookFor failure = some hook → hook.Passes Exchange.HoldsOn

variable {plan : RoutePlan} {rules : HandlerPlan}

theorem restores_stage (handles : plan.errorHandler = some rules)
    (hooks : ∀ failure hook, rules.hookFor failure = some hook → hook.Passes Exchange.HoldsOn)
    {broker : Broker} {processor : Processor} {stage : Stage}
    (keeps : processor.Passes Exchange.HoldsOn)
    (built : plan.stage broker processor = .ok stage) :
    stage.watch.Restores rules.restoresArrival := by
  have handling : plan.handlerPlan = some { rules with metrics := plan.metrics.or rules.metrics } := by
    unfold handlerPlan
    rw [handles]
    rfl
  unfold RoutePlan.stage at built
  rw [handling] at built
  obtain ⟨handler, resolved, rfl⟩ := ok_of_map built
  obtain ⟨deadLetter, _, made⟩ := ok_of_bind resolved
  obtain rfl := Except.ok.inj made
  exact Watched.restores_handling keeps hooks

theorem restores_assembly (handles : plan.errorHandler = some rules)
    (hooks : ∀ failure hook, rules.hookFor failure = some hook → hook.Passes Exchange.HoldsOn)
    {steps : List RouteStep} {broker later : Broker} {assembly : Assembly}
    (keeps : ∀ processor, .process processor ∈ steps → processor.Passes Exchange.HoldsOn)
    (assembles : plan.Assembles broker steps assembly later) :
    ∀ step ∈ assembly.watch, step.Restores rules.restoresArrival := by
  induction assembles with
  | done =>
      intro step member
      contradiction
  | next stands _ inductionHypothesis =>
      have others := inductionHypothesis fun processor member =>
        keeps processor (List.mem_cons_of_mem _ member)
      refine List.forall_mem_cons.mpr ⟨?_, others⟩
      cases stands with
      | process first => exact restores_stage handles hooks (keeps _ List.mem_cons_self) first
      | send registered first =>
          obtain ⟨endpoint, _, produced⟩ := ok_of_bind registered
          exact restores_stage handles hooks
            (Processor.passes_sendTo Exchange.passage_holdsOn
              (Endpoint.passes_producer Exchange.passage_holdsOn produced)) first
  | behind _ inductionHypothesis =>
      have steps := inductionHypothesis fun processor member =>
        keeps processor (List.mem_cons_of_mem _ member)
      intro step member
      obtain rfl := List.mem_singleton.mp member
      exact Watched.restores_behind (Watched.restores_pipeline steps)

/-- A route that is built runs its assembly in a unit of work. -/
theorem assembly_of_build {broker later : Broker} {route : Route}
    (built : plan.build broker = .ok (route, later)) :
    ∃ assembly, plan.assembly plan.steps broker = .ok (assembly, later) ∧
      route.processor = (Processor.pipeline plan.id assembly.processors).inUnitOfWork := by
  have assembled : ∃ steps, plan.assemble plan.steps broker = .ok (steps, later) ∧
      route.processor = (Processor.pipeline plan.id steps).inUnitOfWork := by
    unfold build at built
    cases empty : plan.steps.isEmpty with
    | true =>
        rw [empty] at built
        contradiction
    | false =>
        rw [empty] at built
        cases found : plan.source with
        | none =>
            rw [found] at built
            obtain ⟨steps, assembled, built⟩ := ok_of_bind built
            obtain ⟨rfl, rfl⟩ := Prod.mk.inj (Except.ok.inj built)
            exact ⟨steps.1, assembled, rfl⟩
        | some uri =>
            rw [found] at built
            obtain ⟨_, _, built⟩ := ok_of_bind built
            obtain ⟨steps, assembled, built⟩ := ok_of_bind built
            obtain ⟨rfl, rfl⟩ := Prod.mk.inj (Except.ok.inj built)
            exact ⟨steps.1, assembled, rfl⟩
  obtain ⟨steps, assembled, same⟩ := assembled
  rw [← map_assembly] at assembled
  obtain ⟨⟨assembly, _⟩, kept, forgotten⟩ := ok_of_map assembled
  obtain ⟨rfl, rfl⟩ := Prod.mk.inj forgotten
  exact ⟨assembly, kept, same⟩

end RoutePlan

def Assembly.inRoute (assembly : Assembly) (id : String) : Watched Moment :=
  (Watched.pipeline id assembly.watch).inUnitOfWork

theorem Assembly.restores_inRoute {assembly : Assembly} {due : Failure → Bool} {id : String}
    (restore : ∀ step ∈ assembly.watch, step.Restores due) {exchange after : Exchange}
    {history : History} (given : ((assembly.inRoute id).invoke exchange).Gives history after) :
    history.Restores due (exchange.arrival?.getD exchange.inbound) := by
  unfold inRoute at given
  have passed := Watched.gives_silent.mp given
  by_cases inside : exchange.isInUnitOfWork = true
  · rw [if_pos inside] at passed
    exact (Watched.restores_pipeline restore _ _ _ _
      (Exchange.holds_of_isInUnitOfWork inside) passed).1
  · rw [if_neg inside] at passed
    obtain ⟨own, between, rest, called, ended, rfl⟩ := Logged.gives_bind.mp passed
    obtain ⟨rfl, _⟩ := Logged.gives_lift.mp ended
    rw [List.append_nil]
    exact (Watched.restores_pipeline restore _ _ _ _
      (Exchange.holds_enterUnitOfWork exchange) called).1

namespace RoutePlan

variable {plan : RoutePlan} {rules : HandlerPlan}

/-- Whatever the steps of a route do to the messages of an exchange, a dead letter destination that
is to get the message that arrived is delivered the message with which the unit of work of the
exchange began, and nothing else. That is the message that was sent, unless an earlier registration
had begun the unit of work with another one. -/
theorem deadLetter_restores_arrival {broker later : Broker} {route : Route}
    (handles : plan.errorHandler = some rules) (stays : plan.StaysInUnitOfWork)
    (built : plan.build broker = .ok (route, later)) :
    ∃ assembly, plan.assembly plan.steps broker = .ok (assembly, later) ∧
      ∀ exchange,
        ((assembly.inRoute plan.id).sendThrough route exchange).result = route.send exchange ∧
          ∀ history answer,
            ((assembly.inRoute plan.id).sendThrough route exchange).Gives history answer →
              History.Restores rules.restoresArrival (exchange.arrival?.getD exchange.inbound)
                history := by
  obtain ⟨assembly, kept, same⟩ := assembly_of_build built
  refine ⟨assembly, kept, ?_⟩
  intro exchange
  refine ⟨Watched.result_sendThrough ?_ exchange, ?_⟩
  · rw [same, ← Assembly.map_watch]
    rfl
  · intro history answer given
    obtain ⟨after, passed⟩ := Watched.gives_sendThrough given
    have hooks := fun failure hook => stays.hooks rules failure hook handles
    have restores := restores_assembly handles hooks stays.steps (assembles_of_assembly kept)
    exact Assembly.restores_inRoute restores passed

def forwarding : RoutePlan where
  id := "forwarding"
  steps :=
    [.process (.ofFunction "rewriting" fun exchange =>
      (exchange.mapInbound fun message => message.setBody (.text "rewritten"),
        some (.plain "refused")))]
  errorHandler := some
    { kind := .deadLetterChannel
      deadLetter := some (.step "graveyard" (.ofFunction "graveyard" fun exchange => (exchange, none)))
      redelivery := { maximum := 0 }
      useArrival := true }

/-- The steps of the route as they are put together. -/
def forwardingAssembly : Assembly :=
  .next
    (.guarded
      { rules :=
          { kind := .deadLetterChannel
            deadLetter := some
              ⟨"graveyard", .ofFunction "graveyard" fun exchange => (exchange, none)⟩
            redelivery := { maximum := 0 }
            useArrival := true }
        output := .ofFunction "rewriting" fun exchange =>
          (exchange.mapInbound fun message => message.setBody (.text "rewritten"),
            some (.plain "refused")) })
    .done

def forwardingRoute : Route where
  id := forwarding.id
  source := none
  processor := (Processor.pipeline forwarding.id forwardingAssembly.processors).inUnitOfWork
  metrics := none

def forward (exchange : Exchange) : Logged Moment Broker (Except Failure Exchange) :=
  (forwardingAssembly.inRoute forwarding.id).sendThrough forwardingRoute exchange

/-- No policy takes part in the route. -/
theorem policy_forwarding (failure : Failure) :
    PolicyStrategy.innermost [] failure = none :=
  List.findSome?_eq_none_iff.mpr fun _ _ => rfl

theorem stays_forwarding : forwarding.StaysInUnitOfWork where
  steps := by
    intro processor member
    obtain rfl := RouteStep.process.inj (List.mem_singleton.mp member)
    intro before after given
    obtain ⟨ended, processed, rfl⟩ := Processor.gives_invoke.mp given
    obtain rfl := Routine.gives_pure.mp processed
    exact Exchange.passage_holdsOn.still rfl
  hooks := by
    intro rules failure hook handles found
    obtain rfl := Option.some.inj handles
    simp [HandlerRules.hookFor, policy_forwarding] at found

def filled : Exchange :=
  ErrorHandler.fresh.mapInbound fun message => message.setBody (.text "sent")

/-- The dead letter gets the body that was sent, not the one that the step wrote. -/
theorem deadLetter_restores_arrival_filled :
    ∃ (history : History) (answer : Except Failure Exchange) (name : String) (visit : Visit),
      forwarding.build default = .ok (forwardingRoute, default) ∧
        (forward filled).Gives history answer ∧ history.deliveries = [(name, visit)] ∧
        visit.before.inbound = filled.inbound := by
  have built : forwarding.build default = .ok (forwardingRoute, default) := rfl
  obtain ⟨assembly, kept, sends⟩ := deadLetter_restores_arrival rfl stays_forwarding built
  obtain ⟨rfl, _⟩ := Prod.mk.inj (Except.ok.inj kept)
  have given : (forward filled).Gives ((forward filled).alone default).1
      ((forward filled).alone default).2 :=
    Logged.gives_alone (forward filled) default
  have once : (History.deliveries ((forward filled).alone default).1).length = 1 := by
    decide +kernel
  obtain ⟨⟨name, visit⟩, only⟩ := List.length_eq_one_iff.mp once
  have delivered : (name, visit) ∈ History.deliveries ((forward filled).alone default).1 :=
    only ▸ List.mem_singleton_self _
  obtain ⟨moment, member, same⟩ := List.mem_filterMap.mp delivered
  obtain rfl : moment = .delivery name visit := by
    cases moment <;> simp_all
  obtain ⟨earlier, rest, whole⟩ := List.append_of_mem member
  obtain ⟨failure, _, restored⟩ :=
    (sends filled).2 _ _ given earlier name visit rest whole
  have due : HandlerRules.restoresArrival
      (forwarding.errorHandler.getD HandlerPlan.standard) failure = true := by
    simp [HandlerRules.restoresArrival, forwarding, policy_forwarding]
  exact ⟨_, _, name, visit, built, given, only, (restored due).1⟩

def registeredEarly : Exchange :=
  (ErrorHandler.fresh.addCompletion (.note "registered" true)).mapInbound fun message =>
    message.setBody (.text "sent")

/-- The dead letter gets the empty message that the early registration remembers, not the message
that was sent. -/
theorem deadLetter_loses_body :
    ∃ (history : History) (answer : Except Failure Exchange) (name : String) (visit : Visit),
      forwarding.build default = .ok (forwardingRoute, default) ∧
        (forward registeredEarly).result = forwardingRoute.send registeredEarly ∧
        (forward registeredEarly).Gives history answer ∧ history.deliveries = [(name, visit)] ∧
        registeredEarly.inbound.body = some (.text "sent") ∧ visit.before.inbound.body = none := by
  have once : (History.deliveries ((forward registeredEarly).alone default).1).map
      (fun delivery => delivery.2.before.inbound.body.isSome) = [false] := by
    decide +kernel
  obtain ⟨⟨name, visit⟩, only, empty⟩ := List.map_eq_singleton_iff.mp once
  refine ⟨_, _, name, visit, rfl, Watched.result_sendThrough rfl registeredEarly,
    Logged.gives_alone (forward registeredEarly) default, only, rfl, ?_⟩
  exact Option.not_isSome_iff_eq_none.mp (by simpa using empty)

end RoutePlan

end MessageRouting
