import MessageRouting.Proofs.Idempotent.Repository
import MessageRouting.Proofs.Redelivery.Proceeding
import MessageRouting.Proofs.Route.Arrival

/-!
# Error handlers around error handlers

An exchange whose redeliveries ran out is marked. A handler around the one that ran out
may redeliver and succeed after all, and the marks stay: nothing in an attempt takes
them off. So a recovered exchange is marked exactly if some attempt on the way, at
whatever depth, entered the exhausted path, and an idempotent consumer that sees the
exchange in the end settles its key as after a failure.
-/

namespace MessageRouting

def Property.isExhaustionMark : Property → Bool
  | redeliveryExhausted | failureHandled => true
  | _ => false

namespace Exchange

variable {mark : Property}

theorem known?_put_of_mark {property : Property} {value : Value} (exchange : Exchange)
    (other : property.isExhaustionMark = false) (marks : mark.isExhaustionMark = true) :
    (exchange.put property value).known? mark = exchange.known? mark := by
  rw [known?_put, if_neg]
  rintro rfl
  rw [other] at marks
  contradiction

theorem known?_recording (exchange : Exchange) (failure : Option Failure) (property : Property) :
    (exchange.recording failure).known? property = exchange.known? property := by
  cases failure <;> rfl

theorem known?_promote (exchange : Exchange) (property : Property) :
    exchange.promote.known? property = exchange.known? property := by
  unfold promote
  split <;> rfl

end Exchange

/-! ## What marks an exchange -/

namespace Act

def enter (acts : List Act) : Bool :=
  acts.any isExhaustion

def Mark (mark : Property) (acts : List Act) (before after : Exchange) : Prop :=
  after.known? mark = if enter acts then some (.bool true) else before.known? mark

variable {mark : Property} {before between after : Exchange} {acts first second : List Act}

theorem mark_of_same (still : enter acts = false) (same : after.known? mark = before.known? mark) :
    Mark mark acts before after := by
  rw [Mark, still]
  exact same

theorem Mark.append (one : Mark mark first before between)
    (other : Mark mark second between after) :
    Mark mark (first ++ second) before after := by
  unfold Mark enter at one other ⊢
  rw [List.any_append, other, one]
  cases first.any isExhaustion <;> cases second.any isExhaustion <;> rfl

theorem Mark.of_before {other : Exchange} (marked : Mark mark acts before after)
    (same : before.known? mark = other.known? mark) : Mark mark acts other after := by
  unfold Mark at marked ⊢
  rw [marked, same]

theorem Mark.to_after {other : Exchange} (marked : Mark mark acts before after)
    (same : other.known? mark = after.known? mark) : Mark mark acts before other :=
  same.trans marked

end Act

/-- The two marks are left as they are. -/
def Exchange.KeepsMarks (before after : Exchange) : Prop :=
  ∀ mark : Property, mark.isExhaustionMark = true → after.known? mark = before.known? mark

namespace ErrorHandler

/-- What a handler runs beside its step leaves the marks alone. -/
structure HelpersKeepMarks (handler : ErrorHandler) : Prop where
  hooks : handler.HooksPass Exchange.KeepsMarks
  destinations : handler.DestinationsPass Exchange.KeepsMarks

variable {handler : ErrorHandler} {entry : Option Message} {exchange after : Exchange} {acts : List Act}
  {mark : Property}

/-- The exhausted path marks the exchange. -/
theorem mark_of_exhaust {failure : Failure} {result : Exchange × Outcome}
    (helpers : handler.HelpersKeepMarks) (marks : mark.isExhaustionMark = true)
    (given : (handler.accountExhaust (handler.policyFor failure) failure entry exchange).Gives
      acts result) :
    Act.Mark mark acts exchange result.1 := by
  have kept : Act.Keep mark acts := by
    refine writes_exhaust ?_ ?_ acts result given
    · intro act uncalled _
      cases act with
      | called => contradiction
      | _ => trivial
    · rintro name processor visit ⟨_, broker, found⟩ ran
      exact helpers.destinations _ broker _ found visit.before visit.after ran mark marks
  have other : mark ≠ .errorHandlerHandled ∧ mark ≠ .failureEndpoint := by
    constructor <;> rintro rfl <;> contradiction
  have marked := known?_of_exhaust given other kept
  obtain ⟨rest, _, rfl, _⟩ := exhausted_of_gives given
  rw [Act.Mark, marked, markedExhausted]
  cases mark <;> first | contradiction | simp [Act.enter, Act.isExhaustion]

end ErrorHandler

namespace Watched

def accounting (handler : ErrorHandler) (inner : Watched Act)
    (guards : handler.output = inner.processor) : Watched Act :=
  silent handler.toProcessor.name
    (fun exchange => do return (← handler.handle exchange).1)
    (fun exchange => do
      let ended ← handler.accountWith inner.invoke exchange
      return ended.1)
    (by
      intro exchange
      have faithful : ∀ exchange, (inner.invoke exchange).result =
          handler.output.invoke exchange := by
        intro exchange
        rw [result_invoke, guards]
      simp [handler.result_accountWith faithful])

/-- The processor marks an exchange exactly if it enters an exhausted path. -/
def Marks (watched : Watched Act) : Prop :=
  ∀ mark before acts after, mark.isExhaustionMark = true →
    (watched.invoke before).Gives acts after → Act.Mark mark acts before after

theorem marks_unlogged {processor : Processor} (keeps : processor.Passes Exchange.KeepsMarks) :
    (unlogged Act processor).Marks := by
  intro mark before acts after marks given
  obtain ⟨own, ended, _, observed, recorded, rfl⟩ := Logged.gives_bind.mp given
  obtain ⟨rfl, processed⟩ := Logged.gives_lift.mp observed
  obtain ⟨rfl, rfl⟩ := Logged.gives_pure.mp recorded
  apply Act.mark_of_same rfl
  exact keeps before _ (Processor.gives_invoke.mpr ⟨ended, processed, rfl⟩) mark marks

end Watched

namespace Act

theorem enter_pauses (delay : Duration) : enter (pauses delay) = false := by
  unfold pauses reports
  cases delay.isZero <;> rfl

theorem enter_reports (event : RedeliveryEvent) : enter (reports event) = false := by
  unfold reports
  split <;> rfl

end Act

namespace ErrorHandler

variable {handler : ErrorHandler} {inner : Watched Act} {exchange after : Exchange}
  {acts : List Act} {mark : Property}

theorem enter_decision (failure : Failure) (number chance : Nat) :
    Act.enter (handler.decision failure number chance) = false := by
  have counted : Act.enter (Act.counts handler.rules.metrics .redelivery) = false := by
    cases handler.rules.metrics <;> rfl
  have noticed (redelivery : RedeliveryPolicy) (delay : Duration) :
      Act.enter (retryNotice redelivery failure number delay) = false := by
    unfold retryNotice
    split
    · exact Act.enter_reports _
    · rfl
  have both := Bool.or_eq_false_iff.mpr ⟨noticed (handler.redeliveryUnder (handler.policyFor failure))
    (handler.retryPreparation failure number chance).delay, counted⟩
  unfold Act.enter at both ⊢
  rw [decision, List.any_cons, List.any_cons, List.any_append, both]
  rfl

section

variable (helpers : handler.HelpersKeepMarks) (isMark : mark.isExhaustionMark = true)

include helpers isMark

/-- What follows an attempt marks the exchange exactly if the exhausted path is entered again. -/
theorem mark_of_proceeds {entry : Option Message} {countable redeliveries : Nat}
    {result : Exchange × Outcome}
    {step : Exchange → Logged Act Broker Exchange}
    (proceeds : Proceeds handler step entry redeliveries countable exchange acts result)
    (later : ∀ fewer preparation between acts result, countable = fewer + 1 →
      (∀ hook ∈ preparation.hook, handler.Uses hook .hook) →
      (handler.accountAttempts step entry fewer (redeliveries + 1) (some preparation)
        between).Gives acts result → Act.Mark mark acts between result.1) :
    Act.Mark mark acts exchange result.1 := by
  have bookkeeping (after : Exchange) (failure : Failure) (redeliveries : Nat) :
      (counted (after.setCaught failure) redeliveries).known? mark = after.known? mark := by
    rw [known?_counted, Exchange.known?_setCaught]
    cases mark <;> first | contradiction | rfl
  cases proceeds with
  | succeeded => exact Act.mark_of_same rfl rfl
  | faulted => exact Act.mark_of_same (Act.enter_reports _) rfl
  | @misconfigured _ _ failure =>
      apply Act.mark_of_same (Act.enter_reports _)
      rw [Exchange.known?_setCaught, if_neg]
      rintro rfl
      contradiction
  | @exhausted _ _ failure last _ _ _ ended =>
      have caught : Act.Mark mark [.caught failure] exchange exchange := Act.mark_of_same rfl rfl
      have settling : (settled (counted (exchange.setCaught failure) (redeliveries + 1))
          redeliveries).known? mark = exchange.known? mark := by
        rw [known?_settled, bookkeeping]
        cases mark <;> first | contradiction | rfl
      exact caught.append ((mark_of_exhaust helpers isMark ended).of_before settling)
  | @retried countable _ failure acts _ chance _ _ again =>
      have decided : Act.Mark mark (handler.decision failure (redeliveries + 1) chance) exchange
          exchange := Act.mark_of_same (enter_decision failure _ chance) rfl
      have retried := later countable _ _ acts result rfl (fun _ found => ⟨failure, found⟩) again
      exact decided.append (retried.of_before (bookkeeping exchange failure _))

variable (inside : inner.Marks)

include inside

omit helpers in
theorem mark_of_step
    (given : (accountStep inner.invoke exchange).Gives acts after) :
    Act.Mark mark acts exchange after := by
  unfold accountStep at given
  split at given
  · exact inside mark exchange acts after isMark given
  · obtain ⟨rfl, rfl⟩ := Logged.gives_pure.mp given
    exact Act.mark_of_same rfl rfl

/-- An attempt marks the exchange exactly if the guarded step enters the exhausted path. -/
theorem mark_of_attempt {preparation : Option Preparation}
    (used : ∀ found ∈ preparation, ∀ hook ∈ found.hook, handler.Uses hook .hook)
    (given : (accountAttempt inner.invoke preparation exchange).Gives acts after) :
    Act.Mark mark acts exchange after := by
  cases preparation with
  | none => exact mark_of_step isMark inside given
  | some preparation =>
      obtain ⟨_, ready, calls, prepared, called, rfl⟩ := Logged.gives_bind.mp given
      obtain ⟨_, _, hooks, paused, hooked, rfl⟩ := Logged.gives_bind.mp prepared
      obtain rfl := Act.pauses_of_gives paused
      have readied : Act.Mark mark hooks (cleared exchange) ready := by
        cases found : preparation.hook with
        | none =>
            rw [found] at hooked
            obtain ⟨rfl, rfl⟩ := Logged.gives_pure.mp hooked
            exact Act.mark_of_same rfl rfl
        | some hook =>
            rw [found] at hooked
            obtain ⟨rfl, ran⟩ := Act.gives_call.mp hooked
            obtain ⟨failure, chosen⟩ := used preparation rfl hook found
            exact Act.mark_of_same rfl (helpers.hooks failure hook chosen _ _ ran mark isMark)
      have clearing : (cleared exchange).known? mark = exchange.known? mark := by
        rw [known?_cleared, if_neg]
        rintro rfl
        contradiction
      have waited : Act.Mark mark (Act.pauses preparation.delay) exchange exchange :=
        Act.mark_of_same (Act.enter_pauses preparation.delay) rfl
      exact (waited.append (readied.of_before clearing)).append (mark_of_step isMark inside called)

/-- A pass marks the exchange exactly if the exhausted path is entered, by this handler or by one
inside of it. The induction is on the redeliveries that can still be counted. -/
theorem mark_of_attempts {entry : Option Message} {countable redeliveries : Nat}
    {preparation : Option Preparation} {result : Exchange × Outcome}
    (used : ∀ found ∈ preparation, ∀ hook ∈ found.hook, handler.Uses hook .hook)
    (given : (handler.accountAttempts inner.invoke entry countable redeliveries preparation
      exchange).Gives acts result) :
    Act.Mark mark acts exchange result.1 := by
  induction countable generalizing redeliveries preparation exchange acts result with
  | zero =>
      obtain ⟨first, between, rest, made, followed, rfl⟩ := proceeds_of_gives given
      apply (mark_of_attempt helpers isMark inside used made).append
      refine mark_of_proceeds helpers isMark followed ?_
      intro fewer _ _ _ _ impossible
      exact absurd impossible (Nat.succ_ne_zero fewer).symm
  | succ countable inductionHypothesis =>
      obtain ⟨first, between, rest, made, followed, rfl⟩ := proceeds_of_gives given
      apply (mark_of_attempt helpers isMark inside used made).append
      refine mark_of_proceeds helpers isMark followed ?_
      intro fewer preparation _ _ _ same hooks again
      obtain rfl := Nat.succ.inj same
      refine inductionHypothesis ?_ again
      rintro found ⟨⟩
      exact hooks

theorem mark_of_accountWith {result : Exchange × Outcome}
    (given : (handler.accountWith inner.invoke exchange).Gives acts result) :
    Act.Mark mark acts exchange result.1 := by
  refine mark_of_attempts helpers isMark inside ?_ given
  rintro found ⟨⟩

end

end ErrorHandler

namespace Watched

variable {inner : Watched Act}

theorem marks_silent {name : String} {body : Exchange → Routine Broker Exchange}
    {watch : Exchange → Logged Act Broker Exchange}
    {faithful : ∀ exchange, (watch exchange).result = body exchange}
    (marks : ∀ mark before acts after, mark.isExhaustionMark = true →
      (watch before).Gives acts after → Act.Mark mark acts before after) :
    (silent name body watch faithful).Marks :=
  fun mark before acts after isMark given =>
    marks mark before acts after isMark (gives_silent.mp given)

theorem marks_accounting {handler : ErrorHandler} {guards : handler.output = inner.processor}
    (inside : inner.Marks) (helpers : handler.HelpersKeepMarks) :
    (accounting handler inner guards).Marks := by
  apply marks_silent
  intro mark before acts after isMark given
  obtain ⟨own, ended, _, observed, kept, rfl⟩ := Logged.gives_bind.mp given
  obtain ⟨rfl, rfl⟩ := Logged.gives_pure.mp kept
  rw [List.append_nil]
  exact ErrorHandler.mark_of_accountWith helpers isMark inside observed

theorem marks_pipeline {name : String} {steps : List (Watched Act)}
    (each : ∀ step ∈ steps, step.Marks) : (pipeline name steps).Marks := by
  apply marks_silent
  intro mark before acts after isMark given
  have running : ∀ promoting : Bool, (runSteps promoting steps before).Gives acts after →
      Act.Mark mark acts before after := by
    clear given
    induction steps generalizing before acts with
    | nil =>
        intro _ given
        obtain ⟨rfl, rfl⟩ := Logged.gives_pure.mp given
        exact Act.mark_of_same rfl rfl
    | cons step rest inductionHypothesis =>
        intro promoting given
        rcases cases_of_runSteps given with
          ⟨_, rfl, rfl⟩ | ⟨own, between, others, called, rfl, followed⟩
        · exact Act.mark_of_same rfl rfl
        · have promoted : (if promoting then before.promote else before).known? mark =
              before.known? mark := by
            cases promoting with
            | true => exact Exchange.known?_promote before mark
            | false => rfl
          have first := (each step List.mem_cons_self mark _ own between isMark called).of_before
            promoted
          rcases followed with ⟨_, rfl, rfl⟩ | ⟨_, passed⟩
          · rw [List.append_nil]
            exact first
          · exact first.append (inductionHypothesis
              (fun other member => each other (List.mem_cons_of_mem step member)) between others true
                passed)
  exact running false given

theorem known?_endUnitOfWork {exchange after : Exchange} {property : Property}
    (given : exchange.endUnitOfWork.Gives after) :
    after.known? property = exchange.known? property := by
  unfold Exchange.endUnitOfWork at given
  cases found : exchange.unitOfWork with
  | none =>
      rw [found] at given
      obtain rfl := Routine.gives_pure.mp given
      rfl
  | some unit =>
      rw [found] at given
      obtain ⟨_, _, ended⟩ := Routine.gives_bind.mp given
      obtain rfl := Routine.gives_pure.mp ended
      rfl

theorem marks_inUnitOfWork (inside : inner.Marks) : inner.inUnitOfWork.Marks := by
  apply marks_silent
  intro mark before acts after isMark given
  split at given
  · exact inside mark before acts after isMark given
  · obtain ⟨own, between, _, called, ended, rfl⟩ := Logged.gives_bind.mp given
    obtain ⟨rfl, left⟩ := Logged.gives_lift.mp ended
    rw [List.append_nil]
    have marked := inside mark before.enterUnitOfWork own between isMark called
    have came : before.enterUnitOfWork.known? mark = before.known? mark := rfl
    exact (marked.of_before came).to_after (known?_endUnitOfWork left)

/-- The decision of a consumer about an exchange marks nothing. -/
theorem marks_assess {consumer : IdempotentConsumer} {exchange : Exchange}
    {admission : IdempotentConsumer.Admission}
    (given : (consumer.assess exchange).Gives admission) :
    (match admission with
      | .refused marked _ | .admitted marked _ => Exchange.KeepsMarks exchange marked) := by
  unfold IdempotentConsumer.assess at given
  have registered (completion : Completion) :
      Exchange.KeepsMarks exchange (exchange.addCompletion completion) := fun _ _ => rfl
  have duplicated : Exchange.KeepsMarks exchange (exchange.put .duplicateMessage (.bool true)) :=
    fun _ isMark => exchange.known?_put_of_mark rfl isMark
  cases found : consumer.keyOf exchange with
  | none =>
      rw [found] at given
      obtain rfl := Routine.gives_pure.mp given
      exact fun _ _ => rfl
  | some key =>
      rw [found] at given
      obtain ⟨isNew, _, decided⟩ := Routine.gives_bind.mp given
      cases isNew with
      | true =>
          rw [if_pos rfl] at decided
          dsimp only at decided
          split at decided
          · obtain rfl := Routine.gives_pure.mp decided
            exact registered _
          · obtain rfl := Routine.gives_pure.mp decided
            exact fun _ _ => rfl
      | false =>
          rw [if_neg Bool.false_ne_true] at decided
          obtain ⟨_, _, counted⟩ := Routine.gives_bind.mp decided
          obtain ⟨_, _, marked⟩ := Routine.gives_bind.mp counted
          dsimp only at marked
          split at marked
          · obtain rfl := Routine.gives_pure.mp marked
            exact duplicated
          · obtain rfl := Routine.gives_pure.mp marked
            exact duplicated

theorem marks_behind {consumer : IdempotentConsumer} {within : consumer.inner = inner.processor}
    (inside : inner.Marks) : (behind consumer inner within).Marks := by
  intro mark before acts after isMark given
  obtain ⟨own, ended, _, observed, recorded, rfl⟩ := Logged.gives_bind.mp given
  obtain ⟨rfl, rfl⟩ := Logged.gives_pure.mp recorded
  rw [List.append_nil]
  refine Act.Mark.to_after ?_ (Exchange.known?_recording ended.1 ended.2 mark)
  obtain ⟨admission, decided, followed⟩ := Logged.gives_lift_bind.mp observed
  have assessed := marks_assess decided
  cases admission with
  | refused marked failure =>
      obtain ⟨rfl, rfl⟩ := Logged.gives_pure.mp followed
      exact Act.mark_of_same rfl (assessed mark isMark)
  | admitted marked due =>
      obtain ⟨calls, left, rest, through, closed, rfl⟩ := Logged.gives_bind.mp followed
      obtain ⟨_, _, reported⟩ := Logged.gives_lift_bind.mp closed
      obtain ⟨rfl, rfl⟩ := Logged.gives_pure.mp reported
      rw [List.append_nil]
      exact (inside mark marked calls left isMark through).of_before (assessed mark isMark)

end Watched

end MessageRouting
