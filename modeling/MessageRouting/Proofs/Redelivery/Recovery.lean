import MessageRouting.Proofs.Redelivery.Nesting

/-!
# Recovered exchanges

Handlers, pipelines, consumers and units of work, and so whole routes, can be nested in
each other at will. In all of them an exchange that recovered shows whether some attempt on
the way ran out of redeliveries, and its key is settled accordingly.
-/

namespace MessageRouting

namespace Watched

def rename {ε : Type} (watched : Watched ε) (name : String) : Watched ε where
  processor := watched.processor.rename name
  observe := watched.observe
  faithful := watched.faithful

end Watched

/-- A processor in which error handlers are nested, watched. -/
inductive Nested : Watched Act → Prop
  | step {processor : Processor} :
      processor.Passes Exchange.KeepsMarks → Nested (.unlogged Act processor)
  | handler {handler : ErrorHandler} {inner : Watched Act}
      {guards : handler.output = inner.processor} :
      Nested inner → handler.HelpersKeepMarks → Nested (.accounting handler inner guards)
  | pipeline {name : String} {steps : List (Watched Act)} :
      (∀ step ∈ steps, Nested step) → Nested (.pipeline name steps)
  | consumer {consumer : IdempotentConsumer} {inner : Watched Act}
      {within : consumer.inner = inner.processor} :
      Nested inner → Nested (.behind consumer inner within)
  | inUnitOfWork {inner : Watched Act} : Nested inner → Nested inner.inUnitOfWork
  | renamed {inner : Watched Act} (name : String) : Nested inner → Nested (inner.rename name)

/-- At any depth, a processor marks an exchange exactly if it enters an exhausted path. -/
theorem Nested.marks {watched : Watched Act} (nested : Nested watched) : watched.Marks := by
  induction nested with
  | step keeps => exact Watched.marks_unlogged keeps
  | handler _ helpers inside => exact Watched.marks_accounting inside helpers
  | pipeline _ each => exact Watched.marks_pipeline each
  | consumer _ inside => exact Watched.marks_behind inside
  | inUnitOfWork _ inside => exact Watched.marks_inUnitOfWork inside
  | renamed _ _ inside => exact inside

/-! ## Endpoints as steps -/

namespace Processor

theorem keepsMarks_of_producer {uri : String} {endpoint : Endpoint} {producer : Processor}
    (found : endpoint.producer uri = .ok producer) : producer.Passes Exchange.KeepsMarks := by
  intro before after given mark isMark
  cases endpoint with
  | recording record =>
      obtain rfl := Except.ok.inj found
      obtain ⟨ended, processed, rfl⟩ := Processor.gives_invoke.mp given
      obtain ⟨_, _, looked⟩ := Routine.gives_bind.mp processed
      obtain ⟨_, _, kept⟩ := Routine.gives_bind.mp looked
      obtain rfl := Routine.gives_pure.mp kept
      exact Exchange.known?_recording _ _ mark
  | deadLetter queue =>
      obtain rfl := Except.ok.inj found
      unfold addToQueue at given
      rw [invoke_silent] at given
      obtain ⟨_, _, added⟩ := Routine.gives_bind.mp given
      obtain ⟨_, _, kept⟩ := Routine.gives_bind.mp added
      obtain rfl := Routine.gives_pure.mp kept
      rfl
  | polling => contradiction
  | closed => contradiction

theorem keepsMarks_of_registered {broker : Broker} {uri : String} {producer : Processor}
    (registered : broker.producer uri = .ok producer) :
    producer.Passes Exchange.KeepsMarks := by
  obtain ⟨endpoint, _, produced⟩ := ok_of_bind registered
  exact keepsMarks_of_producer produced

end Processor

/-! ## The key of a recovered exchange -/

namespace IdempotentOptions

/-- What becomes of a key in the end is still open: it is to be recorded, or it was claimed and is
released after a failure. -/
def LeavesOpen (options : IdempotentOptions) (repository : KeyRepository) (key : String) : Prop :=
  options.eager = false ∧ repository.contains key = false ∨
    options.eager = true ∧ options.removeOnFailure = true ∧ repository.contains key = true

end IdempotentOptions

namespace KeyRepository

theorem contains_settle {repository : KeyRepository} {key : String} {options : IdempotentOptions}
    (undecided : options.LeavesOpen repository key) (succeeded : Bool) :
    (repository.settle options succeeded key).contains key = succeeded := by
  unfold settle confirm
  rcases undecided with ⟨lazy, absent⟩ | ⟨eager, releases, held⟩
  · cases succeeded with
    | true =>
        rw [lazy]
        exact contains_add_self repository key
    | false =>
        cases options.removeOnFailure with
        | true => exact contains_remove_self repository key
        | false => exact absent
  · cases succeeded with
    | true =>
        rw [eager]
        exact held
    | false =>
        rw [releases]
        exact contains_remove_self repository key

end KeyRepository

namespace ErrorHandler

variable {handler : ErrorHandler} {inner : Watched Act} {exchange after : Exchange}
  {acts : List Act} {outcome : Outcome}

/-- What settles a key sees that an exchange failed, or that it is marked. -/
theorem run_settleKey (exchange : Exchange) (repository : Nat) (key : String)
    (options : IdempotentOptions) {broker : Broker} {held : KeyRepository}
    (found : broker.repositories.get? repository = some held) :
    (((Completion.settleKey repository key options).carryOut exchange).run
        broker).2.1.repositories.get? repository =
      some (held.settle options (!exchange.isFailed && !exchange.flag .failureHandled) key) := by
  rw [Completion.carryOut_settleKey]
  change (broker.repositories.modify repository _).get? repository = _
  rw [Register.get?_modify, if_pos rfl, found]
  rfl

/-- Whatever handlers are nested in the step of a handler, an exchange that came without the marks
of exhausted redeliveries leaves the handler with both of them if the exhausted path was entered on
the way, by this handler or by one inside of it, and with none else. Later attempts, a successful
last one included, do not take them off. After a successful pass a key whose fate is open is held in
the end exactly if no attempt at any depth had run out of redeliveries. -/
theorem marks_of_handle (nested : Nested inner) (guards : handler.output = inner.processor)
    (helpers : handler.HelpersKeepMarks)
    (given : (handler.accountWith inner.invoke exchange).Gives acts (after, outcome))
    (unmarked : exchange.known? .redeliveryExhausted = none)
    (unhandled : exchange.known? .failureHandled = none) :
    (handler.accountWith inner.invoke exchange).result = handler.handle exchange ∧
      after.known? .redeliveryExhausted = (if Act.enter acts then some (.bool true) else none) ∧
      after.known? .failureHandled = (if Act.enter acts then some (.bool true) else none) ∧
      ∀ number, outcome = .success number →
        after.isFailed = false ∧
          ∀ broker repository held key options,
            broker.repositories.get? repository = some held → options.LeavesOpen held key →
            ∃ settled,
              (((Completion.settleKey repository key options).carryOut after).run
                broker).2.1.repositories.get? repository = some settled ∧
              settled.contains key = !Act.enter acts := by
  have faithful (exchange : Exchange) :
      (inner.invoke exchange).result = handler.output.invoke exchange := by
    rw [Watched.result_invoke, guards]
  have exhausted : Act.Mark .redeliveryExhausted acts exchange after :=
    mark_of_accountWith helpers rfl nested.marks given
  have declared : Act.Mark .failureHandled acts exchange after :=
    mark_of_accountWith helpers rfl nested.marks given
  unfold Act.Mark at exhausted declared
  rw [unmarked] at exhausted
  rw [unhandled] at declared
  refine ⟨handler.result_accountWith faithful exchange, exhausted, declared, ?_⟩
  rintro number rfl
  have completed : after.isFailed = false := by
    have passed := Logged.result_gives.mpr ⟨acts, given⟩
    rw [handler.result_accountWith faithful] at passed
    obtain ⟨history, observed⟩ := handle_gives.mp passed
    obtain ⟨_, _, _, _, closing, _⟩ := course_of_observe observed
    cases closing with
    | succeeded _ _ completed => exact completed
    | exhausted _ _ _ _ ended => exact absurd rfl (ended.unsuccessful number)
  refine ⟨completed, ?_⟩
  intro broker repository held key options found undecided
  refine ⟨_, run_settleKey after repository key options found, ?_⟩
  have flag : after.flag .failureHandled = Act.enter acts := by
    rw [Exchange.flag_eq, declared]
    cases Act.enter acts <;> rfl
  rw [KeyRepository.contains_settle undecided, completed, flag]
  rfl

/-- A handler without redeliveries, around a step that fails on exchanges that were not redelivered.
-/
def impatient : ErrorHandler where
  rules := {}
  output := .ofFunction "impatient" fun exchange =>
    (exchange, if exchange.flag .redelivered then none else some (.plain "refused"))

def patient : ErrorHandler where
  rules := { redelivery := { maximum := 1, pattern := some ⟨[]⟩ } }
  output := impatient.toProcessor

/-- A consumer in front of both handlers that records keys in the end. -/
def patientConsumer : IdempotentConsumer where
  key _ := some (.text "key")
  repository := 0
  options := { eager := false }
  duplicates := 0
  inner := patient.toProcessor

/-- The inner handler runs out of redeliveries, the outer one redelivers, and the second attempt
succeeds. The exchange keeps both marks, and its key is not recorded. -/
theorem recovered_with_marks :
    (fresh.known? .redeliveryExhausted).isNone = true ∧
      (fresh.known? .failureHandled).isNone = true ∧
      ((patient.handle fresh).run default).1.2.told = some 1 ∧
      ((patient.handle fresh).run default).1.1.isFailed = false ∧
      ((patient.handle fresh).run default).1.1.flag .redeliveryExhausted = true ∧
      ((patient.handle fresh).run default).1.1.flag .failureHandled = true ∧
      ((patientConsumer.toProcessor.inUnitOfWork.invoke fresh).run
        { repositories := ⟨[.new 10]⟩ }).2.1.repositories.get? 0 = some (.new 10) := by
  decide +kernel

theorem policyFor_of_policies (empty : handler.rules.policies = [])
    (innermost : handler.rules.strategy = .innermost) (failure : Failure) :
    handler.policyFor failure = none := by
  unfold policyFor
  rw [empty, innermost]
  simp [PolicyStrategy.innermost, Failure.innermostFirst]

theorem helpersKeepMarks_of_none (empty : handler.rules.policies = [])
    (innermost : handler.rules.strategy = .innermost)
    (unhooked : handler.rules.onRedelivery = none)
    (undelivered : handler.rules.deadLetter = none) : handler.HelpersKeepMarks where
  hooks := by
    intro failure hook found
    rw [policyFor_of_policies empty innermost, hookUnder, unhooked] at found
    contradiction
  destinations := by
    intro policy broker deadLetter found
    unfold destination at found
    split at found
    · obtain ⟨producer, registered, kept⟩ := ok_of_bind found
      obtain rfl := Option.some.inj (Except.ok.inj kept)
      exact Processor.keepsMarks_of_registered registered
    · rw [undelivered] at found
      exact absurd (Except.ok.inj found) nofun

/-- The inner handler, watched. -/
def watchedImpatient : Watched Act :=
  .accounting impatient (.unlogged Act impatient.output) rfl

theorem nested_watchedImpatient : Nested watchedImpatient := by
  refine .handler (.step ?_) (helpersKeepMarks_of_none rfl rfl rfl rfl)
  intro before after ran mark _
  have ended := Routine.gives_done.mp ran
  rw [ended]
  cases before.flag .redelivered <;> rfl

/-- After that recovery, a claimed key is released. -/
theorem marks_of_handle_patient :
    ∃ (acts : List Act) (after : Exchange),
      (patient.accountWith watchedImpatient.invoke fresh).Gives acts (after, .success 1) ∧
        after.known? .failureHandled = some (.bool true) ∧
        ∃ settled, (((Completion.settleKey 0 "key" { removeOnFailure := true }).carryOut after).run
            { repositories := ⟨[{ capacity := 10, keys := ["key"] }]⟩ }).2.1.repositories.get? 0 =
              some settled ∧
          settled.contains "key" = false := by
  have helpers : patient.HelpersKeepMarks := helpersKeepMarks_of_none rfl rfl rfl rfl
  have outcome : ((patient.accountWith watchedImpatient.invoke fresh).alone default).2.2 =
      .success 1 := by
    apply Outcome.eq_success_of_told
    decide +kernel
  have entered : Act.enter
      ((patient.accountWith watchedImpatient.invoke fresh).alone default).1 = true := by
    decide +kernel
  have given : (patient.accountWith watchedImpatient.invoke fresh).Gives
      ((patient.accountWith watchedImpatient.invoke fresh).alone default).1
      (((patient.accountWith watchedImpatient.invoke fresh).alone default).2.1, .success 1) := by
    rw [← outcome]
    exact Logged.gives_alone _ default
  obtain ⟨_, _, declared, success⟩ :=
    marks_of_handle nested_watchedImpatient rfl helpers given rfl rfl
  rw [entered] at declared success
  obtain ⟨_, settles⟩ := success 1 rfl
  refine ⟨_, _, given, declared, ?_⟩
  exact settles _ 0 _ "key" { removeOnFailure := true } rfl (.inr ⟨rfl, rfl, by decide⟩)

end ErrorHandler

end MessageRouting
