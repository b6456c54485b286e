import MessageRouting.Config.Handler
import MessageRouting.Proofs.Redelivery.Jitter
import MessageRouting.Timeline

/-!
# Accepted configurations

A configuration is accepted if each of its values is usable. What is made of an
accepted configuration never fails afterwards: the policy and the error handler
exist, the delay before every attempt is computed, the sizes are those that were
configured, and a consumer goes on after each poll.
-/

namespace MessageRouting

namespace RoutingConfig

variable {config : RoutingConfig}

/-! ## What is accepted -/

/-- Each value of the configuration is usable. -/
structure Acceptable (config : RoutingConfig) : Prop where
  limit : -1 ≤ config.errorHandler.redelivery.maximum
  multiplierFinite : config.errorHandler.redelivery.multiplier.isFinite = true
  multiplier : 1 ≤ config.errorHandler.redelivery.multiplier.number
  percentFinite : config.errorHandler.redelivery.collisionPercent.isFinite = true
  percent : 0 ≤ config.errorHandler.redelivery.collisionPercent.number ∧
    config.errorHandler.redelivery.collisionPercent.number ≤ 100
  pattern : ∀ text, config.errorHandler.redelivery.pattern = some text →
    Text.isAllBlank text = true ∨ ∃ pattern, DelayPattern.read text = .ok pattern
  destination : config.errorHandler.kind = .deadLetterChannel →
    ∃ uri, config.errorHandler.deadLetterUri = some uri ∧ Text.isAllBlank uri = false
  cacheSize : 0 < config.idempotent.cacheSize
  queueSize : 0 < config.deadLetterQueue.maximumSize
  interval : 0 < config.consumer.interval.nanoseconds

theorem exists_readPattern_iff {settings : RedeliverySettings} :
    (∃ pattern, settings.readPattern = .ok pattern) ↔
      ∀ text, settings.pattern = some text →
        Text.isAllBlank text = true ∨ ∃ pattern, DelayPattern.read text = .ok pattern := by
  unfold RedeliverySettings.readPattern
  cases settings.pattern with
  | none => simp
  | some text =>
      simp only [Option.some.injEq, forall_eq']
      cases Text.isAllBlank text with
      | true => simp
      | false =>
          cases DelayPattern.read text with
          | error failure => simp [Except.map]
          | ok pattern => simp [Except.map]

theorem exists_policy_iff :
    (∃ policy, config.redeliveryPolicy = .ok policy) ↔
      config.errorHandler.redelivery.InBounds ∧
        ∀ text, config.errorHandler.redelivery.pattern = some text →
          Text.isAllBlank text = true ∨ ∃ pattern, DelayPattern.read text = .ok pattern := by
  rw [← exists_readPattern_iff]
  constructor
  · rintro ⟨policy, checked⟩
    obtain ⟨inBounds, pattern, read, _⟩ := RedeliverySettings.check_eq_ok_iff.mp checked
    exact ⟨inBounds, pattern, read⟩
  · rintro ⟨inBounds, pattern, read⟩
    exact ⟨_, RedeliverySettings.check_eq_ok_iff.mpr ⟨inBounds, pattern, read, rfl⟩⟩

theorem hasDestination_iff :
    config.hasDestination = true ↔ (config.errorHandler.kind = .deadLetterChannel →
      ∃ uri, config.errorHandler.deadLetterUri = some uri ∧ Text.isAllBlank uri = false) := by
  unfold hasDestination
  cases config.errorHandler.kind with
  | standard => simp
  | deadLetterChannel => cases config.errorHandler.deadLetterUri <;> simp

/-- A check passes if what it refuses is not the case and the later checks pass. -/
theorem refuse_eq_ok_iff {refused : Prop} [Decidable refused] {failure : Failure}
    {next : Unit → Except Failure Unit} :
    (if refused then (do let checked ← throw failure; next checked) else next ()) = .ok () ↔
      ¬ refused ∧ next () = .ok () := by
  by_cases held : refused
  · simp [held, bind, Except.bind, throw, throwThe, MonadExceptOf.throw]
  · simp [held]

/-- The checks, one by one. -/
theorem validate_iff_checks :
    config.validate = .ok () ↔ (∃ policy, config.redeliveryPolicy = .ok policy) ∧
      config.hasDestination = true ∧ config.idempotent.cacheSize ≠ 0 ∧
      config.consumer.interval.isZero = false ∧ config.deadLetterQueue.maximumSize ≠ 0 := by
  have last {failure : Failure} :
      (if config.deadLetterQueue.maximumSize = 0 then throw failure else pure ()) =
        (.ok () : Except Failure Unit) ↔ config.deadLetterQueue.maximumSize ≠ 0 := by
    split <;> simp_all [throw, throwThe, MonadExceptOf.throw, pure, Except.pure]
  unfold validate
  rw [DelayPattern.bind_eq_ok_iff]
  simp only [refuse_eq_ok_iff, last, exists_and_right, Bool.not_eq_true', Bool.not_eq_false,
    Bool.not_eq_true, ne_eq]

/-- A configuration is accepted exactly if each of its values is usable. -/
theorem validate_iff_acceptable : config.validate = .ok () ↔ config.Acceptable := by
  rw [validate_iff_checks, exists_policy_iff, hasDestination_iff]
  constructor
  · rintro ⟨⟨inBounds, pattern⟩, destination, cacheSize, interval, queueSize⟩
    exact
      { limit := inBounds.limit
        multiplierFinite := inBounds.multiplierFinite
        multiplier := inBounds.multiplier
        percentFinite := inBounds.percentFinite
        percent := ⟨inBounds.percentNonneg, inBounds.percent⟩
        pattern := pattern
        destination := destination
        cacheSize := Nat.pos_of_ne_zero cacheSize
        queueSize := Nat.pos_of_ne_zero queueSize
        interval := Nat.pos_of_ne_zero fun zero => by simp [Duration.isZero, zero] at interval }
  · intro acceptable
    exact ⟨⟨⟨acceptable.limit, acceptable.multiplierFinite, acceptable.multiplier,
      acceptable.percentFinite, acceptable.percent.1, acceptable.percent.2⟩, acceptable.pattern⟩,
      acceptable.destination, acceptable.cacheSize.ne',
      beq_eq_false_iff_ne.mpr acceptable.interval.ne', acceptable.queueSize.ne'⟩

/-! ## What follows -/

/-- The delay before every attempt is computed, whatever is drawn, and fits 64 bits. -/
structure AlwaysComputes (policy : RedeliveryPolicy) : Prop where
  inhabited : policy.jitter.isEmpty = false
  finite : policy.jitter.isFinite = true
  delay : ∀ draw attempt, policy.tryDelayFor draw attempt =
    some (.ofMillis (policy.delayMillis attempt (draw policy.jitter)))
  fits : ∀ attempt (move : Binary64), policy.delayMillis attempt move ≤ 2 ^ 64 - 1

/-- What an accepted configuration is turned into never fails. -/
structure NeverFails (config : RoutingConfig) : Prop where
  built : ∃ policy plan, config.redeliveryPolicy = .ok policy ∧ config.handlerPlan = .ok plan ∧
    plan.redelivery = policy ∧ AlwaysComputes policy
  capacity : config.repository.capacity = config.idempotent.cacheSize
  bound : (DeadLetterQueue.new config.deadLetterQueue).config.maximumSize =
    config.deadLetterQueue.maximumSize
  ticks : ∀ consumer : PollingConsumer, consumer.config = config.consumer →
    consumer.config.interval.isZero = false ∧ ∀ number timeline,
      ∃ task ∈ (Timeline.beginConsuming number consumer timeline).tasks, task.number = number

theorem alwaysComputes_of_check {settings : RedeliverySettings} {policy : RedeliveryPolicy}
    (checked : settings.check = .ok policy) : AlwaysComputes policy := by
  have jitters := RedeliveryPolicy.jitters_of_check checked
  obtain ⟨inhabited, finite⟩ := RedeliveryPolicy.jitter_drawable jitters
  exact ⟨inhabited, finite, RedeliveryPolicy.tryDelayFor_eq jitters,
    RedeliveryPolicy.delayMillis_le checked⟩

/-- The rules of the error handler, apart from its kind and its dead letter destination. -/
def completed (config : RoutingConfig) (policy : RedeliveryPolicy) (plan : HandlerPlan) :
    HandlerPlan :=
  { plan with
    redelivery := policy
    useArrival := config.errorHandler.useArrival
    handled := config.errorHandler.handled.map fun handled _ => handled }

theorem exists_handlerPlan {policy : RedeliveryPolicy} (checked : config.redeliveryPolicy = .ok policy)
    (reachable : config.hasDestination = true) :
    ∃ plan, config.handlerPlan = .ok (config.completed policy plan) := by
  unfold hasDestination at reachable
  unfold handlerPlan
  rw [checked]
  cases kind : config.errorHandler.kind with
  | standard => exact ⟨HandlerPlan.standard, by simp only [kind]; rfl⟩
  | deadLetterChannel =>
      cases written : config.errorHandler.deadLetterUri with
      | some uri =>
          exact ⟨HandlerPlan.deadLetterChannel (.uri uri), by simp only [kind, written]; rfl⟩
      | none =>
          rw [kind, written] at reachable
          contradiction

/-- A consumer with an interval between its polls stays a task after its first poll. -/
theorem exists_task_beginConsuming {consumer : PollingConsumer}
    (ticks : consumer.config.interval.isZero = false) (number : Nat) (timeline : Timeline) :
    ∃ task ∈ (Timeline.beginConsuming number consumer timeline).tasks, task.number = number := by
  rw [Timeline.beginConsuming, ticks]
  exact ⟨_, List.mem_append_right _ (List.mem_singleton_self _), rfl⟩

theorem neverFails_of_validate (valid : config.validate = .ok ()) : config.NeverFails := by
  obtain ⟨⟨policy, checked⟩, reachable, cacheSize, interval, queueSize⟩ :=
    validate_iff_checks.mp valid
  obtain ⟨plan, planned⟩ := exists_handlerPlan checked reachable
  exact
    { built := ⟨policy, _, checked, planned, rfl, alwaysComputes_of_check checked⟩
      capacity := max_eq_left (Nat.pos_of_ne_zero cacheSize)
      bound := max_eq_left (Nat.pos_of_ne_zero queueSize)
      ticks := by
        intro consumer same
        have ticks : consumer.config.interval.isZero = false := by rw [same, interval]
        exact ⟨ticks, exists_task_beginConsuming ticks⟩ }

theorem validate_of_read {text : String} (read : RoutingConfig.read text = .ok config) :
    config.validate = .ok () := by
  unfold RoutingConfig.read at read
  split at read
  · cases read
  · obtain ⟨_, valid, same⟩ := DelayPattern.bind_eq_ok_iff.mp read
    cases same
    exact valid

/-- A configuration is accepted exactly if each of its values is usable, and what is made of a text
that was accepted never fails afterwards. -/
theorem accepted_never_fails :
    (∀ config : RoutingConfig, config.validate = .ok () ↔ config.Acceptable) ∧
      ∀ text config, RoutingConfig.read text = .ok config → config.NeverFails :=
  ⟨fun _ => validate_iff_acceptable, fun _ _ read => neverFails_of_validate (validate_of_read read)⟩

/-- A configuration whose delays are moved by up to half of themselves. -/
def movingText : String :=
  "[error_handler]\nkind = \"dead_letter_channel\"\ndead_letter_uri = \"dlq:lost\"\n" ++
  "[error_handler.redelivery]\nuse_collision_avoidance = true\ncollision_avoidance_percent = 100\n" ++
  "[idempotent]\ncache_size = 7\n[consumer]\npoll_interval = \"1ns\"\n"

/-- The text is accepted: its repository keeps seven keys, the delay before each attempt is
computed, and a consumer with its interval of a nanosecond goes on. -/
theorem accepted_never_fails_moving :
    ∃ config, RoutingConfig.read movingText = .ok config ∧ config.Acceptable ∧
      config.repository.capacity = 7 ∧
      (∃ policy, config.redeliveryPolicy = .ok policy ∧ policy.collisionPercent = .ofNat 100 ∧
        policy.jitter.isEmpty = false ∧
        ∀ draw attempt, (policy.tryDelayFor draw attempt).isSome = true) ∧
      ∀ consumer : PollingConsumer, consumer.config = config.consumer →
        consumer.config.interval.isZero = false := by
  have evaluated : (RoutingConfig.read movingText).toOption.map
      (fun config => (config.idempotent.cacheSize, config.errorHandler.redelivery.collisionPercent)) =
      some (7, .ofNat 100) := by
    decide +kernel
  cases read : RoutingConfig.read movingText with
  | error failure =>
      rw [read] at evaluated
      cases evaluated
  | ok config =>
      rw [read] at evaluated
      obtain ⟨cacheSize, percent⟩ := Prod.mk.inj (Option.some.inj evaluated)
      have neverFails := accepted_never_fails.2 movingText config read
      have acceptable := (accepted_never_fails.1 config).mp (validate_of_read read)
      obtain ⟨policy, _, checked, _, _, computes⟩ := neverFails.built
      obtain ⟨_, _, _, rfl⟩ := RedeliverySettings.check_eq_ok_iff.mp checked
      refine ⟨config, rfl, acceptable, neverFails.capacity.trans cacheSize,
        ⟨_, checked, percent, computes.inhabited, fun draw attempt => ?_⟩,
        fun consumer same => (neverFails.ticks consumer same).1⟩
      rw [computes.delay]
      rfl

end RoutingConfig

end MessageRouting
