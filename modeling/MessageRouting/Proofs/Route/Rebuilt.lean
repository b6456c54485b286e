import MessageRouting.Proofs.Route.Arrival
import MessageRouting.Proofs.Route.Lead

/-!
# Routes that are built with other counts

The counts of duplicates that the consumers of a route keep depend on what was built
before. Steps that do not look at them are the same steps whenever they are built, and
the steps of a route are built one after the other, the last ones first.
-/

namespace MessageRouting

/-! ## Routes whose steps do not look at what is hidden -/

/-- Nothing that an error handler with these rules calls, and none of its conditions, looks at what
is hidden. -/
structure HandlerPlan.Blind (veil : Veil) (rules : HandlerPlan) : Prop where
  hooks : ∀ failure hook, rules.hookFor failure = some hook → hook.Blind veil
  destination : ∀ name processor, rules.deadLetter = some (.step name processor) →
    processor.Blind veil
  handled : ∀ failure condition,
    ((rules.strategy rules.policies failure).bind ExceptionPolicy.handled).or rules.handled =
        some condition →
      ∀ left right, veil.Same left right → condition left = condition right
  retryWhile : ∀ failure condition,
    (rules.strategy rules.policies failure).bind ExceptionPolicy.retryWhile = some condition →
      ∀ left right, veil.Same left right → condition left = condition right

/-- The step calls a processor; a consumer only holds back duplicates. -/
def RouteStep.calls : RouteStep → Bool
  | process _ => true
  | send _ => true
  | idempotent .. => false

namespace RoutePlan

/-- The steps and the error handler of the route do not look at what is hidden. -/
structure Blind (veil : Veil) (plan : RoutePlan) (steps : List RouteStep) : Prop where
  processes : ∀ processor, .process processor ∈ steps → processor.Blind veil
  consumers : ∀ key repository options, .idempotent key repository options ∈ steps →
    repository ≠ veil.repository ∧ ∀ left right, veil.Same left right → key left = key right
  handler : ∀ rules, plan.errorHandler = some rules → HandlerPlan.Blind veil rules

variable {veil : Veil} {plan : RoutePlan} {broker later : Broker}

theorem Blind.sublist {steps others : List RouteStep} (blind : plan.Blind veil others)
    (within : ∀ step ∈ steps, step ∈ others) : plan.Blind veil steps where
  processes processor listed := blind.processes processor (within _ listed)
  consumers key repository options listed :=
    blind.consumers key repository options (within _ listed)
  handler := blind.handler

theorem blind_of_build {rules : HandlerPlan} (blind : HandlerPlan.Blind veil rules)
    {processor : Processor} (step : processor.Blind veil) {handler : ErrorHandler}
    (built : HandlerPlan.build { rules with metrics := plan.metrics.or rules.metrics } broker
      processor = .ok handler) :
    handler.Blind veil := by
  have made : handler = { rules := handler.rules, output := processor } ∧
      handler.rules = { rules with
        metrics := plan.metrics.or rules.metrics, deadLetter := handler.rules.deadLetter } := by
    obtain ⟨deadLetter, _, made⟩ := ok_of_bind built
    obtain rfl := Except.ok.inj made
    exact ⟨rfl, rfl⟩
  have policies : handler.policyFor = rules.strategy rules.policies := by
    unfold ErrorHandler.policyFor
    rw [made.2]
  refine ⟨?_, ?_, ?_⟩
  · intro role called used
    cases role with
    | step =>
        rw [made.1] at used
        exact used ▸ step
    | hook =>
        obtain ⟨failure, found⟩ := used
        refine blind.hooks failure called ?_
        unfold ErrorHandler.hookUnder at found
        rw [policies, made.2] at found
        exact found
    | delivery name =>
        obtain ⟨failure, state, found⟩ := used
        rcases destination_of_build built found with ⟨registered, uri, produced⟩ | named
        · exact Veil.blind_of_registered produced
        · exact blind.destination name called named
  · intro failure condition found
    rw [policies, made.2] at found
    exact blind.handled failure condition found
  · intro failure condition found
    rw [policies] at found
    exact blind.retryWhile failure condition found

theorem blind_of_stage {steps : List RouteStep} (blind : plan.Blind veil steps)
    {processor : Processor} (step : processor.Blind veil) {stage : Stage}
    (built : plan.stage broker processor = .ok stage) : stage.Blind veil := by
  unfold RoutePlan.stage handlerPlan at built
  cases handles : plan.errorHandler with
  | none =>
      rw [handles] at built
      obtain rfl := Except.ok.inj built
      exact step
  | some rules =>
      rw [handles] at built
      obtain ⟨handler, resolved, rfl⟩ := ok_of_map built
      exact blind_of_build (blind.handler rules handles) step resolved

/-! ## Building with other counts -/

section

variable {step : RouteStep} {stage : Stage} {steps : List RouteStep} {assembly : Assembly}

theorem Stands.recounted (stands : plan.Stands broker step stage) (duplicates : Register Nat) :
    plan.Stands (broker.recounted duplicates) step stage := by
  have resolves : HandlerPlan.resolve (broker.recounted duplicates) =
      HandlerPlan.resolve broker := by
    funext destination
    cases destination <;> rfl
  have stages (processor : Processor) :
      plan.stage (broker.recounted duplicates) processor = plan.stage broker processor := by
    unfold RoutePlan.stage HandlerPlan.build
    rw [resolves]
  cases stands with
  | process first => exact .process ((stages _).trans first)
  | send registered first => exact .send registered ((stages _).trans first)

theorem Stands.blind (stands : plan.Stands broker step stage) (blind : plan.Blind veil steps)
    (listed : step ∈ steps) : stage.Blind veil := by
  cases stands with
  | process first => exact blind_of_stage blind (blind.processes _ listed) first
  | send registered first =>
      exact blind_of_stage blind (Veil.blind_sendTo (Veil.blind_of_registered registered)) first

/-- Building adds counts to the broker and nothing else. -/
theorem Assembles.exists_later (assembles : plan.Assembles broker steps assembly later) :
    ∃ duplicates, later = broker.recounted duplicates ∧
      broker.duplicates.next ≤ duplicates.next := by
  induction assembles with
  | done => exact ⟨broker.duplicates, rfl, Nat.le_refl _⟩
  | next _ _ inductionHypothesis => exact inductionHypothesis
  | behind _ inductionHypothesis =>
      obtain ⟨duplicates, rfl, grown⟩ := inductionHypothesis
      refine ⟨duplicates.add 0, rfl, ?_⟩
      rw [Register.next_add]
      exact Nat.le_succ_of_le grown

/-- Built from a broker with other counts, the steps differ in nothing but their counts. -/
theorem Assembles.recounted (assembles : plan.Assembles broker steps assembly later)
    (blind : plan.Blind veil steps) (hidden : veil.duplicates ≤ broker.duplicates.next)
    {duplicates : Register Nat} (hiddenToo : veil.duplicates ≤ duplicates.next) :
    ∃ other after, plan.Assembles (broker.recounted duplicates) steps other after ∧
      Assembly.Alike veil assembly other := by
  induction assembles with
  | done => exact ⟨.done, _, .done, .done⟩
  | next stands _ inductionHypothesis =>
      obtain ⟨other, after, assembled, alike⟩ := inductionHypothesis
        (blind.sublist fun _ listed => List.mem_cons_of_mem _ listed)
      exact ⟨_, after, .next (stands.recounted duplicates) assembled,
        .next (stands.blind blind List.mem_cons_self) alike⟩
  | @behind key repository options rest others later inner inductionHypothesis =>
      obtain ⟨other, after, assembled, alike⟩ := inductionHypothesis
        (blind.sublist fun _ listed => List.mem_cons_of_mem _ listed)
      obtain ⟨elsewhere, keyed⟩ := blind.consumers key repository options List.mem_cons_self
      obtain ⟨own, rfl, grown⟩ := inner.exists_later
      obtain ⟨ownToo, rfl, grownToo⟩ := assembled.exists_later
      have unseeing : (plan.consumer key repository options own.next others).Blind veil :=
        ⟨elsewhere, Nat.le_trans hidden grown, keyed⟩
      exact ⟨_, _, .behind assembled, .behind unseeing (Nat.le_trans hiddenToo grownToo) alike⟩

/-! ## Steps in front of others, built -/

theorem Assembles.of_consumer {key : Exchange → Option Value} {repository : Nat}
    {options : IdempotentOptions}
    (assembles : plan.Assembles broker (.idempotent key repository options :: steps) assembly
      later) :
    ∃ inner between, plan.Assembles broker steps inner between ∧
      assembly = .behind
        (plan.consumer key repository options between.duplicates.next inner) plan.id inner ∧
      later = between.recounted (between.duplicates.add 0) := by
  cases assembles with
  | next stands _ => cases stands
  | behind inner => exact ⟨_, _, inner, rfl, rfl⟩

theorem Assembles.append {before behind : List RouteStep} {whole : Assembly}
    (assembles : plan.Assembles broker (before ++ behind) whole later) :
    ∃ back between front,
      plan.Assembles broker behind back between ∧
        plan.Assembles between before front later ∧ whole = front.onto back := by
  induction before generalizing whole later with
  | nil => exact ⟨whole, later, .done, assembles, .done, rfl⟩
  | cons step rest inductionHypothesis =>
      cases assembles with
      | next stands assembled =>
          obtain ⟨back, between, front, last, earlier, rfl⟩ := inductionHypothesis assembled
          obtain ⟨duplicates, rfl, _⟩ := last.exists_later
          exact ⟨back, _, _, last, .next (stands.recounted duplicates) earlier, rfl⟩
      | behind assembled =>
          obtain ⟨back, between, front, last, earlier, rfl⟩ := inductionHypothesis assembled
          exact ⟨back, between, _, last, .behind earlier, rfl⟩

theorem Assembles.onto {before behind : List RouteStep} {front back : Assembly} {between : Broker}
    (earlier : plan.Assembles between before front later)
    (last : plan.Assembles broker behind back between) :
    plan.Assembles broker (before ++ behind) (front.onto back) later := by
  obtain ⟨duplicates, same, _⟩ := last.exists_later
  induction earlier with
  | done => exact last
  | next stands _ inductionHypothesis =>
      refine .next ?_ inductionHypothesis
      rw [same] at stands
      exact stands.recounted broker.duplicates
  | behind _ inductionHypothesis => exact .behind inductionHypothesis

/-- A step is put together for every one that calls a processor. -/
theorem Assembles.size_eq_zero (assembles : plan.Assembles broker steps assembly later) :
    assembly.size = 0 ↔ steps.any RouteStep.calls = false := by
  induction assembles with
  | done => exact ⟨fun _ => rfl, fun _ => rfl⟩
  | next stands _ _ => cases stands <;> exact ⟨nofun, nofun⟩
  | behind _ inductionHypothesis => exact inductionHypothesis

theorem Assembles.ne_done (assembles : plan.Assembles broker steps assembly later)
    (nonempty : steps ≠ []) : assembly ≠ .done := by
  cases assembles with
  | done => contradiction
  | next => exact nofun
  | behind => exact nofun

end

end RoutePlan

end MessageRouting
