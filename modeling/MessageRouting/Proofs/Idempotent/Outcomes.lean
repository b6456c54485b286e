import MessageRouting.Proofs.Engine.LogEnsures
import MessageRouting.Proofs.Idempotent.Settlement
import MessageRouting.Proofs.Route.Lead

/-!
# What a consumer does about duplicates

An exchange without a key is refused, a duplicate is marked and dropped or let through, and
any other exchange is let through once. What becomes of its key is decided when it is done,
in a unit of work at the end of that. Either way the decision is the same.
-/

namespace MessageRouting

namespace IdempotentConsumer

variable {consumer : IdempotentConsumer} {key : String} {held : KeyRepository} {seen : Nat}
  {exchange : Exchange}

/-! ## The steps behind a consumer -/

/-- The step behind a consumer touches neither the repository nor the count, also not by way of the
unit of work, which it does not lose. -/
structure Discreet (consumer : IdempotentConsumer) : Prop where
  holds : ∀ exchange held seen,
    (consumer.inner.invoke exchange).Ensures (consumer.Holds held seen) fun _ =>
      consumer.Holds held seen
  keeps : ∀ exchange, exchange.isInUnitOfWork = true →
    (consumer.inner.invoke exchange).Ensures (fun _ => True) fun ended _ =>
      ended.settlements consumer.repository = exchange.settlements consumer.repository

def Owes (consumer : IdempotentConsumer) (marked ended : Exchange) : Prop :=
  marked.isInUnitOfWork = true →
    ended.settlements consumer.repository = marked.settlements consumer.repository

theorem Discreet.ensures (discreet : consumer.Discreet) (marked : Exchange) :
    ((Watched.stepping consumer.inner).invoke marked).Ensures (consumer.Holds held seen)
      fun log ended broker => log = [.step ⟨marked, ended⟩] ∧ consumer.Owes marked ended ∧
        consumer.Holds held seen broker := by
  rw [Watched.invoke_stepping]
  refine Logged.ensures_act fun broker found => ⟨rfl, fun inside => ?_, ?_⟩
  · exact discreet.keeps marked inside broker trivial
  · exact discreet.holds marked held seen broker found

/-! ## The decision -/

theorem assess_of_keyless (keyless : consumer.keyOf exchange = none) :
    consumer.assess exchange = pure (.refused exchange (some (.noMessageId exchange.id.text))) := by
  unfold assess
  rw [keyless]

theorem ensures_assess_of_known (keyed : consumer.keyOf exchange = some key)
    (known : held.contains key = true) :
    (consumer.assess exchange).Ensures (consumer.Holds held seen) fun admission broker =>
      admission = (if consumer.options.skipDuplicate then
          .refused (exchange.put .duplicateMessage (.bool true)) none
        else .admitted (exchange.put .duplicateMessage (.bool true)) none) ∧
      consumer.Holds held (seen + 1) broker := by
  unfold assess
  rw [keyed]
  refine (consumer.ensures_accept key).bind fun isNew => ?_
  cases isNew with
  | true =>
      rintro broker ⟨new, _⟩
      rw [known] at new
      contradiction
  | false =>
      have counted : (Routine.modify fun broker : Broker =>
          { broker with
            duplicates := broker.duplicates.modify consumer.duplicates (· + 1) }).Ensures
          (fun broker => false = !held.contains key ∧
            consumer.Holds (consumer.claim key held).2 seen broker)
          (fun _ => consumer.Holds held (seen + 1)) := by
        refine Routine.ensures_modify fun broker ⟨_, repository, count⟩ => ?_
        rw [claim_of_known known] at repository
        refine ⟨repository, ?_⟩
        rw [Register.get?_modify, if_pos rfl, count]
        rfl
      refine counted.bind fun _ => (consumer.ensures_count _ _).bind fun _ => ?_
      by_cases skip : consumer.options.skipDuplicate = true
      · rw [if_pos skip, if_pos skip]
        exact Routine.ensures_pure fun _ found => ⟨rfl, found⟩
      · rw [if_neg skip, if_neg skip]
        exact Routine.ensures_pure fun _ found => ⟨rfl, found⟩

theorem ensures_assess_of_absent (keyed : consumer.keyOf exchange = some key)
    (absent : held.contains key = false) :
    (consumer.assess exchange).Ensures (consumer.Holds held seen) fun admission broker =>
      admission = (if exchange.isInUnitOfWork then
          .admitted
            (exchange.addCompletion (.settleKey consumer.repository key consumer.options)) none
        else .admitted exchange (some (.settleKey consumer.repository key consumer.options))) ∧
      consumer.Holds (consumer.claim key held).2 seen broker := by
  unfold assess
  rw [keyed]
  refine (consumer.ensures_accept key).bind fun isNew => ?_
  cases isNew with
  | true =>
      by_cases inside : exchange.isInUnitOfWork = true
      · rw [if_pos rfl, if_pos inside, if_pos inside]
        exact Routine.ensures_pure fun _ found => ⟨rfl, found.2⟩
      · rw [if_pos rfl, if_neg inside, if_neg inside]
        exact Routine.ensures_pure fun _ found => ⟨rfl, found.2⟩
  | false =>
      rintro broker ⟨new, _⟩
      rw [absent] at new
      contradiction

/-- The ways in which an exchange passes through a consumer: what is called, the exchange, the
repository and the count of duplicates afterwards. -/
inductive Passes (consumer : IdempotentConsumer) (exchange : Exchange) (held : KeyRepository)
    (seen : Nat) : History → Exchange → KeyRepository → Nat → Prop
  | keyless :
      consumer.keyOf exchange = none →
      Passes consumer exchange held seen [] (exchange.fail (.noMessageId exchange.id.text)) held
        seen
  | dropped {key : String} :
      consumer.keyOf exchange = some key → held.contains key = true →
      consumer.options.skipDuplicate = true →
      Passes consumer exchange held seen [] (exchange.put .duplicateMessage (.bool true)) held
        (seen + 1)
  | marked {key : String} {ended : Exchange} :
      consumer.keyOf exchange = some key → held.contains key = true →
      consumer.options.skipDuplicate = false →
      consumer.Owes (exchange.put .duplicateMessage (.bool true)) ended →
      Passes consumer exchange held seen
        [.step ⟨exchange.put .duplicateMessage (.bool true), ended⟩] ended held (seen + 1)
  | registered {key : String} {ended : Exchange} :
      consumer.keyOf exchange = some key → held.contains key = false →
      exchange.isInUnitOfWork = true →
      ended.settlements consumer.repository =
        exchange.settlements consumer.repository ++ [(key, consumer.options)] →
      Passes consumer exchange held seen
        [.step
          ⟨exchange.addCompletion (.settleKey consumer.repository key consumer.options), ended⟩]
        ended (consumer.claim key held).2 seen
  | settled {key : String} {ended : Exchange} :
      consumer.keyOf exchange = some key → held.contains key = false →
      exchange.isInUnitOfWork = false →
      Passes consumer exchange held seen [.step ⟨exchange, ended⟩] ended
        ((consumer.claim key held).2.settle consumer.options ended.succeeded key) seen

/-- A consumer in front of a step whose calls are logged. -/
def watched (consumer : IdempotentConsumer) : Watched Moment :=
  .behind consumer (.stepping consumer.inner) rfl

def handOn (consumer : IdempotentConsumer) (marked : Exchange) (due : Option Completion) :
    Logged Moment Broker Exchange := do
  let ended ← (Watched.stepping consumer.inner).invoke marked
  Logged.lift (settleDue due ended)
  return ended

theorem invoke_watched (consumer : IdempotentConsumer) (exchange : Exchange) :
    consumer.watched.invoke exchange =
      (Logged.lift (consumer.assess exchange) >>= fun
        | .refused marked failure => pure (marked.recording failure)
        | .admitted marked due => consumer.handOn marked due) := by
  unfold watched Watched.behind Watched.invoke
  rw [Logged.bind_assoc]
  refine congrArg (Logged.lift (consumer.assess exchange) >>= ·) (funext fun admission => ?_)
  cases admission with
  | refused marked failure => exact Logged.pure_bind _ _
  | admitted marked due =>
      dsimp only
      rw [Logged.bind_assoc]
      refine congrArg (Watched.invoke _ marked >>= ·) (funext fun ended => ?_)
      rw [Logged.bind_assoc]
      refine congrArg (Logged.lift _ >>= ·) (funext fun _ => ?_)
      exact Logged.pure_bind _ _

theorem ensures_settleDue (consumer : IdempotentConsumer) (due : Option Completion)
    (exchange : Exchange) :
    (settleDue due exchange).Ensures (consumer.Holds held seen) fun _ =>
      consumer.Holds (held.settleAll exchange.succeeded
        (due.bind (Completion.settlement? consumer.repository)).toList) seen := by
  cases due with
  | none => exact Routine.ensures_pure fun _ found => found
  | some completion => exact consumer.ensures_carryOut exchange completion

/-- An exchange that is admitted is in the hands of the step behind once, before what is due. -/
theorem Discreet.ensures_admitted (discreet : consumer.Discreet) (marked : Exchange)
    (due : Option Completion) :
    (consumer.handOn marked due).Ensures (consumer.Holds held seen) fun log ended broker =>
      log = [.step ⟨marked, ended⟩] ∧ consumer.Owes marked ended ∧
        consumer.Holds (held.settleAll ended.succeeded
          (due.bind (Completion.settlement? consumer.repository)).toList) seen broker := by
  refine (discreet.ensures marked).bind fun log ended => ?_
  refine Logged.ensures_of_fact fun called => Logged.ensures_of_fact fun owes => ?_
  refine Logged.ensures_lift_bind (consumer.ensures_settleDue due ended) fun _ => ?_
  exact Logged.ensures_pure fun _ settled => ⟨(List.append_nil log).trans called, owes, settled⟩

theorem Discreet.passes (discreet : consumer.Discreet) (exchange : Exchange) :
    (consumer.watched.invoke exchange).Ensures (consumer.Holds held seen) fun log ended broker =>
      ∃ left count, consumer.Passes exchange held seen log ended left count ∧
        consumer.Holds left count broker := by
  rw [invoke_watched]
  cases keyed : consumer.keyOf exchange with
  | none =>
      have decided : (pure (.refused exchange (some (.noMessageId exchange.id.text))) :
          Routine Broker Admission).Ensures (consumer.Holds held seen) fun admission broker =>
            admission = .refused exchange (some (.noMessageId exchange.id.text)) ∧
              consumer.Holds held seen broker :=
        Routine.ensures_pure fun _ found => ⟨rfl, found⟩
      rw [assess_of_keyless keyed]
      refine Logged.ensures_lift_bind decided fun admission => Logged.ensures_of_fact ?_
      rintro rfl
      exact Logged.ensures_pure fun _ found => ⟨held, seen, .keyless keyed, found⟩
  | some key =>
      cases contained : held.contains key with
      | true =>
          refine Logged.ensures_lift_bind (ensures_assess_of_known keyed contained)
            fun admission => Logged.ensures_of_fact ?_
          rintro rfl
          by_cases skip : consumer.options.skipDuplicate = true
          · rw [if_pos skip]
            exact Logged.ensures_pure fun _ found =>
              ⟨held, seen + 1, .dropped keyed contained skip, found⟩
          · rw [if_neg skip]
            refine (discreet.ensures_admitted _ none).weaken ?_
            rintro log ended broker ⟨rfl, owes, left⟩
            exact ⟨held, seen + 1, .marked keyed contained (eq_false_of_ne_true skip) owes, left⟩
      | false =>
          refine Logged.ensures_lift_bind (ensures_assess_of_absent keyed contained)
            fun admission => Logged.ensures_of_fact ?_
          rintro rfl
          by_cases inside : exchange.isInUnitOfWork = true
          · rw [if_pos inside]
            refine (discreet.ensures_admitted _ none).weaken ?_
            rintro log ended broker ⟨rfl, owes, left⟩
            have registered := owes ((exchange.isInUnitOfWork_addCompletion _).trans inside)
            rw [Exchange.settlements_addCompletion] at registered
            exact ⟨_, seen, .registered keyed contained inside registered, left⟩
          · rw [if_neg inside]
            refine (discreet.ensures_admitted _ _).weaken ?_
            rintro log ended broker ⟨rfl, _, left⟩
            have due : ((some (Completion.settleKey consumer.repository key consumer.options)).bind
                (Completion.settlement? consumer.repository)).toList = [(key, consumer.options)] :=
              congrArg Option.toList (if_pos rfl)
            rw [due] at left
            exact ⟨_, seen, .settled keyed contained (eq_false_of_ne_true inside), left⟩

/-! ## The table -/

theorem keyOf_eq_none_iff :
    consumer.keyOf exchange = none ↔ ∀ value ∈ consumer.key exchange,
      value.isNull = true ∨ exchange.context.converter.asText value = none := by
  unfold keyOf
  cases consumer.key exchange with
  | none => simp
  | some value => cases null : value.isNull <;> simp [null]

/-- What a consumer decides about an exchange: the calls of the step behind, the exchange, the
repository and the count of duplicates afterwards. Keys that were due on the exchange before are
settled first. -/
structure Decided (consumer : IdempotentConsumer) (exchange : Exchange) (held : KeyRepository)
    (seen : Nat) (due : List (String × IdempotentOptions)) (calls : List Visit) (after : Exchange)
    (left : KeyRepository) (count : Nat) : Prop where
  keyless : (∀ value ∈ consumer.key exchange,
      value.isNull = true ∨ exchange.context.converter.asText value = none) →
    calls = [] ∧ after = (exchange.fail (.noMessageId exchange.id.text)).bare ∧
      left = held.settleAll after.succeeded due ∧ count = seen
  known : ∀ key, consumer.keyOf exchange = some key → held.contains key = true →
    calls = (if consumer.options.skipDuplicate then []
      else [⟨(exchange.put .duplicateMessage (.bool true)).bare, after⟩]) ∧
      (consumer.options.skipDuplicate = true →
        after = (exchange.put .duplicateMessage (.bool true)).bare) ∧
      left = held.settleAll after.succeeded due ∧ count = seen + 1
  absent : ∀ key, consumer.keyOf exchange = some key → held.contains key = false →
    calls = [⟨exchange.bare, after⟩] ∧
      left = ((consumer.claim key held).2.settleAll after.succeeded due).settle consumer.options
        after.succeeded key ∧ count = seen ∧
      (due = [] →
        (left.contains key = true ↔
          after.isFailed = false ∧ after.flag .failureHandled = false ∨
            consumer.options.eager = true ∧ consumer.options.removeOnFailure = false) ∧
        left = { held with
          keys := (if consumer.options.eager || after.succeeded then held.kept else held.keys) ++
            if consumer.remembers after.succeeded then [key] else [] })

section

variable {due : List (String × IdempotentOptions)} {calls : List Visit} {after ended : Exchange}
  {left : KeyRepository} {count : Nat} {log : History}

theorem decided_of_keyless (keyless : consumer.keyOf exchange = none)
    (refused : after = (exchange.fail (.noMessageId exchange.id.text)).bare) :
    consumer.Decided exchange held seen due [] after (held.settleAll after.succeeded due) seen where
  keyless _ := ⟨rfl, refused, rfl, rfl⟩
  known key keyed := absurd (keyless.symm.trans keyed) (Option.some_ne_none key).symm
  absent key keyed := absurd (keyless.symm.trans keyed) (Option.some_ne_none key).symm

theorem decided_of_known (keyed : consumer.keyOf exchange = some key)
    (contained : held.contains key = true)
    (called : calls = if consumer.options.skipDuplicate then []
      else [⟨(exchange.put .duplicateMessage (.bool true)).bare, after⟩])
    (dropped : consumer.options.skipDuplicate = true →
      after = (exchange.put .duplicateMessage (.bool true)).bare) :
    consumer.Decided exchange held seen due calls after (held.settleAll after.succeeded due)
      (seen + 1) where
  keyless none := absurd (keyed.symm.trans (keyOf_eq_none_iff.mpr none)) (Option.some_ne_none key)
  known _ _ _ := ⟨called, dropped, rfl, rfl⟩
  absent other same none := by
    obtain rfl := Option.some.inj (keyed.symm.trans same)
    rw [contained] at none
    contradiction

theorem decided_of_absent (keyed : consumer.keyOf exchange = some key)
    (absent : held.contains key = false) :
    consumer.Decided exchange held seen due [⟨exchange.bare, after⟩] after
      (((consumer.claim key held).2.settleAll after.succeeded due).settle consumer.options
        after.succeeded key) seen where
  keyless none := absurd (keyed.symm.trans (keyOf_eq_none_iff.mpr none)) (Option.some_ne_none key)
  known other same contained := by
    obtain rfl := Option.some.inj (keyed.symm.trans same)
    rw [absent] at contained
    contradiction
  absent other same _ := by
    obtain rfl := Option.some.inj (keyed.symm.trans same)
    refine ⟨rfl, rfl, rfl, ?_⟩
    rintro rfl
    refine ⟨?_, settle_claim absent after.succeeded⟩
    rw [← remembers_eq_true, ← contains_settle_claim absent after.succeeded]
    rfl

theorem Passes.decided (passes : consumer.Passes exchange held seen log ended left count)
    (outside : exchange.isInUnitOfWork = false) :
    consumer.Decided exchange held seen [] (log.steps.map Visit.bare) ended.bare left count := by
  cases passes with
  | keyless none => exact decided_of_keyless none rfl
  | dropped keyed contained skip =>
      exact decided_of_known keyed contained (by rw [skip]; rfl) fun _ => rfl
  | marked keyed contained forwards =>
      refine decided_of_known keyed contained (by rw [forwards]; rfl) fun skip => ?_
      rw [forwards] at skip
      contradiction
  | registered _ _ inside =>
      rw [outside] at inside
      contradiction
  | settled keyed absent => exact decided_of_absent keyed absent

/-- In a unit of work the table holds once that has ended. -/
theorem Passes.decided_at_end (passes : consumer.Passes exchange held seen log ended left count)
    (inside : exchange.isInUnitOfWork = true) :
    consumer.Decided exchange held seen (exchange.settlements consumer.repository)
      (log.steps.map Visit.bare) ended.bare
      (left.settleAll ended.succeeded (ended.settlements consumer.repository)) count := by
  cases passes with
  | keyless none => exact decided_of_keyless none rfl
  | dropped keyed contained skip =>
      exact decided_of_known keyed contained (by rw [skip]; rfl) fun _ => rfl
  | marked keyed contained forwards owes =>
      rw [owes inside]
      refine decided_of_known keyed contained (by rw [forwards]; rfl) fun skip => ?_
      rw [forwards] at skip
      contradiction
  | registered keyed absent _ due =>
      rw [due, KeyRepository.settleAll_append]
      exact decided_of_absent keyed absent
  | settled _ _ outside =>
      rw [inside] at outside
      contradiction

end

/-- The consumer leaves behind what the table says. -/
def Decides (consumer : IdempotentConsumer) (exchange : Exchange) (held : KeyRepository)
    (seen : Nat) (due : List (String × IdempotentOptions)) (log : History) (ended : Exchange)
    (broker : Broker) : Prop :=
  ∃ left count,
    consumer.Decided exchange held seen due (log.steps.map Visit.bare) ended.bare left count ∧
      consumer.Holds left count broker

theorem Discreet.decides_at_end (discreet : consumer.Discreet)
    (outside : exchange.isInUnitOfWork = false) :
    (consumer.watched.inUnitOfWork.invoke exchange).Ensures (consumer.Holds held seen)
      (consumer.Decides exchange.enterUnitOfWork held seen
        (exchange.settlements consumer.repository)) := by
  rw [Watched.inUnitOfWork, Watched.invoke_silent, outside, if_neg Bool.false_ne_true]
  refine (discreet.passes exchange.enterUnitOfWork).bind fun log ended => ?_
  refine Logged.ensures_of_exists fun left => Logged.ensures_of_exists fun count =>
    Logged.ensures_of_fact fun passes => ?_
  refine Logged.ensures_lift fun broker found => ?_
  obtain ⟨bare, holds⟩ := consumer.ensures_endUnitOfWork ended broker found
  have decided := passes.decided_at_end exchange.isInUnitOfWork_enterUnitOfWork
  rw [Exchange.settlements_enterUnitOfWork] at decided
  refine ⟨_, count, ?_, holds⟩
  rw [List.append_nil, bare]
  exact decided

/-- What a consumer does with an exchange that is not in a unit of work, by itself or in a unit of
work that it runs in: what is called, what becomes of the key and of the other keys, and whether a
duplicate is counted is decided alike, by its options, the key and the end of the processing. -/
theorem decides_alike (discreet : consumer.Discreet) (outside : exchange.isInUnitOfWork = false)
    (held : KeyRepository) (seen : Nat) :
    (consumer.watched.invoke exchange).result = consumer.toProcessor.invoke exchange ∧
      (consumer.watched.inUnitOfWork.invoke exchange).result =
        consumer.toProcessor.inUnitOfWork.invoke exchange ∧
      (consumer.watched.invoke exchange).Ensures (consumer.Holds held seen)
        (consumer.Decides exchange held seen []) ∧
      (consumer.watched.inUnitOfWork.invoke exchange).Ensures (consumer.Holds held seen)
        (consumer.Decides exchange.enterUnitOfWork held seen
          (exchange.settlements consumer.repository)) := by
  refine ⟨consumer.watched.result_invoke exchange,
    consumer.watched.inUnitOfWork.result_invoke exchange, ?_, discreet.decides_at_end outside⟩
  refine (discreet.passes exchange).weaken ?_
  rintro log ended broker ⟨left, count, passes, holds⟩
  exact ⟨left, count, passes.decided outside, holds⟩

/-! ## A key that is taken back -/

theorem discreet_of_function {name : String} {change : Exchange → Exchange × Option Failure}
    (same : consumer.inner = .ofFunction name change)
    (keeps : ∀ exchange, (change exchange).1.unitOfWork = exchange.unitOfWork) :
    consumer.Discreet where
  holds exchange held seen := by
    rw [same]
    exact Routine.ensures_pure fun _ found => found
  keeps exchange _ := by
    rw [same]
    refine Routine.ensures_pure fun _ _ => Exchange.settlements_congr ?_
    cases (change exchange).2 <;> exact keeps exchange

/-- A consumer in front of a step that fails. It takes back the key of an exchange that failed. -/
def releasing : IdempotentConsumer where
  key _ := some (.text "key")
  repository := 0
  options := { removeOnFailure := true }
  duplicates := 0
  inner := .ofFunction "failing" fun exchange => (exchange, some (.plain "refused"))

/-- The key of the exchange makes the oldest one go, and is taken back. -/
theorem decides_alike_releasing :
    let broker : Broker := { repositories := ⟨[⟨1, ["old"]⟩]⟩, duplicates := ⟨[0]⟩ }
    releasing.Discreet ∧ ErrorHandler.fresh.isInUnitOfWork = false ∧
      releasing.Holds ⟨1, []⟩ 0 ((releasing.watched.invoke ErrorHandler.fresh).after broker) ∧
      releasing.Holds ⟨1, []⟩ 0
        ((releasing.watched.inUnitOfWork.invoke ErrorHandler.fresh).after broker) := by
  have discreet : releasing.Discreet := discreet_of_function rfl fun _ => rfl
  have outside : ErrorHandler.fresh.isInUnitOfWork = false := rfl
  have taken : ∀ {arrived ended : Exchange} {log : History} {broker : Broker},
      releasing.keyOf arrived = some "key" → ended.bare.succeeded = false →
      releasing.Decides arrived ⟨1, ["old"]⟩ 0 [] log ended broker →
      releasing.Holds ⟨1, []⟩ 0 broker := by
    rintro arrived ended log broker keyed failed ⟨left, count, decided, found⟩
    obtain ⟨_, _, rfl, settled⟩ := decided.absent "key" keyed (by decide +kernel)
    rw [(settled rfl).2, failed] at found
    exact found
  intro broker
  have holds : releasing.Holds ⟨1, ["old"]⟩ 0 broker := ⟨rfl, rfl⟩
  obtain ⟨_, _, alone, inside⟩ := decides_alike discreet outside ⟨1, ["old"]⟩ 0
  exact ⟨discreet, outside, taken (by decide +kernel) (by decide +kernel) (alone broker holds),
    taken (by decide +kernel) (by decide +kernel) (inside broker holds)⟩

end IdempotentConsumer

end MessageRouting
