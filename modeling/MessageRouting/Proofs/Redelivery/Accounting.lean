import Mathlib.Algebra.GroupWithZero.Nat
import Mathlib.Algebra.Order.BigOperators.Group.List
import Mathlib.Algebra.Order.Group.Nat
import MessageRouting.Proofs.Redelivery.Endings
import MessageRouting.Proofs.Redelivery.Proceeding

/-!
# Redelivery accounting

A pass through an error handler is the first call of the step, then one round for each
decision to try again, then what ends the pass. The rounds are numbered from one. Each
of them is counted once and reported once, waits for the delay of its number, and runs
once what is to run before a redelivery. The number of rounds is what the metrics, the
counter on the exchange and a successful outcome tell.
-/

namespace MessageRouting

/-! ## Time and counters in an account -/

namespace Act

def waitTime : Act → Nat
  | waited delay => delay.nanoseconds
  | _ => 0

def callTime : Act → Broker → Nat
  | called _ processor visit, broker => ((processor.invoke visit.before).run broker).2.2.nanoseconds
  | _, _ => 0

def countsRedelivery (metrics : Nat) : Act → Bool
  | counted handle tally => handle == metrics && tally == .redelivery
  | _ => false

def timeWaited (acts : List Act) : Nat :=
  (acts.map waitTime).sum

theorem timeWaited_pauses (delay : Duration) : timeWaited (pauses delay) = delay.nanoseconds := by
  unfold timeWaited pauses reports
  cases delay.isZero <;> simp [waitTime, RedeliveryEvent.level]

/-- The time that the processors that are called take for themselves. -/
def timeOfCalls : List Act → Broker → Nat
  | [], _ => 0
  | act :: rest, broker => act.callTime broker + timeOfCalls rest (act.perform broker).1

theorem time_of_perform (act : Act) (broker : Broker) :
    (act.perform broker).2.nanoseconds = act.waitTime + act.callTime broker := by
  cases act with
  | called role processor visit => exact (Nat.zero_add _).symm
  | _ => rfl

/-- Nothing takes time but waits and calls. -/
theorem time_of_replay (acts : List Act) (broker : Broker) :
    (replay perform acts broker).2 = timeWaited acts + timeOfCalls acts broker := by
  induction acts generalizing broker with
  | nil => rfl
  | cons act rest inductionHypothesis =>
      have own := time_of_perform act broker
      have later := inductionHypothesis (act.perform broker).1
      unfold timeWaited at later ⊢
      rw [replay, timeOfCalls, List.map_cons, List.sum_cons, later, own]
      omega

end Act

/-- The redeliveries that the metrics with the given handle show, if there are any. -/
def Broker.redeliveriesIn (broker : Broker) (metrics : Nat) : Option Nat :=
  (broker.metrics.get? metrics).map fun found => found.counters.redeliveries

namespace Act

def CallsUncounted (metrics : Nat) (acts : List Act) : Prop :=
  ∀ role processor visit, Act.called role processor visit ∈ acts → ∀ broker : Broker,
    ((processor.invoke visit.before).run broker).2.1.redeliveriesIn metrics =
      broker.redeliveriesIn metrics

theorem redeliveries_record (tally : Tally) (metrics : Metrics) :
    (tally.record metrics).counters.redeliveries =
      if tally == .redelivery then countUp metrics.counters.redeliveries
      else metrics.counters.redeliveries := by
  cases tally <;> rfl

/-- What one act does to the redeliveries in the metrics. -/
theorem redeliveriesIn_perform {metrics : Nat} {act : Act}
    (uncounted : CallsUncounted metrics [act]) (broker : Broker) :
    (act.perform broker).1.redeliveriesIn metrics =
      if act.countsRedelivery metrics then (broker.redeliveriesIn metrics).map countUp
      else broker.redeliveriesIn metrics := by
  cases act with
  | called role processor visit =>
      exact uncounted role processor visit (List.mem_singleton_self _) broker
  | counted handle tally =>
      change ((broker.metrics.modify handle tally.record).get? metrics).map _ = _
      rw [Register.get?_modify]
      unfold countsRedelivery Broker.redeliveriesIn
      by_cases same : handle = metrics
      · subst same
        cases broker.metrics.get? handle with
        | none => simp
        | some found =>
            have recorded := redeliveries_record tally found
            cases counts : tally == .redelivery <;> simp [recorded, counts]
      · simp [same]
  | drew chance =>
      simp [perform, Broker.drawChance, Routine.change, Routine.run, Broker.redeliveriesIn,
        countsRedelivery]
  | _ => rfl

/-- The redeliveries in the metrics grow by those that the acts count, up to the largest number. -/
theorem redeliveriesIn_replay {metrics : Nat} {acts : List Act}
    (uncounted : CallsUncounted metrics acts) {broker : Broker} {before : Nat}
    (found : broker.redeliveriesIn metrics = some before) (bounded : before ≤ Text.maxU64) :
    (replay perform acts broker).1.redeliveriesIn metrics =
      some (min (before + acts.countP (countsRedelivery metrics)) Text.maxU64) := by
  induction acts generalizing broker before with
  | nil =>
      change broker.redeliveriesIn metrics = some (min (before + 0) Text.maxU64)
      rw [found, Nat.add_zero, Nat.min_eq_left bounded]
  | cons act rest inductionHypothesis =>
      have own : CallsUncounted metrics [act] := by
        intro role processor visit called
        obtain rfl := List.mem_singleton.mp called
        exact uncounted role processor visit List.mem_cons_self
      have others : CallsUncounted metrics rest := fun role processor visit called =>
        uncounted role processor visit (List.mem_cons_of_mem _ called)
      have step := redeliveriesIn_perform own broker
      rw [found] at step
      rw [replay, List.countP_cons]
      by_cases counts : act.countsRedelivery metrics = true
      · rw [if_pos counts] at step ⊢
        have within : countUp before ≤ Text.maxU64 := Nat.min_le_right _ _
        rw [inductionHypothesis others step within]
        unfold countUp
        congr 1
        omega
      · rw [if_neg counts] at step ⊢
        rw [inductionHypothesis others step bounded]
        rfl

def event? : Act → Option RedeliveryEvent
  | reported event => some event
  | _ => none

/-- The calls among the acts report nothing themselves. -/
def CallsSilent (acts : List Act) : Prop :=
  ∀ role processor visit, Act.called role processor visit ∈ acts → ∀ broker : Broker,
    ((processor.invoke visit.before).run broker).2.1.events = broker.events

/-- The events grow by those that the acts report. -/
theorem events_replay {acts : List Act} (silent : CallsSilent acts) (broker : Broker) :
    (replay perform acts broker).1.events = (acts.filterMap event?).reverse ++ broker.events := by
  induction acts generalizing broker with
  | nil => rfl
  | cons act rest inductionHypothesis =>
      have others : CallsSilent rest := fun role processor visit called =>
        silent role processor visit (List.mem_cons_of_mem _ called)
      rw [replay, inductionHypothesis others]
      cases act with
      | called role processor visit =>
          exact congrArg _ (silent role processor visit List.mem_cons_self broker)
      | reported event => simp [event?, perform]
      | drew chance =>
          simp [event?, perform, Broker.drawChance, Routine.change, Routine.run,
            List.filterMap_cons]
      | _ => rfl

end Act

def RedeliveryEvent.isRetry : RedeliveryEvent → Bool
  | redelivery .. => true
  | _ => false

def Act.retries (acts : List Act) : List RedeliveryEvent :=
  (acts.filterMap event?).filter RedeliveryEvent.isRetry

theorem Act.retries_append (first second : List Act) :
    retries (first ++ second) = retries first ++ retries second := by
  rw [retries, List.filterMap_append, List.filter_append, retries, retries]

namespace ErrorHandler

/-! ## Rounds -/

/-- One decision to try again and what comes of it: the number of the redelivery, the failure upon
which it is decided, the chance that is drawn for its delay, and the calls of what is to run before
it and of the step. -/
structure Round where
  number : Nat
  failure : Failure
  chance : Nat
  hooked : Option Visit
  stepped : Option Visit

/-- The call of what is to run before a redelivery. -/
def hooking : Option Processor → Option Visit → List Act
  | some hook, some visit => [.called .hook hook visit]
  | _, _ => []

def stepping (handler : ErrorHandler) : Option Visit → List Act
  | some visit => [.called .step handler.output visit]
  | none => []

namespace Round

variable (handler : ErrorHandler) (round : Round)

/-- What precedes the redelivery. -/
def preparation : Preparation :=
  handler.retryPreparation round.failure round.number round.chance

/-- What is written down about a round, in this order: the failure and the decision, the wait, what
is to run before the redelivery, and the step. -/
def acts : List Act :=
  handler.decision round.failure round.number round.chance ++
    (Act.pauses (round.preparation handler).delay ++
      (hooking (round.preparation handler).hook round.hooked ++ handler.stepping round.stepped))

def notice : List RedeliveryEvent :=
  let policy := handler.redeliveryUnder (handler.policyFor round.failure)
  if policy.logRetry = true ∧ policy.retryLevel ≠ .off then
    [.redelivery policy.retryLevel round.number (round.preparation handler).delay
      (detail policy round.failure)]
  else []

/-- What is to run before a redelivery runs, and the step runs unless that failed. -/
structure Sound : Prop where
  hooked : round.hooked.isSome = (round.preparation handler).hook.isSome
  stepped : round.stepped.isSome = true ↔ ∀ visit ∈ round.hooked, visit.after.exception = none

theorem timeWaited_acts :
    Act.timeWaited (round.acts handler) = (round.preparation handler).delay.nanoseconds := by
  have decided : ((handler.decision round.failure round.number round.chance).map
      Act.waitTime).sum = 0 := by
    unfold decision retryNotice Act.reports
    cases handler.rules.metrics <;> split <;> (try split) <;> rfl
  have paused := Act.timeWaited_pauses (round.preparation handler).delay
  have hooked : ((hooking (round.preparation handler).hook round.hooked).map Act.waitTime).sum =
      0 := by
    unfold hooking
    split <;> rfl
  have stepped : ((handler.stepping round.stepped).map Act.waitTime).sum = 0 := by
    cases round.stepped <;> rfl
  unfold Act.timeWaited at paused ⊢
  unfold acts
  simp only [List.map_append, List.sum_append, decided, paused, hooked, stepped, Nat.zero_add,
    Nat.add_zero]

theorem countP_acts {metrics : Nat} (kept : handler.rules.metrics = some metrics) :
    (round.acts handler).countP (Act.countsRedelivery metrics) = 1 := by
  have decided : (handler.decision round.failure round.number round.chance).countP
      (Act.countsRedelivery metrics) = 1 := by
    unfold decision retryNotice Act.reports
    rw [kept]
    split <;> (try split) <;> simp [Act.counts, Act.countsRedelivery]
  have paused : (Act.pauses (round.preparation handler).delay).countP
      (Act.countsRedelivery metrics) = 0 := by
    unfold Act.pauses Act.reports
    cases (round.preparation handler).delay.isZero <;> rfl
  have hooked : (hooking (round.preparation handler).hook round.hooked).countP
      (Act.countsRedelivery metrics) = 0 := by
    unfold hooking
    split <;> rfl
  have stepped : (handler.stepping round.stepped).countP (Act.countsRedelivery metrics) = 0 := by
    cases round.stepped <;> rfl
  unfold acts
  simp only [List.countP_append, decided, paused, hooked, stepped, Nat.add_zero]

theorem retries_acts : Act.retries (round.acts handler) = round.notice handler := by
  have decided : Act.retries (handler.decision round.failure round.number round.chance) =
      round.notice handler := by
    unfold decision retryNotice Act.reports notice preparation
    generalize handler.redeliveryUnder (handler.policyFor round.failure) = policy
    by_cases logged : policy.logRetry = true <;> by_cases off : policy.retryLevel = .off <;>
      cases handler.rules.metrics <;>
      simp [logged, off, Act.retries, Act.event?, Act.counts, RedeliveryEvent.level,
        RedeliveryEvent.isRetry] <;> rfl
  have paused : Act.retries (Act.pauses (round.preparation handler).delay) = [] := by
    unfold Act.pauses Act.reports
    cases (round.preparation handler).delay.isZero <;> rfl
  have hooked : Act.retries (hooking (round.preparation handler).hook round.hooked) = [] := by
    unfold hooking
    split <;> rfl
  have stepped : Act.retries (handler.stepping round.stepped) = [] := by
    cases round.stepped <;> rfl
  unfold acts
  simp only [Act.retries_append, decided, paused, hooked, stepped, List.append_nil]

end Round

/-! ## Attempts -/

section

variable {handler : ErrorHandler} {acts : List Act} {exchange after : Exchange}

theorem stepping_of_gives {ready : Exchange}
    (given : (accountStep (Act.call .step handler.output) ready).Gives acts after) :
    ∃ stepped, acts = handler.stepping stepped ∧
      (stepped.isSome = true ↔ ready.exception = none) := by
  unfold accountStep at given
  cases failed : ready.exception with
  | none =>
      rw [failed, Option.isNone_none, if_pos rfl] at given
      obtain ⟨rfl, _⟩ := Act.gives_call.mp given
      exact ⟨some ⟨ready, after⟩, rfl, fun _ => rfl, fun _ => rfl⟩
  | some failure =>
      rw [failed, Option.isNone_some, if_neg Bool.false_ne_true] at given
      obtain ⟨rfl, _⟩ := Logged.gives_pure.mp given
      exact ⟨none, rfl, by simp⟩

theorem hooking_of_gives {hook : Option Processor} {ready : Exchange}
    (unfailed : exchange.exception = none)
    (given : (accountHook hook exchange).Gives acts ready) :
    ∃ hooked, acts = hooking hook hooked ∧ hooked.isSome = hook.isSome ∧
      (ready.exception = none ↔ ∀ visit ∈ hooked, visit.after.exception = none) := by
  cases hook with
  | none =>
      obtain ⟨rfl, rfl⟩ := Logged.gives_pure.mp given
      exact ⟨none, rfl, rfl, fun _ visit none => (nomatch none), fun _ => unfailed⟩
  | some hook =>
      obtain ⟨rfl, _⟩ := Act.gives_call.mp given
      refine ⟨some ⟨exchange, ready⟩, rfl, rfl, ?_, ?_⟩
      · rintro sound visit ⟨⟩
        exact sound
      · intro sound
        exact sound _ rfl

/-- A redelivery waits, runs what is to run before it, and runs the step unless that failed. -/
theorem attempting_of_gives {preparation : Preparation}
    (given : (accountAttempt (Act.call .step handler.output) (some preparation) exchange).Gives
      acts after) :
    ∃ hooked stepped,
      acts = Act.pauses preparation.delay ++
          (hooking preparation.hook hooked ++ handler.stepping stepped) ∧
        hooked.isSome = preparation.hook.isSome ∧
        (stepped.isSome = true ↔ ∀ visit ∈ hooked, visit.after.exception = none) := by
  obtain ⟨_, ready, calls, prepared, called, rfl⟩ := Logged.gives_bind.mp given
  obtain ⟨_, _, hooks, paused, hookedAct, rfl⟩ := Logged.gives_bind.mp prepared
  obtain rfl := Act.pauses_of_gives paused
  obtain ⟨hooked, rfl, there, ready⟩ := hooking_of_gives rfl hookedAct
  obtain ⟨stepped, rfl, runs⟩ := stepping_of_gives called
  exact ⟨hooked, stepped, List.append_assoc _ _ _, there, runs.trans ready⟩

/-- An attempt leaves a property to its calls. -/
theorem known?_of_attempt {preparation : Option Preparation} {property : Property}
    (given : (accountAttempt (Act.call .step handler.output) preparation exchange).Gives acts after)
    (other : property ≠ .errorHandlerHandled) (kept : Act.Keep property acts) :
    after.known? property = exchange.known? property := by
  have step {ready : Exchange} {calls : List Act} (kept : Act.Keep property calls)
      (given : (accountStep (Act.call .step handler.output) ready).Gives calls after) :
      after.known? property = ready.known? property := by
    unfold accountStep at given
    split at given
    · obtain ⟨rfl, _⟩ := Act.gives_call.mp given
      exact kept _ (List.mem_singleton_self _)
    · obtain ⟨_, rfl⟩ := Logged.gives_pure.mp given
      rfl
  cases preparation with
  | none => exact step kept given
  | some preparation =>
      obtain ⟨_, ready, calls, prepared, called, rfl⟩ := Logged.gives_bind.mp given
      obtain ⟨_, _, hooks, _, hookedAct, rfl⟩ := Logged.gives_bind.mp prepared
      have keptCalls : Act.Keep property calls :=
        kept.of_subset fun _ listed => List.mem_append_right _ listed
      have keptHooks : Act.Keep property hooks :=
        kept.of_subset fun _ listed => List.mem_append_left _ (List.mem_append_right _ listed)
      have ready : ready.known? property = (cleared exchange).known? property := by
        cases found : preparation.hook with
        | none =>
            rw [found] at hookedAct
            obtain ⟨_, rfl⟩ := Logged.gives_pure.mp hookedAct
            rfl
        | some hook =>
            rw [found] at hookedAct
            obtain ⟨rfl, _⟩ := Act.gives_call.mp hookedAct
            exact keptHooks _ (List.mem_singleton_self _)
      rw [step keptCalls called, ready, known?_cleared, if_neg other]

/-! ## The books of a pass -/

/-- The exchange tells the number of redeliveries. -/
structure Booked (exchange : Exchange) (redeliveries : Nat) : Prop where
  counter : exchange.known? .redeliveryCounter = counterAfter redeliveries
  redelivered : exchange.known? .redelivered =
    if redeliveries = 0 then none else some (.bool true)

theorem Booked.of_same {other : Exchange} {redeliveries : Nat}
    (booked : Booked exchange redeliveries)
    (same : ∀ property ∈ [Property.redeliveryCounter, .redelivered],
      other.known? property = exchange.known? property) :
    Booked other redeliveries where
  counter := (same _ (by simp)).trans booked.counter
  redelivered := (same _ (by simp)).trans booked.redelivered

theorem booked_counted {redeliveries : Nat} : Booked (counted exchange (redeliveries + 1))
    (redeliveries + 1) where
  counter := by simp [counterAfter]
  redelivered := by simp

theorem booked_ranOut {failure : Failure} {redeliveries : Nat} :
    Booked (ranOut exchange failure redeliveries) redeliveries where
  counter := by simp [known?_ranOut]
  redelivered := by simp [known?_ranOut]

/-- The acts behind an attempt are rounds and then what ends the pass. `redeliveries` ran before. -/
structure Books (handler : ErrorHandler) (redeliveries : Nat) (attempted : Exchange)
    (acts : List Act) (result : Exchange × Outcome) (rounds : List Round) (ending : List Act) :
    Prop where
  whole : acts = rounds.flatMap (Round.acts handler) ++ ending
  sound : ∀ round ∈ rounds, round.Sound handler
  numbered : rounds.map Round.number = List.range' (redeliveries + 1) rounds.length
  ended : ∀ act ∈ ending, act.isRedelivering = false
  success : ∀ number, result.2 = .success number → number = redeliveries + rounds.length
  booked : Act.Keep .redeliveryCounter acts → Act.Keep .redelivered acts →
    Booked attempted redeliveries → Booked result.1 (redeliveries + rounds.length)

/-- A pass that ends without a further attempt has no rounds. -/
theorem Books.last {redeliveries : Nat} {result : Exchange × Outcome}
    (ended : ∀ act ∈ acts, act.isRedelivering = false)
    (success : ∀ number, result.2 = .success number → number = redeliveries)
    (booked : Act.Keep .redeliveryCounter acts → Act.Keep .redelivered acts →
      Booked exchange redeliveries → Booked result.1 redeliveries) :
    Books handler redeliveries exchange acts result [] acts where
  whole := rfl
  sound := fun _ impossible => nomatch impossible
  numbered := rfl
  ended := ended
  success := success
  booked := booked

theorem writes_reports {event : RedeliveryEvent}
    (other : (Act.reported event).isRedelivering = false) :
    ∀ act ∈ Act.reports event, act.isRedelivering = false := by
  intro act written
  unfold Act.reports at written
  split at written
  · contradiction
  · obtain rfl := List.mem_singleton.mp written
    exact other

/-- A round goes in front of the rounds that follow it. -/
theorem Books.round {redeliveries : Nat} {attempted : Exchange} {later ending : List Act}
    {result : Exchange × Outcome} {rounds : List Round} {round : Round}
    (books : Books handler (redeliveries + 1) attempted later result rounds ending)
    (sound : round.Sound handler) (number : round.number = redeliveries + 1)
    (booked : Act.Keep .redeliveryCounter (round.acts handler) →
      Act.Keep .redelivered (round.acts handler) → Booked attempted (redeliveries + 1)) :
    Books handler redeliveries exchange (round.acts handler ++ later) result (round :: rounds)
      ending where
  whole := by
    rw [books.whole, List.flatMap_cons, List.append_assoc]
  sound := by
    intro other listed
    rcases List.mem_cons.mp listed with rfl | later
    · exact sound
    · exact books.sound other later
  numbered := by
    rw [List.map_cons, List.length_cons, List.range'_succ, number, books.numbered]
  ended := books.ended
  success := by
    intro found success
    have same := books.success found success
    rw [List.length_cons]
    omega
  booked := by
    intro keptCounter keptRedelivered _
    have early : ∀ act ∈ round.acts handler, act ∈ round.acts handler ++ later :=
      fun _ listed => List.mem_append_left _ listed
    have late : ∀ act ∈ later, act ∈ round.acts handler ++ later :=
      fun _ listed => List.mem_append_right _ listed
    have start := booked (keptCounter.of_subset early) (keptRedelivered.of_subset early)
    have rest := books.booked (keptCounter.of_subset late) (keptRedelivered.of_subset late) start
    have total : redeliveries + (round :: rounds).length =
        redeliveries + 1 + rounds.length := by
      rw [List.length_cons]
      omega
    rw [total]
    exact rest

/-- What follows an attempt ends the pass, unless it is decided to try again. -/
theorem books_of_last {step : Exchange → Logged Act Broker Exchange} {entry : Option Message}
    {countable redeliveries : Nat} {result : Exchange × Outcome}
    (proceeds : Proceeds handler step entry redeliveries countable exchange acts result) :
    Books handler redeliveries exchange acts result [] acts ∨
      ∃ (fewer chance : Nat) (failure : Failure) (later : List Act), countable = fewer + 1 ∧
        (handler.accountAttempts step entry fewer (redeliveries + 1)
          (some (handler.retryPreparation failure (redeliveries + 1) chance))
          (counted (exchange.setCaught failure) (redeliveries + 1))).Gives later result ∧
        acts = handler.decision failure (redeliveries + 1) chance ++ later := by
  cases proceeds with
  | succeeded =>
      left
      refine .last (fun _ none => nomatch none) ?_ (fun _ _ booked => booked)
      intro number same
      exact (Outcome.success.inj same).symm
  | faulted =>
      left
      exact .last (writes_reports rfl) (fun _ impossible => nomatch impossible)
        (fun _ _ booked => booked)
  | @misconfigured _ _ failure =>
      left
      refine .last ?_ (fun _ impossible => nomatch impossible) ?_
      · intro act written
        rcases List.mem_cons.mp written with rfl | reported
        · rfl
        · exact writes_reports rfl act reported
      · intro _ _ booked
        apply booked.of_same
        intro property listed
        rw [Exchange.known?_setCaught, if_neg]
        rintro rfl
        simp at listed
  | @exhausted _ _ failure last _ _ _ ended =>
      left
      obtain ⟨_, _, _, courses, _⟩ := exhausted_of_gives ended
      refine .last ?_ (fun number same => absurd same (courses.unsuccessful number)) ?_
      · intro act written
        rcases List.mem_cons.mp written with rfl | later
        · rfl
        · exact writes_exhaust (fun _ _ other => other) (fun _ _ _ _ _ => rfl) _ _ ended act later
      · intro keptCounter keptRedelivered _
        have among : ∀ act ∈ last, act ∈ Act.caught failure :: last :=
          fun act listed => List.mem_cons_of_mem _ listed
        apply (booked_ranOut : Booked (ranOut exchange failure _) _).of_same
        intro property listed
        apply known?_of_exhaust ended
        · constructor <;> rintro rfl <;> simp at listed
        · simp only [List.mem_cons, List.not_mem_nil, or_false] at listed
          rcases listed with rfl | rfl
          · exact keptCounter.of_subset among
          · exact keptRedelivered.of_subset among
  | retried chance _ _ again => exact .inr ⟨_, chance, _, _, rfl, again, rfl⟩

/-- What follows an attempt is rounds and then what ends the pass. The induction is on the
redeliveries that can still be counted: a decision to try again uses one of them up. -/
theorem books_of_proceeds {entry : Option Message} {countable redeliveries : Nat}
    {result : Exchange × Outcome}
    (proceeds : Proceeds handler (Act.call .step handler.output) entry redeliveries countable
      exchange acts result) :
    ∃ rounds ending, Books handler redeliveries exchange acts result rounds ending := by
  induction countable generalizing redeliveries exchange acts with
  | zero =>
      rcases books_of_last proceeds with books | ⟨fewer, _, _, _, impossible, _⟩
      · exact ⟨[], acts, books⟩
      · exact absurd impossible (Nat.succ_ne_zero fewer).symm
  | succ countable inductionHypothesis =>
      rcases books_of_last proceeds with books | ⟨_, chance, failure, later, same, again, rfl⟩
      · exact ⟨[], acts, books⟩
      · obtain rfl := Nat.succ.inj same
        obtain ⟨first, between, rest, made, followed, rfl⟩ := proceeds_of_gives again
        obtain ⟨hooked, stepped, shape, there, runs⟩ := attempting_of_gives made
        obtain ⟨rounds, ending, books⟩ := inductionHypothesis followed
        let round : Round := ⟨redeliveries + 1, failure, chance, hooked, stepped⟩
        have whole : round.acts handler =
            handler.decision failure (redeliveries + 1) chance ++ first := by
          rw [shape]
          rfl
        rw [← List.append_assoc, ← whole]
        refine ⟨round :: rounds, ending, books.round ⟨there, runs⟩ rfl ?_⟩
        intro keptCounter keptRedelivered
        have among : ∀ act ∈ first, act ∈ round.acts handler := by
          intro act listed
          rw [whole]
          exact List.mem_append_right _ listed
        apply booked_counted.of_same
        intro property listed
        simp only [List.mem_cons, List.not_mem_nil, or_false] at listed
        rcases listed with rfl | rfl
        · exact known?_of_attempt made (by decide) (keptCounter.of_subset among)
        · exact known?_of_attempt made (by decide) (keptRedelivered.of_subset among)

/-- The rounds of a pass wait for their delays, and nothing else waits. -/
theorem timeWaited_whole {first : Option Visit} {rounds : List Round} {ending : List Act}
    (ended : ∀ act ∈ ending, act.isRedelivering = false) :
    Act.timeWaited (handler.stepping first ++ (rounds.flatMap (Round.acts handler) ++ ending)) =
      (rounds.map fun round => (round.preparation handler).delay.nanoseconds).sum := by
  have opening : Act.timeWaited (handler.stepping first) = 0 := by
    cases first <;> rfl
  have closing : Act.timeWaited ending = 0 := by
    apply List.sum_eq_zero_iff_forall_eq_nat.mpr
    intro time listed
    obtain ⟨act, written, rfl⟩ := List.mem_map.mp listed
    have other := ended act written
    cases act with
    | waited => contradiction
    | _ => rfl
  have rounds : Act.timeWaited (rounds.flatMap (Round.acts handler)) =
      (rounds.map fun round => (round.preparation handler).delay.nanoseconds).sum := by
    induction rounds with
    | nil => rfl
    | cons round rest inductionHypothesis =>
        have own := round.timeWaited_acts handler
        unfold Act.timeWaited at own inductionHypothesis ⊢
        rw [List.flatMap_cons, List.map_append, List.sum_append, own, inductionHypothesis,
          List.map_cons, List.sum_cons]
  unfold Act.timeWaited at opening closing rounds ⊢
  rw [List.map_append, List.sum_append, List.map_append, List.sum_append, opening, closing, rounds,
    Nat.zero_add, Nat.add_zero]

/-- Each round counts one redelivery, and nothing else counts any. -/
theorem countP_whole {first : Option Visit} {rounds : List Round} {ending : List Act} {metrics : Nat}
    (kept : handler.rules.metrics = some metrics)
    (ended : ∀ act ∈ ending, act.isRedelivering = false) :
    (handler.stepping first ++ (rounds.flatMap (Round.acts handler) ++ ending)).countP
      (Act.countsRedelivery metrics) = rounds.length := by
  have opening : (handler.stepping first).countP (Act.countsRedelivery metrics) = 0 := by
    cases first <;> rfl
  have closing : ending.countP (Act.countsRedelivery metrics) = 0 := by
    apply List.countP_eq_zero.mpr
    intro act written
    have other := ended act written
    cases act with
    | counted handle tally =>
        have another : (tally == .redelivery) = false := other
        simp [Act.countsRedelivery, another]
    | _ => exact Bool.false_ne_true
  have rounds : (rounds.flatMap (Round.acts handler)).countP (Act.countsRedelivery metrics) =
      rounds.length := by
    induction rounds with
    | nil => rfl
    | cons round rest inductionHypothesis =>
        rw [List.flatMap_cons, List.countP_append, round.countP_acts handler kept,
          inductionHypothesis, List.length_cons, Nat.add_comm]
  rw [List.countP_append, List.countP_append, opening, closing, rounds, Nat.zero_add, Nat.add_zero]

/-- Each round announces its redelivery, and nothing else announces any. -/
theorem retries_whole {first : Option Visit} {rounds : List Round} {ending : List Act}
    (ended : ∀ act ∈ ending, act.isRedelivering = false) :
    Act.retries (handler.stepping first ++ (rounds.flatMap (Round.acts handler) ++ ending)) =
      rounds.flatMap (Round.notice handler) := by
  have opening : Act.retries (handler.stepping first) = [] := by
    cases first <;> rfl
  have closing : Act.retries ending = [] := by
    apply List.filter_eq_nil_iff.mpr
    intro event reported
    obtain ⟨act, written, told⟩ := List.mem_filterMap.mp reported
    have other := ended act written
    cases act with
    | reported found =>
        obtain rfl := Option.some.inj told
        cases found with
        | redelivery => contradiction
        | _ => exact Bool.false_ne_true
    | _ => contradiction
  have between : Act.retries (rounds.flatMap (Round.acts handler)) =
      rounds.flatMap (Round.notice handler) := by
    induction rounds with
    | nil => rfl
    | cons round rest inductionHypothesis =>
        rw [List.flatMap_cons, Act.retries_append, round.retries_acts, inductionHypothesis,
          List.flatMap_cons]
  rw [Act.retries_append, Act.retries_append, opening, closing, between, List.nil_append,
    List.append_nil]

/-- Every pass over an exchange that was not redelivered yet is one call of the step, which nothing
precedes and which a failed exchange does without, then a round for each decision to try again, then
acts that wait for nothing, count no redelivery and call neither the step nor what runs before it.
The rounds are numbered from one. Each catches a failure, draws a chance, reports the redelivery
under the policy for that failure with its number and delay, counts it once, waits for the delay,
calls what is to run before it exactly once, and calls the step unless that call failed. The number
of rounds is what the outcome and the exchange tell. Of a pass that runs alone, it is also what the
metrics grow by, and the time of the pass is the sum of the delays and of what the calls take. Such a
pass does to the broker what is written down of it; if its calls report nothing, then the events grow
by those that it reports, and the redeliveries announced among them are those of the rounds. -/
theorem redelivery_accounting {outcome : Outcome}
    (given : (handler.account exchange).Gives acts (after, outcome))
    (uncounted : exchange.known? .redeliveryCounter = none)
    (fresh : exchange.known? .redelivered = none)
    (keptCounter : Act.Keep .redeliveryCounter acts)
    (keptRedelivered : Act.Keep .redelivered acts) :
    (handler.account exchange).result = handler.handle exchange ∧
      ∃ (first : Option Visit) (rounds : List Round) (ending : List Act),
        acts = handler.stepping first ++ (rounds.flatMap (Round.acts handler) ++ ending) ∧
        (first.isSome = true ↔ exchange.exception = none) ∧
        (∀ round ∈ rounds, round.Sound handler) ∧
        rounds.map Round.number = List.range' 1 rounds.length ∧
        (∀ act ∈ ending, act.isRedelivering = false) ∧
        (∀ number, outcome = .success number → number = rounds.length) ∧
        after.known? .redeliveryCounter =
          (if rounds.length = 0 then none else some (.ofNat rounds.length)) ∧
        after.known? .redelivered = (if rounds.length = 0 then none else some (.bool true)) ∧
        ∀ broker, (handler.account exchange).alone broker = (acts, after, outcome) →
          ((handler.handle exchange).run broker).2.2.nanoseconds =
              (rounds.map fun round => (round.preparation handler).delay.nanoseconds).sum +
                Act.timeOfCalls acts broker ∧
            ((handler.handle exchange).run broker).2.1 = (replay Act.perform acts broker).1 ∧
            (Act.CallsSilent acts → ∃ reported : List RedeliveryEvent,
              ((handler.handle exchange).run broker).2.1.events =
                reported.reverse ++ broker.events ∧
              reported = acts.filterMap Act.event? ∧
              reported.filter RedeliveryEvent.isRetry = rounds.flatMap (Round.notice handler)) ∧
            ∀ metrics before, handler.rules.metrics = some metrics →
              Act.CallsUncounted metrics acts → broker.redeliveriesIn metrics = some before →
              before ≤ Text.maxU64 →
              ((handler.handle exchange).run broker).2.1.redeliveriesIn metrics =
                some (min (before + rounds.length) Text.maxU64) := by
  refine ⟨handler.result_account exchange, ?_⟩
  obtain ⟨opening, between, rest, made, followed, rfl⟩ := proceeds_of_gives given
  obtain ⟨first, rfl, called⟩ := stepping_of_gives made
  obtain ⟨rounds, ending, books⟩ := books_of_proceeds followed
  have start : Booked exchange 0 := ⟨uncounted, fresh⟩
  have early : ∀ act ∈ handler.stepping first, act ∈ handler.stepping first ++ rest :=
    fun _ listed => List.mem_append_left _ listed
  have late : ∀ act ∈ rest, act ∈ handler.stepping first ++ rest :=
    fun _ listed => List.mem_append_right _ listed
  have attempted : Booked between 0 := by
    apply start.of_same
    intro property listed
    simp only [List.mem_cons, List.not_mem_nil, or_false] at listed
    rcases listed with rfl | rfl
    · exact known?_of_attempt made (by decide) (keptCounter.of_subset early)
    · exact known?_of_attempt made (by decide) (keptRedelivered.of_subset early)
  have booked := books.booked (keptCounter.of_subset late) (keptRedelivered.of_subset late) attempted
  rw [Nat.zero_add] at booked
  refine ⟨first, rounds, ending, by rw [books.whole], called, books.sound, books.numbered,
    books.ended, ?_, booked.counter, booked.redelivered, ?_⟩
  · intro number success
    rw [books.success number success, Nat.zero_add]
  · intro broker alone
    obtain ⟨sameState, sameTime⟩ := Prod.mk.inj (run_account exchange broker)
    rw [alone] at sameState sameTime
    refine ⟨?_, sameState, ?_, ?_⟩
    · rw [sameTime, Act.time_of_replay, books.whole, timeWaited_whole books.ended]
    · intro silent
      refine ⟨_, ?_, rfl, ?_⟩
      · rw [sameState, Act.events_replay silent]
      · change Act.retries _ = _
        rw [books.whole, retries_whole books.ended]
    · intro metrics before kept callsUncounted found bounded
      rw [sameState, Act.redeliveriesIn_replay callsUncounted found bounded, books.whole,
        countP_whole kept books.ended]

end

/-- A handler with metrics around a step that fails on exchanges that were not redelivered. What
runs before a redelivery fails as well, in a way that has a policy of its own, before the first one.
-/
def counting : ErrorHandler where
  rules :=
    { redelivery := { maximum := 2, pattern := some ⟨[⟨1, 20⟩]⟩ }
      onRedelivery := some (.ofFunction "stumbling" fun exchange =>
        (exchange, if exchange.redeliveryCount = 1 then some (.plain "stumbled") else none))
      policies :=
        [{ accepts := fun failure => failure.display == "stumbled"
           redelivery := some { maximum := 2, pattern := some ⟨[⟨1, 50⟩]⟩ }
           onRedelivery := some (.ofFunction "steady" fun exchange => (exchange, none)) }]
      metrics := some 0 }
  output := .ofFunction "counting" fun exchange =>
    (exchange, if exchange.flag .redelivered then none else some (.plain "refused"))

def metered : Broker :=
  { metrics := ⟨[{ counters := { redeliveries := 5 } }]⟩ }

theorem counting_policy (failure : Failure) :
    counting.policyFor failure = none ∨
      counting.policyFor failure ∈ counting.rules.policies.map some := by
  cases found : counting.policyFor failure with
  | none => exact .inl rfl
  | some policy =>
      right
      obtain ⟨cause, _, first⟩ := List.exists_of_findSome?_eq_some found
      exact List.mem_map_of_mem (List.mem_of_find?_eq_some first)

/-- The processors of this handler report failures and do nothing else. -/
theorem counting_uses {processor : Processor} {role : Role}
    (used : counting.Uses processor role) :
    ∃ (name : String) (report : Exchange → Option Failure),
      processor = .ofFunction name fun exchange => (exchange, report exchange) := by
  cases role with
  | step => exact ⟨_, _, used⟩
  | hook =>
      obtain ⟨failure, hook⟩ := used
      rcases counting_policy failure with none | listed
      · rw [none] at hook
        exact ⟨_, _, (Option.some.inj hook).symm⟩
      · rw [List.mem_singleton.mp listed] at hook
        exact ⟨_, fun _ => none, (Option.some.inj hook).symm⟩
  | delivery name =>
      obtain ⟨failure, broker, destination⟩ := used
      rcases counting_policy failure with none | listed
      · rw [none] at destination
        exact absurd (Except.ok.inj destination) nofun
      · rw [List.mem_singleton.mp listed] at destination
        exact absurd (Except.ok.inj destination) nofun

theorem counting_keeps (property : Property) (processor : Processor) (role : Role)
    (used : counting.Uses processor role) (before after : Exchange)
    (ran : (processor.invoke before).Gives after) :
    after.known? property = before.known? property := by
  obtain ⟨name, report, rfl⟩ := counting_uses used
  have ended := Routine.gives_done.mp ran
  rw [ended]
  cases report before <;> rfl

/-- Two redeliveries, the first of which ends with what runs before it, take 70 milliseconds. -/
theorem redelivery_accounting_counting :
    ∃ (acts : List Act) (after : Exchange) (rounds : List Round),
      (counting.account fresh).Gives acts (after, .success 2) ∧
        rounds.map Round.number = [1, 2] ∧
        after.known? .redeliveryCounter = some (.ofNat 2) ∧
        (rounds.map fun round => (round.preparation counting).delay.nanoseconds).sum = 70000000 ∧
        ((counting.handle fresh).run metered).2.1.redeliveriesIn 0 = some 7 := by
  have outcome : ((counting.account fresh).alone metered).2.2 = .success 2 := by
    apply Outcome.eq_success_of_told
    decide +kernel
  have given : (counting.account fresh).Gives ((counting.account fresh).alone metered).1
      (((counting.account fresh).alone metered).2.1, .success 2) := by
    rw [← outcome]
    exact Logged.gives_alone (counting.account fresh) metered
  have genuine := genuine_of_account given
  obtain ⟨_, first, rounds, ending, _, _, _, numbers, _, success, counter, _, alone⟩ :=
    redelivery_accounting given rfl rfl (keep_of_genuine (counting_keeps _) genuine)
      (keep_of_genuine (counting_keeps _) genuine)
  have two : 2 = rounds.length := success 2 rfl
  rw [← two] at numbers counter
  obtain ⟨time, _, _, grown⟩ := alone metered (by rw [← outcome])
  have noCalls : Act.timeOfCalls ((counting.account fresh).alone metered).1 metered = 0 := by
    decide +kernel
  have slept : ((counting.handle fresh).run metered).2.2.nanoseconds = 70000000 := by
    decide +kernel
  refine ⟨_, _, rounds, given, numbers, counter, ?_, ?_⟩
  · rw [noCalls, slept, Nat.add_zero] at time
    exact time.symm
  · have uncounted : Act.CallsUncounted 0 ((counting.account fresh).alone metered).1 := by
      intro role processor visit called broker
      obtain ⟨name, report, rfl⟩ := counting_uses (genuine _ called).1
      rfl
    have found := grown 0 5 rfl uncounted rfl (by decide)
    rw [← two] at found
    exact found

end ErrorHandler

end MessageRouting
