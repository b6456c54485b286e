import MessageRouting.Proofs.Redelivery.Account
import MessageRouting.Proofs.Redelivery.Endings

/-!
# What follows an attempt

A pass through an error handler makes an attempt and then ends, enters the exhausted
path, or decides to try again. Each of these ways has its own account.
-/

namespace MessageRouting

namespace Logged

universe u v

variable {ε : Type v} {σ : Type u} {α β : Type v} {allowed : ε → Prop}

def Writes (allowed : ε → Prop) (logged : Logged ε σ α) : Prop :=
  ∀ entries value, logged.Gives entries value → ∀ entry ∈ entries, allowed entry

theorem writes_pure (value : α) : Writes allowed (pure value : Logged ε σ α) := by
  intro entries _ given entry written
  obtain ⟨rfl, _⟩ := gives_pure.mp given
  contradiction

theorem writes_log {entry : ε} (may : allowed entry) :
    Writes allowed (log entry : Logged ε σ PUnit) := by
  intro entries _ given other written
  obtain rfl := gives_log.mp given
  obtain rfl := List.mem_singleton.mp written
  exact may

theorem writes_lift (routine : Routine σ α) : Writes allowed (lift routine : Logged ε σ α) := by
  intro entries _ given entry written
  obtain ⟨rfl, _⟩ := gives_lift.mp given
  contradiction

theorem writes_act {routine : Routine σ α} {entry : α → ε}
    (may : ∀ value, routine.Gives value → allowed (entry value)) :
    Writes allowed (act routine entry) := by
  intro entries value given other written
  obtain ⟨rfl, ran⟩ := gives_act.mp given
  obtain rfl := List.mem_singleton.mp written
  exact may value ran

theorem writes_bind {logged : Logged ε σ α} {next : α → Logged ε σ β}
    (first : Writes allowed logged)
    (second : ∀ entries value, logged.Gives entries value → Writes allowed (next value)) :
    Writes allowed (logged >>= next) := by
  intro entries result given entry written
  obtain ⟨before, value, after, ran, followed, rfl⟩ := gives_bind.mp given
  rcases List.mem_append.mp written with early | late
  · exact first before value ran entry early
  · exact second before value ran after result followed entry late

theorem writes_ite {condition : Prop} [Decidable condition] {first second : Logged ε σ α}
    (holds : Writes allowed first) (fails : Writes allowed second) :
    Writes allowed (if condition then first else second) := by
  split
  · exact holds
  · exact fails

end Logged

namespace Act

/-- The act belongs to an attempt or to the decision to make a further one. -/
def isRedelivering : Act → Bool
  | called (.delivery _) .. => false
  | called .. => true
  | drew _ => true
  | reported (.redelivery ..) => true
  | reported (.waiting _) => true
  | counted _ tally => tally == .redelivery
  | waited _ => true
  | _ => false

def isCall : Act → Bool
  | called .. => true
  | _ => false

def isExhaustion : Act → Bool
  | exhausted => true
  | _ => false

theorem writes_report {allowed : Act → Prop} {event : RedeliveryEvent}
    (may : allowed (.reported event)) : Logged.Writes allowed (report event) :=
  Logged.writes_ite (Logged.writes_pure ()) (Logged.writes_act fun _ _ => may)

theorem writes_count {allowed : Act → Prop} {tally : Tally}
    (may : ∀ handle, allowed (.counted handle tally)) (metrics : Option Nat) :
    Logged.Writes allowed (count metrics tally) := by
  cases metrics with
  | none => exact Logged.writes_pure ()
  | some handle => exact Logged.writes_act fun _ _ => may handle

def Leaves (property : Property) : Act → Prop
  | called _ _ visit => visit.after.known? property = visit.before.known? property
  | _ => True

def Keep (property : Property) (acts : List Act) : Prop :=
  ∀ act ∈ acts, act.Leaves property

theorem Keep.of_subset {property : Property} {acts fewer : List Act} (kept : Keep property acts)
    (among : ∀ act ∈ fewer, act ∈ acts) : Keep property fewer :=
  fun act written => kept act (among act written)

end Act

def Outcome.told : Outcome → Option Nat
  | success number => some number
  | _ => none

theorem Outcome.eq_success_of_told {outcome : Outcome} {number : Nat}
    (tells : outcome.told = some number) : outcome = .success number := by
  cases outcome with
  | success found => exact congrArg Outcome.success (Option.some.inj tells)
  | _ => contradiction

namespace ErrorHandler

variable {handler : ErrorHandler} {policy : Option ExceptionPolicy} {failure : Failure}
  {entry : Option Message} {acts : List Act} {exchange : Exchange} {result : Exchange × Outcome}

/-! ## The exhausted path -/

def Uses (handler : ErrorHandler) (processor : Processor) : Role → Prop
  | .step => processor = handler.output
  | .hook => ∃ failure, handler.hookUnder (handler.policyFor failure) = some processor
  | .delivery name => ∃ failure broker,
      handler.destination (handler.policyFor failure) broker = .ok (some ⟨name, processor⟩)

section

variable {allowed : Act → Prop}
  (may : ∀ act, act.isCall = false → act.isRedelivering = false → allowed act)

include may

theorem writes_conclude (deliveredTo : Option String) :
    Logged.Writes allowed (handler.accountConclude policy failure deliveredTo exchange) := by
  refine Logged.writes_ite ?_ (Logged.writes_pure _)
  refine Logged.writes_bind ?_ fun _ _ _ =>
    Logged.writes_bind (Act.writes_count (fun _ => may _ rfl rfl) _) fun _ _ _ =>
      Logged.writes_pure _
  exact Logged.writes_ite (Act.writes_report (may _ rfl rfl)) (Logged.writes_pure _)

/-- The exhausted path waits for nothing, counts no redelivery, and calls a destination only. -/
theorem writes_exhaust
    (delivers : ∀ name processor visit, handler.Uses processor (.delivery name) →
      (processor.invoke visit.before).Gives visit.after →
      allowed (.called (.delivery name) processor visit)) :
    Logged.Writes allowed
      (handler.accountExhaust (handler.policyFor failure) failure entry exchange) := by
  refine Logged.writes_bind (Logged.writes_log (may _ rfl rfl)) fun _ _ _ => ?_
  refine Logged.writes_bind
    (Logged.writes_ite (Act.writes_report (may _ rfl rfl)) (Logged.writes_pure _)) fun _ _ _ => ?_
  refine Logged.writes_bind (Act.writes_count (fun _ => may _ rfl rfl) _) fun _ _ _ => ?_
  refine Logged.writes_bind (Logged.writes_lift _) fun _ destination looked => ?_
  obtain ⟨broker, found⟩ := Routine.gives_look.mp (Logged.gives_lift.mp looked).2
  match destination, found with
  | .error unavailable, _ =>
      exact Logged.writes_bind (Act.writes_report (may _ rfl rfl)) fun _ _ _ =>
        Logged.writes_pure _
  | .ok none, _ => exact writes_conclude may none
  | .ok (some deadLetter), found =>
      have used : handler.Uses deadLetter.processor (.delivery deadLetter.name) :=
        ⟨failure, broker, found.symm⟩
      refine Logged.writes_bind
        (Logged.writes_act fun after ran => delivers _ _ ⟨_, after⟩ used ran) fun _ after _ => ?_
      cases after.exception with
      | some failed =>
          exact Logged.writes_bind (Act.writes_report (may _ rfl rfl)) fun _ _ _ =>
            Logged.writes_pure _
      | none =>
          refine Logged.writes_bind (Act.writes_report (may _ rfl rfl)) fun _ _ _ => ?_
          refine Logged.writes_bind (Act.writes_count (fun _ => may _ rfl rfl) _) fun _ _ _ => ?_
          exact writes_conclude may (some deadLetter.name)

end

theorem concluded_of_gives {deliveredTo : Option String}
    (given : (handler.accountConclude policy failure deliveredTo exchange).Gives acts result) :
    result = handler.conclusion policy failure deliveredTo exchange := by
  have forgotten := Logged.result_gives.mpr ⟨acts, given⟩
  rw [result_accountConclude] at forgotten
  exact conclude_gives forgotten

/-- The exhausted path is entered first of all, and goes on as the rules of its course say. -/
theorem exhausted_of_gives
    (given : (handler.accountExhaust policy failure entry exchange).Gives acts result) :
    ∃ (rest : List Act) (history : History), acts = .exhausted :: rest ∧
      Ended handler policy failure entry (markedExhausted exchange) history result ∧
      ∀ name visit, (name, visit) ∈ history.deliveries →
        ∃ processor, Act.called (.delivery name) processor visit ∈ rest := by
  obtain ⟨rest, entered, rfl⟩ := Logged.gives_log_bind.mp given
  refine ⟨rest, ?_⟩
  obtain ⟨notice, _, following, _, tallied, rfl⟩ := Logged.gives_bind.mp entered
  obtain ⟨tally, _, last, _, looked, rfl⟩ := Logged.gives_bind.mp tallied
  obtain ⟨destination, found, ended⟩ := Logged.gives_lift_bind.mp looked
  obtain ⟨broker, found⟩ := Routine.gives_look.mp found
  match destination, found.symm with
  | .error missing, unavailable =>
      obtain ⟨_, _, _, _, left, rfl⟩ := Logged.gives_bind.mp ended
      obtain ⟨rfl, rfl⟩ := Logged.gives_pure.mp left
      refine ⟨[], rfl, .unavailable broker unavailable, ?_⟩
      intro name visit delivered
      contradiction
  | .ok none, undelivered =>
      rw [concluded_of_gives ended]
      refine ⟨[], rfl, .undelivered broker undelivered, ?_⟩
      intro name visit delivered
      contradiction
  | .ok (some deadLetter), found =>
      obtain ⟨own, after, others, called, followed, rfl⟩ := Logged.gives_bind.mp ended
      obtain ⟨rfl, ran⟩ := Act.gives_call.mp called
      have listed : ∀ (name : String) (visit : Visit),
          (name, visit) ∈ History.deliveries [.delivery deadLetter.name
            ⟨handler.forDeadLetter policy entry deadLetter.name (markedExhausted exchange),
              after⟩] →
          ∃ processor, Act.called (.delivery name) processor visit ∈
            notice ++ (tally ++ (Act.called (.delivery deadLetter.name) deadLetter.processor
              ⟨handler.forDeadLetter policy entry deadLetter.name (markedExhausted exchange),
                after⟩ :: others)) := by
        intro name visit delivered
        obtain ⟨rfl, rfl⟩ := Prod.mk.inj (List.mem_singleton.mp delivered)
        exact ⟨deadLetter.processor,
          List.mem_append_right _ (List.mem_append_right _ List.mem_cons_self)⟩
      cases failed : after.exception with
      | some _ =>
          rw [failed] at followed
          obtain ⟨_, _, _, _, left, rfl⟩ := Logged.gives_bind.mp followed
          obtain ⟨rfl, rfl⟩ := Logged.gives_pure.mp left
          exact ⟨_, rfl, .refused broker found ran failed, listed⟩
      | none =>
          rw [failed] at followed
          obtain ⟨_, _, _, _, counted, rfl⟩ := Logged.gives_bind.mp followed
          obtain ⟨_, _, _, _, concluded, rfl⟩ := Logged.gives_bind.mp counted
          rw [concluded_of_gives concluded]
          exact ⟨_, rfl, .delivered broker found ran failed, listed⟩

theorem Ended.unsuccessful {marked : Exchange} {history : History}
    (ended : Ended handler policy failure entry marked history result) (number : Nat) :
    result.2 ≠ .success number := by
  have unconcluded (deliveredTo : Option String) (exchange : Exchange) :
      (handler.conclusion policy failure deliveredTo exchange).2 ≠ .success number := by
    unfold conclusion
    cases deliveredTo <;> split <;> exact fun impossible => nomatch impossible
  cases ended with
  | unavailable => exact fun impossible => nomatch impossible
  | undelivered => exact unconcluded none marked
  | refused => exact fun impossible => nomatch impossible
  | delivered => exact unconcluded _ _

/-- The exhausted path itself writes the two properties that mark it. -/
theorem known?_of_exhaust {property : Property}
    (given : (handler.accountExhaust policy failure entry exchange).Gives acts result)
    (other : property ≠ .errorHandlerHandled ∧ property ≠ .failureEndpoint)
    (kept : Act.Keep property acts) :
    result.1.known? property = (markedExhausted exchange).known? property := by
  obtain ⟨rest, history, rfl, ended, listed⟩ := exhausted_of_gives given
  apply ended.known?_eq other
  intro name visit delivered
  obtain ⟨processor, called⟩ := listed name visit delivered
  exact kept _ (List.mem_cons_of_mem _ called)

/-! ## Behind an attempt -/

/-- What is written down about the decision to try again. The exchange is not marked as
rollback-only then, so that the level of the event is the one of the policy. -/
def retryNotice (redelivery : RedeliveryPolicy) (failure : Failure) (number : Nat)
    (delay : Duration) : List Act :=
  if redelivery.logRetry then
    Act.reports (.redelivery redelivery.retryLevel number delay (detail redelivery failure))
  else []

/-- What precedes the redelivery with the given number: the delay that the rules in force at the
failure compute, and what is to run then. -/
def retryPreparation (handler : ErrorHandler) (failure : Failure) (number chance : Nat) :
    Preparation where
  delay := (handler.redeliveryUnder (handler.policyFor failure)).delayFor number chance
  hook := handler.hookUnder (handler.policyFor failure)

/-- What is written down about a failure upon which the redelivery with the given number is
decided. -/
def decision (handler : ErrorHandler) (failure : Failure) (number chance : Nat) : List Act :=
  .caught failure :: .drew chance ::
    (retryNotice (handler.redeliveryUnder (handler.policyFor failure)) failure number
        (handler.retryPreparation failure number chance).delay ++
      Act.counts handler.rules.metrics .redelivery)

/-- How a pass goes on from the exchange that an attempt left, and what is written down.
`redeliveries` have run, and the number given next can still be counted. -/
inductive Proceeds (handler : ErrorHandler) (step : Exchange → Logged Act Broker Exchange)
    (entry : Option Message) (redeliveries : Nat) :
    Nat → Exchange → List Act → Exchange × Outcome → Prop
  | succeeded {countable : Nat} {after : Exchange} :
      after.exception = none →
      after.isFailed = false →
      Proceeds handler step entry redeliveries countable after [] (after, .success redeliveries)
  | faulted {countable : Nat} {after : Exchange} :
      after.exception = none →
      after.isFailed = true →
      Proceeds handler step entry redeliveries countable after (Act.reports .faultReturned)
        (after, .fault)
  | misconfigured {countable : Nat} {after : Exchange} {failure : Failure} :
      after.exception = some failure →
      failure.isFatal = true →
      Proceeds handler step entry redeliveries countable after
        (.caught failure :: Act.reports (.fatal failure.renderChain))
        (after.setCaught failure, .fatal failure)
  | exhausted {countable : Nat} {after : Exchange} {failure : Failure} {last : List Act}
      {result : Exchange × Outcome} :
      after.exception = some failure →
      failure.isFatal = false →
      (handler.accountExhaust (handler.policyFor failure) failure entry
        (settled (counted (after.setCaught failure) (redeliveries + 1)) redeliveries)).Gives
          last result →
      Proceeds handler step entry redeliveries countable after (.caught failure :: last) result
  | retried {countable : Nat} {after : Exchange} {failure : Failure} {later : List Act}
      {result : Exchange × Outcome} (chance : Nat) :
      after.exception = some failure →
      failure.isFatal = false →
      (handler.accountAttempts step entry countable (redeliveries + 1)
        (some (handler.retryPreparation failure (redeliveries + 1) chance))
        (counted (after.setCaught failure) (redeliveries + 1))).Gives later result →
      Proceeds handler step entry redeliveries (countable + 1) after
        (handler.decision failure (redeliveries + 1) chance ++ later) result

theorem retryNotice_of_gives {redelivery : RedeliveryPolicy} {number : Nat} {delay : Duration}
    (unmarked : exchange.isRollbackOnly = false)
    (given : (accountRedelivery redelivery exchange failure number delay).Gives acts ()) :
    acts = retryNotice redelivery failure number delay := by
  have level : levelFor exchange redelivery.retryLevel = redelivery.retryLevel := by
    rw [levelFor, unmarked]
    rfl
  unfold accountRedelivery at given
  unfold retryNotice
  rw [level] at given
  cases logged : redelivery.logRetry with
  | true =>
      rw [logged, if_pos rfl] at given
      exact Act.reports_of_gives given
  | false =>
      rw [logged, if_neg Bool.false_ne_true] at given
      exact (Logged.gives_pure.mp given).1

theorem unmarked_of_mayRedeliver {attempt : Nat}
    (allowed : handler.mayRedeliver policy exchange attempt = true) :
    exchange.isRollbackOnly = false := by
  unfold mayRedeliver at allowed
  cases marked : exchange.isRollbackOnly with
  | false => rfl
  | true =>
      rw [marked] at allowed
      contradiction

/-- Every pass makes an attempt and goes on in one of these ways. -/
theorem proceeds_of_gives {step : Exchange → Logged Act Broker Exchange}
    {countable redeliveries : Nat} {preparation : Option Preparation}
    (given : (handler.accountAttempts step entry countable redeliveries preparation exchange).Gives
      acts result) :
    ∃ first after rest, (accountAttempt step preparation exchange).Gives first after ∧
      Proceeds handler step entry redeliveries countable after rest result ∧
      acts = first ++ rest := by
  unfold accountAttempts at given
  obtain ⟨first, after, rest, made, followed, rfl⟩ := Logged.gives_bind.mp given
  refine ⟨first, after, rest, made, ?_, rfl⟩
  cases failed : after.exception with
  | none =>
      rw [failed] at followed
      cases fault : after.isFailed with
      | true =>
          rw [fault] at followed
          obtain ⟨_, _, _, reported, left, rfl⟩ := Logged.gives_bind.mp followed
          obtain ⟨rfl, rfl⟩ := Logged.gives_pure.mp left
          obtain rfl := Act.reports_of_gives reported
          exact .faulted failed fault
      | false =>
          rw [fault] at followed
          obtain ⟨rfl, rfl⟩ := Logged.gives_pure.mp followed
          exact .succeeded failed fault
  | some failure =>
      rw [failed] at followed
      obtain ⟨rest, caught, rfl⟩ := Logged.gives_log_bind.mp followed
      cases fatal : failure.isFatal with
      | true =>
          rw [fatal] at caught
          obtain ⟨_, _, _, reported, left, rfl⟩ := Logged.gives_bind.mp caught
          obtain ⟨rfl, rfl⟩ := Logged.gives_pure.mp left
          obtain rfl := Act.reports_of_gives reported
          exact .misconfigured failed fatal
      | false =>
          rw [fatal] at caught
          cases countable with
          | zero => exact .exhausted failed fatal caught
          | succ countable =>
              cases allowed : handler.mayRedeliver (handler.policyFor failure)
                  (counted (after.setCaught failure) (redeliveries + 1)) (redeliveries + 1) with
              | false =>
                  dsimp only at caught
                  rw [if_neg Bool.false_ne_true, if_neg (Bool.eq_false_iff.mp allowed)] at caught
                  exact .exhausted failed fatal caught
              | true =>
                  dsimp only at caught
                  rw [if_neg Bool.false_ne_true, if_pos allowed] at caught
                  obtain ⟨_, chance, _, drawn, decided, rfl⟩ := Logged.gives_bind.mp caught
                  obtain ⟨rfl, _⟩ := Logged.gives_act.mp drawn
                  obtain ⟨_, _, _, reported, metered, rfl⟩ := Logged.gives_bind.mp decided
                  obtain ⟨_, _, later, tallied, again, rfl⟩ := Logged.gives_bind.mp metered
                  obtain rfl := retryNotice_of_gives (unmarked_of_mayRedeliver allowed) reported
                  obtain rfl := Act.counts_of_gives tallied
                  have retried := Proceeds.retried chance failed fatal again
                  rw [decision, List.cons_append, List.cons_append, List.append_assoc] at retried
                  exact retried

/-! ## The calls of a pass -/

/-- A call that is written down is one that the handler makes. -/
def Genuine (handler : ErrorHandler) : Act → Prop
  | .called role processor visit =>
      handler.Uses processor role ∧ (processor.invoke visit.before).Gives visit.after
  | _ => True

theorem genuine_of_reports {event : RedeliveryEvent} :
    ∀ act ∈ Act.reports event, handler.Genuine act := by
  intro act written
  unfold Act.reports at written
  split at written
  · contradiction
  · obtain rfl := List.mem_singleton.mp written
    trivial

theorem genuine_of_decision {number chance : Nat} :
    ∀ act ∈ handler.decision failure number chance, handler.Genuine act := by
  intro act written
  unfold decision retryNotice at written
  rcases List.mem_cons.mp written with rfl | written
  · trivial
  rcases List.mem_cons.mp written with rfl | written
  · trivial
  rcases List.mem_append.mp written with noticed | counted
  · split at noticed
    · exact genuine_of_reports act noticed
    · contradiction
  · unfold Act.counts at counted
    split at counted
    · obtain rfl := List.mem_singleton.mp counted
      trivial
    · contradiction

theorem genuine_of_proceeds {step : Exchange → Logged Act Broker Exchange}
    {countable redeliveries : Nat}
    (proceeds : Proceeds handler step entry redeliveries countable exchange acts result)
    (later : ∀ fewer preparation between, countable = fewer + 1 →
      (∀ hook ∈ preparation.hook, handler.Uses hook .hook) →
      Logged.Writes handler.Genuine (handler.accountAttempts step entry fewer (redeliveries + 1)
        (some preparation) between)) :
    ∀ act ∈ acts, handler.Genuine act := by
  intro act written
  cases proceeds with
  | succeeded => contradiction
  | faulted => exact genuine_of_reports act written
  | misconfigured =>
      rcases List.mem_cons.mp written with rfl | reported
      · trivial
      · exact genuine_of_reports act reported
  | exhausted _ _ ended =>
      rcases List.mem_cons.mp written with rfl | written
      · trivial
      refine writes_exhaust ?_ (fun _ _ _ used ran => ⟨used, ran⟩) _ _ ended act written
      intro other uncalled _
      cases other with
      | called => contradiction
      | _ => trivial
  | @retried countable _ failure acts _ chance _ _ again =>
      rcases List.mem_append.mp written with decided | written
      · exact genuine_of_decision act decided
      · refine later countable (handler.retryPreparation failure (redeliveries + 1) chance) _ rfl ?_
          acts result again act written
        intro hook found
        exact ⟨failure, found⟩

section

variable {step : Exchange → Logged Act Broker Exchange}
  (genuine : ∀ exchange, Logged.Writes handler.Genuine (step exchange))

include genuine

theorem writes_attempt {preparation : Option Preparation}
    (used : ∀ found ∈ preparation, ∀ hook ∈ found.hook, handler.Uses hook .hook) :
    Logged.Writes handler.Genuine (accountAttempt step preparation exchange) := by
  have stepped (ready : Exchange) : Logged.Writes handler.Genuine (accountStep step ready) :=
    Logged.writes_ite (genuine ready) (Logged.writes_pure ready)
  cases preparation with
  | none => exact stepped exchange
  | some preparation =>
      refine Logged.writes_bind ?_ fun _ ready _ => stepped ready
      refine Logged.writes_bind ?_ fun _ _ _ => ?_
      · refine Logged.writes_bind ?_ fun _ _ _ => Logged.writes_act fun _ _ => trivial
        exact Logged.writes_ite (Logged.writes_pure ()) (Act.writes_report trivial)
      · cases found : preparation.hook with
        | none => exact Logged.writes_pure _
        | some hook =>
            refine Logged.writes_act fun after ran => ⟨?_, ran⟩
            exact used preparation rfl hook found

/-- Every call in the account of a pass is one that the handler makes. -/
theorem genuine_of_attempts {countable redeliveries : Nat} {preparation : Option Preparation}
    (used : ∀ found ∈ preparation, ∀ hook ∈ found.hook, handler.Uses hook .hook) :
    Logged.Writes handler.Genuine
      (handler.accountAttempts step entry countable redeliveries preparation exchange) := by
  induction countable generalizing redeliveries preparation exchange with
  | zero =>
      intro acts result given act written
      obtain ⟨first, after, rest, made, followed, rfl⟩ := proceeds_of_gives given
      rcases List.mem_append.mp written with early | late
      · exact writes_attempt genuine used first after made act early
      · refine genuine_of_proceeds followed ?_ act late
        intro fewer _ _ impossible
        exact absurd impossible (Nat.succ_ne_zero fewer).symm
  | succ countable inductionHypothesis =>
      intro acts result given act written
      obtain ⟨first, after, rest, made, followed, rfl⟩ := proceeds_of_gives given
      rcases List.mem_append.mp written with early | late
      · exact writes_attempt genuine used first after made act early
      · refine genuine_of_proceeds followed ?_ act late
        intro fewer preparation between same hooks
        obtain rfl := Nat.succ.inj same
        apply inductionHypothesis
        rintro found ⟨⟩
        exact hooks

end

theorem genuine_of_account (given : (handler.account exchange).Gives acts result) :
    ∀ act ∈ acts, handler.Genuine act := by
  refine genuine_of_attempts ?_ ?_ acts result given
  · intro ready
    exact Logged.writes_act fun _ ran => ⟨rfl, ran⟩
  · rintro found ⟨⟩

/-- What the processors of a handler leave alone is left alone by its calls. -/
theorem keep_of_genuine {property : Property}
    (kept : ∀ processor role, handler.Uses processor role → ∀ before after,
      (processor.invoke before).Gives after → after.known? property = before.known? property)
    (genuine : ∀ act ∈ acts, handler.Genuine act) : Act.Keep property acts := by
  intro act written
  cases act with
  | called role processor visit =>
      obtain ⟨used, ran⟩ := genuine _ written
      exact kept processor role used visit.before visit.after ran
  | _ => trivial

end ErrorHandler

end MessageRouting
