import MessageRouting.Proofs.Engine.Watched
import MessageRouting.Proofs.Redelivery.Endings

/-!
# What an error handler leaves alone

Around processors that report failures and change nothing, a pass changes the exception,
the failure that was caught and the properties of the error handler. A redelivery drops
the fault message, and a dead letter destination may get the original message in place of
the others.
-/

namespace MessageRouting

def Property.ofHandler : List Property :=
  [.redeliveryCounter, .redelivered, .redeliveryExhausted, .failureHandled, .errorHandlerHandled,
    .exceptionCaught, .failureEndpoint]

/-- A call reports a failure or none, and changes nothing else. -/
def Visit.OnlyReports (visit : Visit) : Prop :=
  ∃ failure, visit.after = visit.before.recording failure

/-- Its calls report a failure or none, and change nothing else. -/
def Processor.OnlyReports (processor : Processor) : Prop :=
  ∀ before after, (processor.invoke before).Gives after → Visit.OnlyReports ⟨before, after⟩

theorem Processor.onlyReports_ofFunction (name : String) (report : Exchange → Option Failure) :
    (ofFunction name fun exchange => (exchange, report exchange)).OnlyReports := by
  intro before after given
  refine ⟨report before, ?_⟩
  obtain rfl := Routine.gives_pure.mp given
  rfl

namespace History

def OnlyReports (history : History) : Prop :=
  ∀ visit ∈ history.visits, visit.OnlyReports

variable {first second history : History} {visit : Visit}

theorem onlyReports_of_no_visits (none : history.visits = []) : history.OnlyReports := by
  intro visit called
  rw [none] at called
  exact absurd called List.not_mem_nil

theorem onlyReports_of_one_visit (one : history.visits = [visit]) (reports : visit.OnlyReports) :
    history.OnlyReports := by
  intro called listed
  rw [one] at listed
  obtain rfl := List.mem_singleton.mp listed
  exact reports

theorem onlyReports_append :
    (first ++ second : History).OnlyReports ↔ first.OnlyReports ∧ second.OnlyReports := by
  simp only [OnlyReports, visits_append, List.mem_append, or_imp, forall_and]

end History

/-! ## Frames -/

/-- Neither the exchange nor what it belongs to was exchanged, and no property was touched but those
of the error handler. -/
structure Framed (before after : Exchange) : Prop where
  id : after.id = before.id
  pattern : after.pattern = before.pattern
  context : after.context = before.context
  createdAt : after.createdAt = before.createdAt
  fromEndpoint : after.fromEndpoint = before.fromEndpoint
  unitOfWork : after.unitOfWork = before.unitOfWork
  properties : ∀ name ∉ Property.ofHandler.map Property.name,
    after.property? name = before.property? name

/-- Besides, the messages are the same but for a replacement, and for the fault that is dropped by
redeliveries. -/
structure Kept (replacement : Option Message) (redeliveries : Nat) (before after : Exchange) : Prop
    extends Framed before after where
  inbound : after.inbound = replacement.getD before.inbound
  outbound : after.outbound = if replacement.isSome then none else before.outbound
  fault : after.fault = if redeliveries = 0 then before.fault else none

variable {before between after exchange : Exchange} {written : Property}
  {first second : Option Message} {earlier later : Nat}

theorem Framed.refl (exchange : Exchange) : Framed exchange exchange :=
  ⟨rfl, rfl, rfl, rfl, rfl, rfl, fun _ _ => rfl⟩

theorem Framed.trans (one : Framed before between) (other : Framed between after) :
    Framed before after where
  id := other.id.trans one.id
  pattern := other.pattern.trans one.pattern
  context := other.context.trans one.context
  createdAt := other.createdAt.trans one.createdAt
  fromEndpoint := other.fromEndpoint.trans one.fromEndpoint
  unitOfWork := other.unitOfWork.trans one.unitOfWork
  properties name unwritten :=
    (other.properties name unwritten).trans (one.properties name unwritten)

theorem Framed.arrival? (framed : Framed before after) : after.arrival? = before.arrival? :=
  congrArg (Option.map UnitOfWork.arrival) framed.unitOfWork

theorem Kept.trans (one : Kept first earlier before between)
    (other : Kept second later between after) :
    Kept (second.or first) (earlier + later) before after where
  toFramed := one.toFramed.trans other.toFramed
  inbound := by
    rw [other.inbound, one.inbound]
    cases second <;> rfl
  outbound := by
    rw [other.outbound, one.outbound]
    cases second <;> rfl
  fault := by
    rw [other.fault, one.fault]
    by_cases none : later = 0
    · rw [if_pos none, none, Nat.add_zero]
    · rw [if_neg none, if_neg (mt (fun sum => (Nat.add_eq_zero_iff.mp sum).2) none)]

namespace Exchange

theorem kept_refl (exchange : Exchange) : Kept none 0 exchange exchange :=
  ⟨.refl exchange, rfl, rfl, rfl⟩

theorem kept_put (listed : written ∈ Property.ofHandler) (value : Value) :
    Kept none 0 exchange (exchange.put written value) := by
  refine ⟨⟨rfl, rfl, rfl, rfl, rfl, rfl, fun name unwritten => ?_⟩, rfl, rfl, rfl⟩
  have different : name ≠ written.name := by
    rintro rfl
    exact unwritten (List.mem_map_of_mem listed)
  simp [property?, put, setProperty, Table.get?_set, different]

theorem kept_drop (listed : written ∈ Property.ofHandler) :
    Kept none 0 exchange (exchange.drop written) := by
  refine ⟨⟨rfl, rfl, rfl, rfl, rfl, rfl, fun name unwritten => ?_⟩, rfl, rfl, rfl⟩
  have different : name ≠ written.name := by
    rintro rfl
    exact unwritten (List.mem_map_of_mem listed)
  simp [property?, drop, removeProperty, Table.get?_erase, different]

theorem kept_setException (exchange : Exchange) (failure : Failure) :
    Kept none 0 exchange (exchange.setException failure) :=
  ⟨⟨rfl, rfl, rfl, rfl, rfl, rfl, fun _ _ => rfl⟩, rfl, rfl, rfl⟩

theorem kept_clearException (exchange : Exchange) : Kept none 0 exchange exchange.clearException :=
  ⟨⟨rfl, rfl, rfl, rfl, rfl, rfl, fun _ _ => rfl⟩, rfl, rfl, rfl⟩

theorem kept_recording (exchange : Exchange) (failure : Option Failure) :
    Kept none 0 exchange (exchange.recording failure) := by
  cases failure with
  | none => exact kept_refl exchange
  | some failure => exact kept_setException exchange failure.capture

theorem kept_setCaught (exchange : Exchange) (failure : Failure) :
    Kept none 0 exchange (exchange.setCaught failure) := by
  have put : Kept none 0 exchange (exchange.put .exceptionCaught (.text failure.display)) :=
    kept_put (by decide) _
  exact ⟨⟨rfl, rfl, rfl, rfl, rfl, rfl, put.properties⟩, rfl, rfl, rfl⟩

end Exchange

theorem Visit.OnlyReports.kept {visit : Visit} (reports : visit.OnlyReports) :
    Kept none 0 visit.before visit.after := by
  obtain ⟨failure, same⟩ := reports
  rw [same]
  exact visit.before.kept_recording failure

namespace ErrorHandler

variable {handler : ErrorHandler} {preparation : Option Preparation} {ready : Exchange}
  {moments past last : History} {standing next : Standing} {entry : Option Message}
  {policy : Option ExceptionPolicy} {failure : Failure} {result : Exchange × Outcome}

/-! ## Handlers around processors that only report -/

/-- The step, what runs before a redelivery and the dead letter destinations only report. -/
structure OnlyReports (handler : ErrorHandler) : Prop where
  output : handler.output.OnlyReports
  hooks : ∀ failure hook, handler.hookUnder (handler.policyFor failure) = some hook →
    hook.OnlyReports
  deadLetters : ∀ failure broker deadLetter,
    handler.destination (handler.policyFor failure) broker = .ok (some deadLetter) →
      deadLetter.processor.OnlyReports

/-- What is to run before an attempt only reports. -/
def Preparation.OnlyReports (preparation : Option Preparation) : Prop :=
  ∀ ready ∈ preparation, ∀ hook ∈ ready.hook, hook.OnlyReports

theorem Prepared.onlyReports (prepared : Prepared preparation exchange moments ready)
    (hooks : Preparation.OnlyReports preparation) : moments.OnlyReports := by
  cases prepared with
  | first => exact History.onlyReports_of_no_visits rfl
  | unhooked => exact History.onlyReports_of_no_visits rfl
  | hooked _ given => exact History.onlyReports_of_one_visit rfl (hooks _ rfl _ rfl _ _ given)

theorem Attempted.onlyReports (attempted : Attempted handler preparation exchange moments after)
    (reporting : handler.OnlyReports) (hooks : Preparation.OnlyReports preparation) :
    moments.OnlyReports := by
  cases attempted with
  | ran prepared _ given =>
      have step := reporting.output _ _ given
      exact History.onlyReports_append.mpr
        ⟨prepared.onlyReports hooks, History.onlyReports_of_one_visit rfl step⟩
  | withheld prepared => exact prepared.onlyReports hooks

theorem Reached.onlyReports (reached : Reached handler (outset exchange) past standing)
    (reporting : handler.OnlyReports) :
    past.OnlyReports ∧ Preparation.OnlyReports standing.preparation := by
  induction reached with
  | start =>
      refine ⟨History.onlyReports_of_no_visits rfl, ?_⟩
      rintro ready ⟨⟩
  | again _ retried inductionHypothesis =>
      obtain ⟨before, hooks⟩ := inductionHypothesis
      cases retried with
      | @caught _ _ _ _ _ _ _ failure attempted =>
          have uncalled : History.OnlyReports [.caught failure] :=
            History.onlyReports_of_no_visits rfl
          have now := History.onlyReports_append.mpr
            ⟨attempted.onlyReports reporting hooks, uncalled⟩
          refine ⟨History.onlyReports_append.mpr ⟨before, now⟩, ?_⟩
          rintro preparation ⟨⟩ hook found
          exact reporting.hooks _ hook found

theorem Ended.onlyReports {marked : Exchange}
    (ended : Ended handler (handler.policyFor failure) failure entry marked moments result)
    (reporting : handler.OnlyReports) : moments.OnlyReports := by
  cases ended with
  | unavailable => exact History.onlyReports_of_no_visits rfl
  | undelivered => exact History.onlyReports_of_no_visits rfl
  | refused broker found given =>
      have delivery := reporting.deadLetters failure broker _ found _ _ given
      exact History.onlyReports_of_one_visit rfl delivery
  | delivered broker found given =>
      have delivery := reporting.deadLetters failure broker _ found _ _ given
      exact History.onlyReports_of_one_visit rfl delivery

/-- Around processors that only report, every call does. -/
theorem onlyReports_of_observe {history : History}
    (given : (handler.observe exchange).Gives history result) (reporting : handler.OnlyReports) :
    history.OnlyReports := by
  obtain ⟨past, standing, last, reached, closing, rfl⟩ := course_of_observe given
  obtain ⟨before, hooks⟩ := reached.onlyReports reporting
  refine History.onlyReports_append.mpr ⟨before, ?_⟩
  cases closing with
  | succeeded attempted => exact attempted.onlyReports reporting hooks
  | faulted attempted => exact attempted.onlyReports reporting hooks
  | misconfigured attempted =>
      exact History.onlyReports_append.mpr
        ⟨attempted.onlyReports reporting hooks, History.onlyReports_of_no_visits rfl⟩
  | exhausted attempted _ _ _ ended =>
      exact History.onlyReports_append.mpr
        ⟨attempted.onlyReports reporting hooks, ended.onlyReports reporting⟩

/-! ## Attempts -/

theorem kept_cleared (exchange : Exchange) : Kept none 1 exchange (cleared exchange) := by
  have dropped : Kept none 0 exchange.clearException.clearFault (cleared exchange) :=
    Exchange.kept_drop (by decide)
  exact ⟨⟨rfl, rfl, rfl, rfl, rfl, rfl, dropped.properties⟩, rfl, rfl, rfl⟩

theorem kept_counted (exchange : Exchange) (redeliveries : Nat) :
    Kept none 0 exchange (counted exchange redeliveries) :=
  (Exchange.kept_put (by decide) _).trans (Exchange.kept_put (by decide) _)

theorem kept_settled (exchange : Exchange) (redeliveries : Nat) :
    Kept none 0 exchange (settled exchange redeliveries) := by
  unfold settled
  split
  · exact (Exchange.kept_drop (by decide)).trans (Exchange.kept_drop (by decide))
  · exact Exchange.kept_put (by decide) _

theorem kept_ranOut (exchange : Exchange) (failure : Failure) (redeliveries : Nat) :
    Kept none 0 exchange (ranOut exchange failure redeliveries) := by
  have counted := (exchange.kept_setCaught failure).trans (kept_counted _ (redeliveries + 1))
  have settled := counted.trans (kept_settled _ redeliveries)
  exact settled.trans ((Exchange.kept_put (by decide) _).trans (Exchange.kept_put (by decide) _))

theorem Prepared.kept (prepared : Prepared preparation exchange moments ready)
    (reports : moments.OnlyReports) : Kept none moments.redeliveries exchange ready := by
  cases prepared with
  | first => exact exchange.kept_refl
  | unhooked => exact kept_cleared exchange
  | hooked =>
      have called := reports _ (List.mem_singleton_self _)
      exact (kept_cleared exchange).trans called.kept

theorem Attempted.kept (attempted : Attempted handler preparation exchange moments after)
    (reports : moments.OnlyReports) : Kept none moments.redeliveries exchange after := by
  cases attempted with
  | ran prepared =>
      obtain ⟨before, step⟩ := History.onlyReports_append.mp reports
      have called := step _ (List.mem_singleton_self _)
      rw [History.redeliveries_append]
      exact (prepared.kept before).trans called.kept
  | withheld prepared => exact prepared.kept reports

theorem Retried.kept (retried : Retried handler standing moments next)
    (reports : moments.OnlyReports) :
    Kept none moments.redeliveries standing.exchange next.exchange := by
  cases retried with
  | caught _ _ attempted =>
      have made := attempted.kept (History.onlyReports_append.mp reports).1
      rw [History.redeliveries_append]
      exact made.trans ((Exchange.kept_setCaught _ _).trans (kept_counted _ _))

theorem Reached.kept (reached : Reached handler (outset exchange) past standing)
    (reports : past.OnlyReports) : Kept none past.redeliveries exchange standing.exchange := by
  induction reached with
  | start => exact exchange.kept_refl
  | again _ retried inductionHypothesis =>
      obtain ⟨before, now⟩ := History.onlyReports_append.mp reports
      rw [History.redeliveries_append]
      exact (inductionHypothesis before).trans (retried.kept now)

/-! ## The exhausted path -/

/-- What takes the place of the messages: the original message, if the exchange was delivered to a
dead letter destination. -/
def replacement (handler : ErrorHandler) (policy : Option ExceptionPolicy) (entry : Option Message)
    (exchange : Exchange) (history : History) : Option Message :=
  if history.deliveries = [] then none else handler.original? policy entry exchange

theorem replacement_of_undelivered (undelivered : moments.deliveries = []) :
    handler.replacement policy entry exchange moments = none :=
  if_pos undelivered

theorem replacement_congr {other : Exchange} (delivered : past.deliveries = last.deliveries)
    (arrived : exchange.arrival? = other.arrival?) :
    handler.replacement policy entry exchange past =
      handler.replacement policy entry other last := by
  rw [replacement, replacement, original?, original?, delivered, arrived]

theorem kept_forDeadLetter (handler : ErrorHandler) (policy : Option ExceptionPolicy)
    (entry : Option Message) (exchange : Exchange) (name : String) (visit : Visit) :
    Kept (handler.replacement policy entry exchange [.delivery name visit]) 0 exchange
      (handler.forDeadLetter policy entry name exchange) := by
  have put : Kept none 0 exchange (exchange.put .failureEndpoint (.text name)) :=
    Exchange.kept_put (by decide) _
  have delivered : History.deliveries [.delivery name visit] ≠ [] := List.cons_ne_nil _ _
  rw [replacement, if_neg delivered, forDeadLetter]
  cases handler.original? policy entry exchange with
  | none => exact ⟨⟨rfl, rfl, rfl, rfl, rfl, rfl, put.properties⟩, rfl, rfl, rfl⟩
  | some original => exact ⟨⟨rfl, rfl, rfl, rfl, rfl, rfl, put.properties⟩, rfl, rfl, rfl⟩

theorem kept_conclusion (handler : ErrorHandler) (policy : Option ExceptionPolicy)
    (failure : Failure) (deliveredTo : Option String) (exchange : Exchange) :
    Kept none 0 exchange (handler.conclusion policy failure deliveredTo exchange).1 := by
  unfold conclusion
  split
  · exact exchange.kept_clearException.trans (Exchange.kept_put (by decide) _)
  · exact (Exchange.kept_put (by decide) _).trans (Exchange.kept_setException _ failure)

theorem Ended.kept {marked : Exchange}
    (ended : Ended handler policy failure entry marked moments result)
    (reports : moments.OnlyReports) :
    Kept (handler.replacement policy entry marked moments) 0 marked result.1 := by
  cases ended with
  | unavailable =>
      rw [replacement_of_undelivered rfl]
      exact marked.kept_setException _
  | undelivered =>
      rw [replacement_of_undelivered rfl]
      exact kept_conclusion handler policy failure none marked
  | refused =>
      have called := reports _ (List.mem_singleton_self _)
      exact (kept_forDeadLetter handler policy entry marked _ _).trans called.kept
  | @delivered _ deadLetter after =>
      have called := reports _ (List.mem_singleton_self _)
      have concluded := called.kept.trans
        (kept_conclusion handler policy failure (some deadLetter.name) after)
      exact (kept_forDeadLetter handler policy entry marked _ _).trans concluded

/-! ## Whole passes -/

/-- The last attempt replaces nothing, unless the failure that it caught is the last one. -/
theorem Closing.kept (closing : Closing handler entry standing last result)
    (reports : last.OnlyReports) :
    last.deliveries = [] ∧ Kept none last.redeliveries standing.exchange result.1 ∨
      ∃ failure, last.failures = [failure] ∧
        Kept (handler.replacement (handler.policyFor failure) entry standing.exchange last)
          last.redeliveries standing.exchange result.1 := by
  cases closing with
  | succeeded attempted =>
      obtain ⟨_, _, undelivered, _⟩ := attempted.moments
      exact .inl ⟨undelivered, attempted.kept reports⟩
  | faulted attempted =>
      obtain ⟨_, _, undelivered, _⟩ := attempted.moments
      exact .inl ⟨undelivered, attempted.kept reports⟩
  | misconfigured attempted =>
      obtain ⟨_, _, undelivered, _⟩ := attempted.moments
      have made := attempted.kept (History.onlyReports_append.mp reports).1
      rw [History.deliveries_append, History.redeliveries_append, undelivered]
      exact .inl ⟨rfl, made.trans (Exchange.kept_setCaught _ _)⟩
  | @exhausted after moments rest failure _ attempted _ _ _ ended =>
      obtain ⟨uncaught, _, undelivered, _⟩ := attempted.moments
      obtain ⟨_, _, noneCaught, _, noneRedelivered⟩ := ended.moments
      obtain ⟨before, later⟩ := History.onlyReports_append.mp reports
      refine .inr ⟨failure, ?_, ?_⟩
      · rw [History.failures_append, uncaught]
        exact congrArg (failure :: ·) noneCaught
      · have out : Kept none moments.redeliveries standing.exchange
            (ranOut after failure standing.redeliveries) :=
          (attempted.kept before).trans (kept_ranOut after failure standing.redeliveries)
        have left := out.trans (ended.kept later)
        have same : (moments ++ .caught failure ::
            .exhausted (ranOut after failure standing.redeliveries) :: rest).deliveries =
            History.deliveries rest := by
          rw [History.deliveries_append, undelivered]
          rfl
        have count : (moments ++ .caught failure ::
            .exhausted (ranOut after failure standing.redeliveries) :: rest).redeliveries =
            moments.redeliveries := by
          rw [History.redeliveries_append]
          exact congrArg (moments.redeliveries + ·) noneRedelivered
        rw [replacement_congr same out.arrival?.symm, count]
        rw [Option.or_none] at left
        exact left

theorem kept_of_observe {history : History}
    (given : (handler.observe exchange).Gives history result) (reports : history.OnlyReports) :
    Kept (handler.replacement (history.failures.getLast?.bind handler.policyFor)
      (handler.entryOf exchange) exchange history) history.redeliveries exchange result.1 := by
  obtain ⟨past, standing, last, reached, closing, rfl⟩ := course_of_observe given
  obtain ⟨before, now⟩ := History.onlyReports_append.mp reports
  have arrived := reached.kept before
  have undelivered := reached.underway.undelivered
  rw [History.redeliveries_append]
  rcases closing.kept now with ⟨none, left⟩ | ⟨failure, caught, left⟩
  · rw [replacement_of_undelivered (by rw [History.deliveries_append, undelivered, none]; rfl)]
    exact arrived.trans left
  · have whole := arrived.trans left
    rw [Option.or_none] at whole
    have same : (past ++ last).deliveries = last.deliveries := by
      rw [History.deliveries_append, undelivered]
      rfl
    have effective : (past ++ last).failures.getLast?.bind handler.policyFor =
        handler.policyFor failure := by
      rw [History.failures_append, caught, List.getLast?_concat]
      rfl
    rw [effective, replacement_congr same arrived.arrival?.symm]
    exact whole

/-- A policy of the handler that asks for the original message has it kept. -/
theorem entryOf_of_usesArrival {policy : Option ExceptionPolicy}
    (listed : ∀ found, policy = some found → found ∈ handler.rules.policies)
    (uses : handler.usesArrival policy = true) : handler.entryOf exchange = some exchange.inbound := by
  refine if_pos ?_
  rw [Bool.or_eq_true, List.any_eq_true]
  cases policy with
  | none => exact .inl uses
  | some found =>
      cases asked : found.useArrival with
      | none =>
          rw [usesArrival, Option.bind_some, asked] at uses
          exact .inl uses
      | some chosen =>
          rw [usesArrival, Option.bind_some, asked] at uses
          refine .inr ⟨found, listed found rfl, ?_⟩
          rw [asked, beq_iff_eq]
          exact congrArg some uses

/-- Around processors that report failures and change nothing, a pass leaves an exchange as it was
but for its failures and the properties of the error handler. A delivery to a dead letter
destination that is to get the original message puts it in place of the messages, if there is one:
the unit of work keeps it, or the handler or one of its listed policies asked for it to be kept. It
is there if the policy that applied is listed. A redelivery drops the fault message. -/
theorem frame_of_observe {history : History} {outcome : Outcome}
    (given : (handler.observe exchange).Gives history (after, outcome))
    (reports : history.OnlyReports) :
    let policy := history.failures.getLast?.bind handler.policyFor
    let restores := history.deliveries ≠ [] ∧ handler.usesArrival policy = true
    let original := exchange.arrival?.or (handler.entryOf exchange)
    (handler.observe exchange).result = handler.handle exchange ∧
      Framed exchange after ∧
      (∀ message, restores → original = some message →
        after.inbound = message ∧ after.outbound = none) ∧
      (¬(restores ∧ original.isSome = true) →
        after.inbound = exchange.inbound ∧ after.outbound = exchange.outbound) ∧
      ((∀ found, policy = some found → found ∈ handler.rules.policies) → restores →
        original = some (exchange.arrival?.getD exchange.inbound)) ∧
      after.fault = if history.redeliveries = 0 then exchange.fault else none := by
  intro policy restores original
  have kept := kept_of_observe given reports
  refine ⟨handler.result_observe exchange, kept.toFramed, ?_, ?_, ?_, kept.fault⟩
  · rintro message ⟨delivered, uses⟩ found
    have replaced : handler.replacement policy (handler.entryOf exchange) exchange history =
        some message := by
      rw [replacement, if_neg delivered, original?, if_pos uses]
      exact found
    rw [kept.inbound, kept.outbound, replaced]
    exact ⟨rfl, rfl⟩
  · intro unrestored
    have unreplaced : handler.replacement policy (handler.entryOf exchange) exchange history =
        none := by
      rw [replacement, original?]
      split
      · rfl
      rename_i delivered
      split
      · rename_i uses
        rw [← Option.not_isSome_iff_eq_none]
        exact fun found => unrestored ⟨⟨delivered, uses⟩, found⟩
      · rfl
    rw [kept.inbound, kept.outbound, unreplaced]
    exact ⟨rfl, rfl⟩
  · rintro listed ⟨_, uses⟩
    change exchange.arrival?.or (handler.entryOf exchange) = _
    rw [entryOf_of_usesArrival listed uses]
    cases exchange.arrival? with
    | none => rfl
    | some arrival => rfl

/-- A handler like `persistent` whose dead letter destination is to get the original message. -/
def restoring : ErrorHandler :=
  { persistent with
    rules := { persistent.rules with useArrival := true, strategy := fun _ _ => none } }

def answered : Exchange :=
  { fresh with outbound := some { id := "answer" }, fault := some { id := "fault" } }

theorem onlyReports_restoring : restoring.OnlyReports where
  output := Processor.onlyReports_ofFunction "persistent" fun _ => some (.plain "refused")
  hooks failure hook found := by
    change none = some hook at found
    contradiction
  deadLetters failure broker deadLetter found := by
    change Except.ok persistent.rules.deadLetter = Except.ok (some deadLetter) at found
    obtain rfl := Option.some.inj (Except.ok.inj found)
    exact Processor.onlyReports_ofFunction "graveyard" fun _ => none

/-- The original message takes the place of the answer, and the fault is dropped. -/
theorem frame_of_observe_restoring :
    ∃ (history : History) (after : Exchange) (outcome : Outcome),
      (restoring.observe answered).Gives history (after, outcome) ∧ history.OnlyReports ∧
        Framed answered after ∧ after.inbound = fresh.inbound ∧ after.outbound = none ∧
        after.fault = none := by
  have given := Logged.gives_alone (restoring.observe answered) default
  have reports := onlyReports_of_observe given onlyReports_restoring
  have delivered : (History.deliveries ((restoring.observe answered).alone default).1).length ≠
      0 := by
    decide +kernel
  have redelivered : History.redeliveries ((restoring.observe answered).alone default).1 = 1 := by
    decide +kernel
  have restores : restoring.usesArrival ((History.failures
      ((restoring.observe answered).alone default).1).getLast?.bind restoring.policyFor) =
      true := by
    decide +kernel
  obtain ⟨_, framed, messages, _, _, fault⟩ := frame_of_observe given reports
  obtain ⟨inbound, outbound⟩ :=
    messages fresh.inbound ⟨mt List.length_eq_zero_iff.mpr delivered, restores⟩ rfl
  rw [redelivered] at fault
  exact ⟨_, _, _, given, reports, framed, inbound, outbound, fault⟩

/-- A handler like `restoring` that does not ask for the original message itself: the policy that its
strategy finds does, and is not listed. -/
def improvising : ErrorHandler :=
  { persistent with
    rules :=
      { persistent.rules with
        policies := []
        strategy := fun _ _ => some { accepts := fun _ => true, useArrival := some true } } }

/-- A handler like `restoring` around a step that is misconfigured. -/
def misconfigured : ErrorHandler :=
  { restoring with
    output := .ofFunction "misconfigured" fun exchange =>
      (exchange, some (.invalidConfig "refused")) }

/-- Twice the messages stay as they are, although there is a dead letter destination and the original
message is to go there. No original message was kept for a policy that is not listed; and a failure
that cannot be mended ends the pass before anything is delivered. -/
theorem messages_kept_unlisted_or_unmended :
    let history : History := ((improvising.observe answered).alone default).1
    let after := ((improvising.handle answered).run default).1.1
    let unmended : History := ((misconfigured.observe answered).alone default).1
    let left := ((misconfigured.handle answered).run default).1.1
    (history.deliveries.length = 1 ∧
        improvising.usesArrival (history.failures.getLast?.bind improvising.policyFor) = true ∧
        after.inbound.id = answered.inbound.id ∧ after.outbound.map Message.id = some "answer") ∧
      misconfigured.rules.deadLetter.isSome = true ∧
      misconfigured.usesArrival (unmended.failures.getLast?.bind misconfigured.policyFor) = true ∧
      unmended.deliveries.length = 0 ∧ left.outbound.map Message.id = some "answer" := by
  decide +kernel

end ErrorHandler

end MessageRouting
