import MessageRouting.Proofs.Engine.Paired
import MessageRouting.Proofs.Redelivery.Proceeding
import MessageRouting.Proofs.Route.NoSilentLoss

/-!
# What the steps of a route do not look at

A consumer that holds back duplicates leaves its traces in a key repository, in the
unit of work of the exchange and in a count of duplicates. Steps that look at none of
these do the same on exchanges and brokers that differ in nothing else, and so do error
handlers around them and the endpoints that they are delivered to.
-/

namespace MessageRouting

/-- What is hidden from the steps of a route: a key repository, with what is due for its keys at the
end of a unit of work, and the counts of duplicates from a handle on. -/
structure Veil where
  repository : Nat
  duplicates : Nat

namespace Veil

variable (veil : Veil)

def hides : Completion → Bool
  | .settleKey repository _ _ => repository == veil.repository
  | _ => false

def cover (unit : UnitOfWork) : UnitOfWork :=
  { unit with completions := unit.completions.filter fun completion => !veil.hides completion }

/-- The exchanges differ in nothing but hidden completions. -/
structure Same (left right : Exchange) : Prop where
  elsewhere : right = { left with unitOfWork := right.unitOfWork }
  covered : right.unitOfWork.map veil.cover = left.unitOfWork.map veil.cover

/-- The brokers differ in nothing but the hidden repository and the hidden counts. -/
structure Apart (left right : Broker) : Prop where
  elsewhere : right =
    { left with repositories := right.repositories, duplicates := right.duplicates }
  repositories : ∀ handle, handle ≠ veil.repository →
    right.repositories.get? handle = left.repositories.get? handle
  duplicates : right.duplicates.items.take veil.duplicates =
    left.duplicates.items.take veil.duplicates

variable {veil} {left right : Exchange} {α : Type}

/-! ## Exchanges -/

theorem same_refl (exchange : Exchange) : veil.Same exchange exchange :=
  ⟨rfl, rfl⟩

theorem Same.exists_unit (same : veil.Same left right) :
    ∃ unit, right = { left with unitOfWork := unit } ∧
      unit.map veil.cover = left.unitOfWork.map veil.cover :=
  ⟨right.unitOfWork, same.elsewhere, same.covered⟩

/-- What does not depend on the unit of work is the same on both exchanges. -/
theorem Same.congr (same : veil.Same left right) (view : Exchange → α)
    (ignores : ∀ exchange unit, view { exchange with unitOfWork := unit } = view exchange) :
    view right = view left := by
  obtain ⟨unit, rfl, _⟩ := same.exists_unit
  exact ignores left unit

/-- A change that leaves the unit of work alone makes no difference. -/
theorem Same.map (same : veil.Same left right) (change : Exchange → Exchange)
    (ignores : ∀ exchange unit,
      change { exchange with unitOfWork := unit } = { change exchange with unitOfWork := unit }) :
    veil.Same (change left) (change right) := by
  obtain ⟨unit, rfl, covered⟩ := same.exists_unit
  have own : change left = { change left with unitOfWork := left.unitOfWork } :=
    ignores left left.unitOfWork
  have kept : (change left).unitOfWork = left.unitOfWork :=
    (congrArg Exchange.unitOfWork own).trans rfl
  rw [ignores left unit]
  refine ⟨rfl, ?_⟩
  rw [kept]
  exact covered

theorem Same.exception (same : veil.Same left right) : right.exception = left.exception :=
  same.congr Exchange.exception fun _ _ => rfl

theorem Same.put (same : veil.Same left right) (property : Property) (value : Value) :
    veil.Same (left.put property value) (right.put property value) :=
  same.map (fun exchange => exchange.put property value) fun _ _ => rfl

theorem Same.drop (same : veil.Same left right) (property : Property) :
    veil.Same (left.drop property) (right.drop property) :=
  same.map (fun exchange => exchange.drop property) fun _ _ => rfl

theorem Same.setException (same : veil.Same left right) (failure : Failure) :
    veil.Same (left.setException failure) (right.setException failure) :=
  same.map (fun exchange => exchange.setException failure) fun _ _ => rfl

theorem Same.clearException (same : veil.Same left right) :
    veil.Same left.clearException right.clearException :=
  same.map Exchange.clearException fun _ _ => rfl

theorem Same.setCaught (same : veil.Same left right) (failure : Failure) :
    veil.Same (left.setCaught failure) (right.setCaught failure) :=
  same.map (fun exchange => exchange.setCaught failure) fun _ _ => rfl

theorem Same.promote (same : veil.Same left right) : veil.Same left.promote right.promote := by
  refine same.map Exchange.promote fun exchange unit => ?_
  cases found : exchange.outbound <;> simp [Exchange.promote, found]

theorem Same.recording (same : veil.Same left right) (failure : Option Failure) :
    veil.Same (left.recording failure) (right.recording failure) := by
  refine same.map (fun exchange => exchange.recording failure) fun exchange unit => ?_
  cases failure <;> rfl

theorem Same.isInUnitOfWork (same : veil.Same left right) :
    right.isInUnitOfWork = left.isInUnitOfWork := by
  have active : ∀ unit : Option UnitOfWork,
      unit.any UnitOfWork.isActive = (unit.map veil.cover).any UnitOfWork.isActive := by
    intro unit
    cases unit <;> rfl
  unfold Exchange.isInUnitOfWork
  rw [active, same.covered, ← active]

theorem Same.arrival? (same : veil.Same left right) : right.arrival? = left.arrival? := by
  have arrived : ∀ unit : Option UnitOfWork,
      unit.map UnitOfWork.arrival = (unit.map veil.cover).map UnitOfWork.arrival := by
    intro unit
    cases unit <;> rfl
  unfold Exchange.arrival?
  rw [arrived, same.covered, ← arrived]

theorem cover_add (unit : UnitOfWork) (completion : Completion) :
    veil.cover (unit.add completion) =
      if veil.hides completion then veil.cover unit else (veil.cover unit).add completion := by
  unfold cover UnitOfWork.add
  cases hidden : veil.hides completion <;> simp [hidden]

/-- A completion that is registered on both exchanges makes no difference. -/
theorem Same.addCompletion (same : veil.Same left right) (inside : left.isInUnitOfWork = true)
    (completion : Completion) :
    veil.Same (left.addCompletion completion) (right.addCompletion completion) := by
  obtain ⟨unit, rfl, covered⟩ := same.exists_unit
  refine ⟨rfl, ?_⟩
  unfold Exchange.addCompletion Exchange.unitOfWorkOrNew
  unfold Exchange.isInUnitOfWork at inside
  cases held : left.unitOfWork with
  | none =>
      rw [held] at inside
      contradiction
  | some own =>
      rw [held] at covered
      cases unit with
      | none => contradiction
      | some other =>
          have alike : veil.cover other = veil.cover own := Option.some.inj covered
          refine congrArg some ?_
          change veil.cover (other.add completion) = veil.cover (own.add completion)
          rw [cover_add, cover_add, alike]

/-- Nor does a hidden completion that is registered on one of them. -/
theorem Same.addHidden (same : veil.Same left right) (inside : left.isInUnitOfWork = true)
    {completion : Completion} (hidden : veil.hides completion = true) :
    veil.Same (left.addCompletion completion) right := by
  obtain ⟨unit, rfl, covered⟩ := same.exists_unit
  refine ⟨rfl, ?_⟩
  unfold Exchange.addCompletion Exchange.unitOfWorkOrNew
  unfold Exchange.isInUnitOfWork at inside
  cases held : left.unitOfWork with
  | none =>
      rw [held] at inside
      contradiction
  | some own =>
      rw [held] at covered
      change unit.map veil.cover = some (veil.cover (own.add completion))
      rw [cover_add, if_pos hidden]
      exact covered

/-! ## Brokers -/

variable {first second : Broker}

theorem apart_refl (broker : Broker) : veil.Apart broker broker :=
  ⟨rfl, fun _ _ => rfl, rfl⟩

theorem Apart.exists_hidden (apart : veil.Apart first second) :
    ∃ repositories duplicates,
      second = { first with repositories := repositories, duplicates := duplicates } ∧
        (∀ handle, handle ≠ veil.repository →
          repositories.get? handle = first.repositories.get? handle) ∧
        duplicates.items.take veil.duplicates = first.duplicates.items.take veil.duplicates :=
  ⟨second.repositories, second.duplicates, apart.elsewhere, apart.repositories, apart.duplicates⟩

/-- What depends on no repository and no count is the same in both brokers. -/
theorem Apart.congr (apart : veil.Apart first second) (view : Broker → α)
    (ignores : ∀ broker repositories duplicates,
      view { broker with repositories := repositories, duplicates := duplicates } = view broker) :
    view second = view first := by
  obtain ⟨repositories, duplicates, rfl, _⟩ := apart.exists_hidden
  exact ignores first repositories duplicates

/-- A change that leaves the repositories and the counts alone keeps brokers apart as they are. -/
theorem Apart.map (apart : veil.Apart first second) (change : Broker → Broker)
    (ignores : ∀ broker repositories duplicates,
      change { broker with repositories := repositories, duplicates := duplicates } =
        { change broker with repositories := repositories, duplicates := duplicates }) :
    veil.Apart (change first) (change second) := by
  obtain ⟨repositories, duplicates, rfl, others, counted⟩ := apart.exists_hidden
  have own : change first = { change first with
      repositories := first.repositories, duplicates := first.duplicates } :=
    ignores first first.repositories first.duplicates
  have keptRepositories : (change first).repositories = first.repositories :=
    (congrArg Broker.repositories own).trans rfl
  have keptDuplicates : (change first).duplicates = first.duplicates :=
    (congrArg Broker.duplicates own).trans rfl
  rw [ignores first repositories duplicates]
  refine ⟨rfl, ?_, ?_⟩
  · rw [keptRepositories]
    exact others
  · rw [keptDuplicates]
    exact counted

theorem Apart.symm (apart : veil.Apart first second) : veil.Apart second first := by
  obtain ⟨repositories, duplicates, rfl, others, counted⟩ := apart.exists_hidden
  exact ⟨rfl, fun handle shown => (others handle shown).symm, counted.symm⟩

/-- Both brokers change one repository that is not hidden. -/
theorem Apart.modifyRepository (apart : veil.Apart first second) (handle : Nat)
    (change : KeyRepository → KeyRepository) :
    veil.Apart { first with repositories := first.repositories.modify handle change }
      { second with repositories := second.repositories.modify handle change } := by
  obtain ⟨repositories, duplicates, rfl, others, counted⟩ := apart.exists_hidden
  refine ⟨rfl, fun other shown => ?_, counted⟩
  change (repositories.modify handle change).get? other =
    (first.repositories.modify handle change).get? other
  rw [Register.get?_modify, Register.get?_modify, others other shown]

/-- One broker changes the hidden repository. -/
theorem Apart.modifyHidden (apart : veil.Apart first second)
    (change : KeyRepository → KeyRepository) :
    veil.Apart { first with repositories := first.repositories.modify veil.repository change }
      second := by
  obtain ⟨repositories, duplicates, rfl, others, counted⟩ := apart.exists_hidden
  refine ⟨rfl, fun other shown => ?_, counted⟩
  change repositories.get? other = (first.repositories.modify veil.repository change).get? other
  rw [Register.get?_modify, if_neg (Ne.symm shown)]
  exact others other shown

/-- One broker counts where the count is hidden. -/
theorem Apart.modifyDuplicates (apart : veil.Apart first second) {handle : Nat}
    (hidden : veil.duplicates ≤ handle) (change : Nat → Nat) :
    veil.Apart { first with duplicates := first.duplicates.modify handle change } second := by
  obtain ⟨repositories, duplicates, rfl, others, counted⟩ := apart.exists_hidden
  refine ⟨rfl, others, ?_⟩
  change duplicates.items.take veil.duplicates =
    (first.duplicates.items.modify handle change).take veil.duplicates
  rw [counted]
  apply List.ext_getElem?
  intro place
  rw [List.getElem?_take, List.getElem?_take, List.getElem?_modify]
  by_cases within : place < veil.duplicates
  · have other : handle ≠ place := by omega
    simp [within, other]
  · rw [if_neg within, if_neg within]

/-! ## Routines -/

section

variable {alter : Broker → Broker} {step : Broker → α × Broker}

theorem paired_modify
    (ignores : ∀ broker repositories duplicates,
      alter { broker with repositories := repositories, duplicates := duplicates } =
        { alter broker with repositories := repositories, duplicates := duplicates }) :
    Routine.Paired veil.Apart Eq (Routine.modify alter) (Routine.modify alter) :=
  Routine.paired_modify fun _ _ apart => apart.map alter ignores

theorem paired_look {view : Broker → α}
    (ignores : ∀ broker repositories duplicates,
      view { broker with repositories := repositories, duplicates := duplicates } = view broker) :
    Routine.Paired veil.Apart Eq (Routine.look view) (Routine.look view) :=
  Routine.paired_look fun _ _ apart => (apart.congr view ignores).symm

theorem paired_report (event : RedeliveryEvent) :
    Routine.Paired veil.Apart Eq (Broker.report event) (Broker.report event) := by
  unfold Broker.report
  split
  · exact Routine.paired_pure rfl
  · exact paired_modify fun _ _ _ => rfl

theorem paired_count (metrics : Option Nat) (change : Metrics → Metrics) :
    Routine.Paired veil.Apart Eq (Broker.count metrics change) (Broker.count metrics change) := by
  cases metrics with
  | none => exact Routine.paired_pure rfl
  | some handle => exact paired_modify fun _ _ _ => rfl

theorem paired_drawChance : Routine.Paired veil.Apart Eq Broker.drawChance Broker.drawChance := by
  refine Routine.paired_change fun first second apart => ?_
  have drawn : second.chance = first.chance := apart.congr Broker.chance fun _ _ _ => rfl
  refine ⟨congrArg chanceDraw drawn.symm, ?_⟩
  exact apart.map (fun broker => { broker with chance := nextChance broker.chance })
    fun _ _ _ => rfl

theorem paired_readCalendar :
    Routine.Paired veil.Apart Eq Broker.readCalendar Broker.readCalendar := by
  refine Routine.paired_change fun first second apart => ?_
  have read : second.calendar = first.calendar :=
    apart.congr Broker.calendar fun _ _ _ => rfl
  refine ⟨read.symm, ?_⟩
  exact apart.map (fun broker => { broker with calendar := broker.calendar + 1 })
    fun _ _ _ => rfl

end

end Veil

/-! ## Processors -/

/-- The processor does the same on exchanges and brokers that differ in nothing but what is
hidden. -/
def Processor.Blind (veil : Veil) (processor : Processor) : Prop :=
  ∀ left right, veil.Same left right →
    Routine.Paired veil.Apart veil.Same (processor.invoke left) (processor.invoke right)

namespace Veil

variable {veil : Veil}

/-- What is reported with an exchange is recorded on it. -/
theorem blind_of_process {processor : Processor}
    (paired : ∀ left right, veil.Same left right →
      Routine.Paired veil.Apart (fun one other => veil.Same one.1 other.1 ∧ one.2 = other.2)
        (processor.process left) (processor.process right)) :
    processor.Blind veil := by
  intro left right same
  refine Routine.paired_bind (paired left right same) ?_
  rintro ⟨one, failure⟩ ⟨other, _⟩ ⟨alike, rfl⟩
  exact Routine.paired_pure (alike.recording failure)

theorem blind_ofFunction {name : String} {change : Exchange → Exchange × Option Failure}
    (same : ∀ left right, veil.Same left right →
      veil.Same (change left).1 (change right).1 ∧ (change left).2 = (change right).2) :
    (Processor.ofFunction name change).Blind veil :=
  blind_of_process fun _ _ alike => Routine.paired_pure (same _ _ alike)

theorem blind_sendTo {uri : String} {producer : Processor} (blind : producer.Blind veil) :
    (Processor.sendTo uri producer).Blind veil :=
  fun _ _ same => blind _ _ (same.put .toEndpoint (.text uri))

/-- The endpoints do not look at what is hidden. -/
theorem blind_of_producer {uri : String} {endpoint : Endpoint} {producer : Processor}
    (found : endpoint.producer uri = .ok producer) : producer.Blind veil := by
  cases endpoint with
  | recording record =>
      obtain rfl := Except.ok.inj found
      refine blind_of_process fun left right same => ?_
      have recorded : (fun held : DeliveryRecord => held.add right) = fun held => held.add left :=
        same.congr (fun exchange (held : DeliveryRecord) => held.add exchange) fun _ _ => rfl
      unfold Processor.recordDelivery
      dsimp only
      rw [recorded]
      apply Routine.paired_bind
      · exact paired_modify fun _ _ _ => rfl
      · intro _ _ _
        apply Routine.paired_bind
        · exact paired_look fun _ _ _ => rfl
        · rintro refusal _ rfl
          exact Routine.paired_pure ⟨same, rfl⟩
  | deadLetter queue =>
      obtain rfl := Except.ok.inj found
      intro left right same
      have added : (fun (held : DeadLetterQueue) now => held.add right now) =
          fun held now => held.add left now :=
        same.congr (fun exchange (held : DeadLetterQueue) now => held.add exchange now)
          fun _ _ => rfl
      unfold Processor.addToQueue
      rw [Processor.invoke_silent]
      refine Routine.paired_bind paired_readCalendar ?_
      rintro now _ rfl
      have same' : (fun held : DeadLetterQueue => held.add right now) =
          fun held => held.add left now :=
        funext fun held => congrFun (congrFun added held) now
      rw [same']
      apply Routine.paired_bind
      · exact paired_modify fun _ _ _ => rfl
      · intro _ _ _
        exact Routine.paired_pure same
  | polling => contradiction
  | closed => contradiction

theorem blind_of_registered {broker : Broker} {uri : String} {producer : Processor}
    (found : broker.producer uri = .ok producer) : producer.Blind veil := by
  obtain ⟨endpoint, _, produced⟩ := ok_of_bind found
  exact blind_of_producer produced

end Veil

/-! ## What is seen of an exchange -/

def Exchange.bare (exchange : Exchange) : Exchange :=
  { exchange with unitOfWork := none }

/-- The call, with the exchanges without their units of work. -/
def Visit.bare (visit : Visit) : Visit :=
  ⟨visit.before.bare, visit.after.bare⟩

/-- The moment, with the exchanges without their units of work. -/
def Moment.bare : Moment → Moment
  | .redelivery delay => .redelivery delay
  | .hook visit => .hook visit.bare
  | .step visit => .step visit.bare
  | .caught failure => .caught failure
  | .exhausted exchange => .exhausted exchange.bare
  | .delivery name visit => .delivery name visit.bare

theorem Veil.Same.bare_eq {veil : Veil} {left right : Exchange} (same : veil.Same left right) :
    left.bare = right.bare := by
  obtain ⟨unit, rfl, _⟩ := same.exists_unit
  rfl

theorem Veil.Same.visit_eq {veil : Veil} {left right after later : Exchange}
    (same : veil.Same left right) (alike : veil.Same after later) :
    Visit.bare ⟨left, after⟩ = Visit.bare ⟨right, later⟩ := by
  unfold Visit.bare
  rw [same.bare_eq, alike.bare_eq]

/-! ## Error handlers -/

namespace ErrorHandler

/-- Nothing that the handler calls, and none of its conditions, looks at what is hidden. -/
structure Blind (veil : Veil) (handler : ErrorHandler) : Prop where
  calls : ∀ role processor, handler.Uses processor role → processor.Blind veil
  handled : ∀ failure condition,
    ((handler.policyFor failure).bind ExceptionPolicy.handled).or handler.rules.handled =
        some condition →
      ∀ left right, veil.Same left right → condition left = condition right
  retryWhile : ∀ failure condition,
    (handler.policyFor failure).bind ExceptionPolicy.retryWhile = some condition →
      ∀ left right, veil.Same left right → condition left = condition right

/-- The results of two passes differ in nothing but hidden completions. -/
def Agree (veil : Veil) (left right : Exchange × Outcome) : Prop :=
  veil.Same left.1 right.1 ∧ left.2 = right.2

section

variable {veil : Veil} {handler : ErrorHandler} {left right : Exchange} (blind : handler.Blind veil)
  (same : veil.Same left right) (failure : Failure) (entry : Option Message)

include blind same

theorem isHandled_of_same :
    handler.isHandled (handler.policyFor failure) right =
      handler.isHandled (handler.policyFor failure) left := by
  unfold isHandled
  cases found : ((handler.policyFor failure).bind ExceptionPolicy.handled).or
      handler.rules.handled with
  | none => rfl
  | some condition => exact (blind.handled failure condition found left right same).symm

theorem mayRedeliver_of_same (number : Nat) :
    handler.mayRedeliver (handler.policyFor failure) right number =
      handler.mayRedeliver (handler.policyFor failure) left number := by
  have halted : right.isRollbackOnly = left.isRollbackOnly :=
    same.congr Exchange.isRollbackOnly fun _ _ => rfl
  unfold mayRedeliver RedeliveryPolicy.shouldRedeliver
  rw [halted]
  cases found : (handler.policyFor failure).bind ExceptionPolicy.retryWhile with
  | none => rfl
  | some condition =>
      have decided := blind.retryWhile failure condition found left right same
      dsimp only
      rw [decided]

theorem paired_conclude (deliveredTo : Option String) :
    Routine.Paired veil.Apart (Agree veil)
      (handler.conclude (handler.policyFor failure) failure deliveredTo left)
      (handler.conclude (handler.policyFor failure) failure deliveredTo right) := by
  unfold conclude
  rw [isHandled_of_same blind same]
  by_cases handled : handler.isHandled (handler.policyFor failure) left = true
  · rw [if_pos handled, if_pos handled]
    have counted (outcome : Outcome) : Routine.Paired veil.Apart (Agree veil)
        (do
          Broker.count handler.rules.metrics Metrics.recordHandled
          return (left.clearException.put .errorHandlerHandled (.bool true), outcome))
        (do
          Broker.count handler.rules.metrics Metrics.recordHandled
          return (right.clearException.put .errorHandlerHandled (.bool true), outcome)) := by
      refine Routine.paired_bind (Veil.paired_count _ _) fun _ _ _ => ?_
      exact Routine.paired_pure ⟨same.clearException.put _ _, rfl⟩
    by_cases logged : (handler.redeliveryUnder (handler.policyFor failure)).logHandled = true
    · simp only [if_pos logged]
      exact Routine.paired_bind (Veil.paired_report _) fun _ _ _ => counted _
    · simp only [if_neg logged]
      exact counted _
  · rw [if_neg handled, if_neg handled]
    exact Routine.paired_pure ⟨(same.put _ _).setException failure, rfl⟩

omit blind in
theorem same_forDeadLetter (name : String) :
    veil.Same (handler.forDeadLetter (handler.policyFor failure) entry name left)
      (handler.forDeadLetter (handler.policyFor failure) entry name right) := by
  have chosen : handler.original? (handler.policyFor failure) entry right =
      handler.original? (handler.policyFor failure) entry left := by
    rw [original?, original?, same.arrival?]
  unfold forDeadLetter
  rw [chosen]
  cases handler.original? (handler.policyFor failure) entry left with
  | none => exact same.clearException.put _ _
  | some original =>
      refine Veil.Same.put (Veil.Same.clearException ?_) _ _
      exact same.map
        (fun exchange => { exchange with inbound := original, outbound := none }) fun _ _ => rfl

theorem paired_observeDeliver {deadLetter : DeadLetterStep}
    (used : handler.Uses deadLetter.processor (.delivery deadLetter.name)) :
    Logged.Paired veil.Apart Moment.bare (Agree veil)
      (handler.observeDeliver (handler.policyFor failure) failure entry deadLetter left)
      (handler.observeDeliver (handler.policyFor failure) failure entry deadLetter right) := by
  have delivered : veil.Same
      (handler.forDeadLetter (handler.policyFor failure) entry deadLetter.name left)
      (handler.forDeadLetter (handler.policyFor failure) entry deadLetter.name right) :=
    same_forDeadLetter same failure entry deadLetter.name
  have called := blind.calls _ _ used _ _ delivered
  refine Logged.paired_bind (Logged.paired_lift called) fun after later alike => ?_
  refine Logged.paired_bind
    (Logged.paired_log (congrArg (Moment.delivery deadLetter.name) (delivered.visit_eq alike)))
    fun _ _ _ => ?_
  rw [alike.exception]
  cases after.exception with
  | some failed =>
      refine Logged.paired_bind (Logged.paired_lift (Veil.paired_report _)) fun _ _ _ => ?_
      exact Logged.paired_pure ⟨alike, rfl⟩
  | none =>
      refine Logged.paired_bind (Logged.paired_lift (Veil.paired_report _)) fun _ _ _ => ?_
      refine Logged.paired_bind (Logged.paired_lift (Veil.paired_count _ _)) fun _ _ _ => ?_
      exact Logged.paired_lift (paired_conclude blind alike failure _)

theorem paired_observeExhaust :
    Logged.Paired veil.Apart Moment.bare (Agree veil)
      (handler.observeExhaust (handler.policyFor failure) failure entry left)
      (handler.observeExhaust (handler.policyFor failure) failure entry right) := by
  have marked : veil.Same (markedExhausted left) (markedExhausted right) :=
    (same.put _ _).put _ _
  have reported : reportExhausted (handler.redeliveryUnder (handler.policyFor failure))
      (markedExhausted right) failure =
        reportExhausted (handler.redeliveryUnder (handler.policyFor failure))
          (markedExhausted left) failure :=
    marked.congr (fun exchange =>
      reportExhausted (handler.redeliveryUnder (handler.policyFor failure)) exchange failure)
      fun _ _ => rfl
  have told : Routine.Paired veil.Apart Eq
      (reportExhausted (handler.redeliveryUnder (handler.policyFor failure)) (markedExhausted left)
        failure)
      (reportExhausted (handler.redeliveryUnder (handler.policyFor failure)) (markedExhausted right)
        failure) := by
    rw [reported]
    unfold reportExhausted
    split
    · exact Veil.paired_report _
    · exact Routine.paired_pure rfl
  refine Logged.paired_bind
    (Logged.paired_log (congrArg Moment.exhausted marked.bare_eq)) fun _ _ _ => ?_
  refine Logged.paired_bind (Logged.paired_lift told) fun _ _ _ => ?_
  refine Logged.paired_bind (Logged.paired_lift (Veil.paired_count _ _)) fun _ _ _ => ?_
  have found : Routine.Paired veil.Apart
      (fun one other => one = other ∧
        ∃ broker, handler.destination (handler.policyFor failure) broker = one)
      (Routine.look (handler.destination (handler.policyFor failure)))
      (Routine.look (handler.destination (handler.policyFor failure))) := by
    refine Routine.paired_look fun first second apart => ⟨?_, first, rfl⟩
    exact (apart.congr (handler.destination (handler.policyFor failure)) fun _ _ _ => rfl).symm
  refine Logged.paired_bind (Logged.paired_lift found) ?_
  rintro destination _ ⟨rfl, broker, looked⟩
  match destination, looked with
  | .error unavailable, _ =>
      refine Logged.paired_bind (Logged.paired_lift (Veil.paired_report _)) fun _ _ _ => ?_
      exact Logged.paired_pure ⟨marked.setException unavailable, rfl⟩
  | .ok none, _ => exact Logged.paired_lift (paired_conclude blind marked failure none)
  | .ok (some deadLetter), looked =>
      exact paired_observeDeliver blind marked failure entry ⟨failure, broker, looked⟩

omit blind in
theorem paired_observePrepare {preparation : Preparation}
    (hooks : ∀ hook, preparation.hook = some hook → hook.Blind veil) :
    Logged.Paired veil.Apart Moment.bare veil.Same (observePrepare preparation left)
      (observePrepare preparation right) := by
  have ready : veil.Same (cleared left) (cleared right) := by
    refine Veil.Same.drop ?_ _
    exact same.clearException.map Exchange.clearFault fun _ _ => rfl
  have paused : Routine.Paired veil.Apart Eq (pause preparation.delay)
      (pause preparation.delay) := by
    unfold pause
    cases preparation.delay.isZero with
    | true => exact Routine.paired_wait preparation.delay
    | false =>
        exact Routine.paired_bind (Veil.paired_report _) fun _ _ _ =>
          Routine.paired_wait preparation.delay
  refine Logged.paired_bind (Logged.paired_log rfl) fun _ _ _ => ?_
  refine Logged.paired_bind (Logged.paired_lift paused) fun _ _ _ => ?_
  cases found : preparation.hook with
  | none => exact Logged.paired_pure ready
  | some hook =>
      refine Logged.paired_bind (Logged.paired_lift (hooks hook found _ _ ready))
        fun after later alike => ?_
      refine Logged.paired_bind
        (Logged.paired_log (congrArg Moment.hook (ready.visit_eq alike))) fun _ _ _ => ?_
      exact Logged.paired_pure alike

theorem paired_observeStep :
    Logged.Paired veil.Apart Moment.bare veil.Same (handler.observeStep left)
      (handler.observeStep right) := by
  unfold observeStep
  rw [same.exception]
  refine Logged.paired_ite ?_ (Logged.paired_pure same)
  have output := blind.calls .step handler.output rfl _ _ same
  refine Logged.paired_bind (Logged.paired_lift output) fun after later alike => ?_
  refine Logged.paired_bind
    (Logged.paired_log (congrArg Moment.step (same.visit_eq alike))) fun _ _ _ => ?_
  exact Logged.paired_pure alike

theorem paired_observeAttempt {preparation : Option Preparation}
    (hooks : ∀ prepared hook, preparation = some prepared → prepared.hook = some hook →
      hook.Blind veil) :
    Logged.Paired veil.Apart Moment.bare veil.Same (handler.observeAttempt preparation left)
      (handler.observeAttempt preparation right) := by
  cases preparation with
  | none => exact paired_observeStep blind same
  | some prepared =>
      refine Logged.paired_bind (paired_observePrepare same fun hook => hooks prepared hook rfl) ?_
      exact fun _ _ alike => paired_observeStep blind alike

omit blind in
theorem same_settled (redeliveries : Nat) :
    veil.Same (settled left redeliveries) (settled right redeliveries) := by
  unfold settled
  by_cases nothing : redeliveries = 0
  · rw [if_pos nothing, if_pos nothing]
    exact (same.drop _).drop _
  · rw [if_neg nothing, if_neg nothing]
    exact same.put _ _

omit blind in
theorem paired_reportRedelivery (redelivery : RedeliveryPolicy) (number : Nat) (delay : Duration) :
    Routine.Paired veil.Apart Eq (reportRedelivery redelivery left failure number delay)
      (reportRedelivery redelivery right failure number delay) := by
  have halted : right.isRollbackOnly = left.isRollbackOnly :=
    same.congr Exchange.isRollbackOnly fun _ _ => rfl
  unfold reportRedelivery levelFor
  rw [halted]
  split
  · exact Veil.paired_report _
  · exact Routine.paired_pure rfl

omit blind in
/-- An attempt that ended without an exception ends the pass. -/
theorem paired_completed (redeliveries : Nat) :
    Logged.Paired (ε := Moment) veil.Apart Moment.bare (Agree veil)
      (if left.isFailed then do
        Logged.lift (Broker.report .faultReturned)
        return (left, .fault)
      else return (left, .success redeliveries))
      (if right.isFailed then do
        Logged.lift (Broker.report .faultReturned)
        return (right, .fault)
      else return (right, .success redeliveries)) := by
  have failed : right.isFailed = left.isFailed :=
    same.congr Exchange.isFailed fun _ _ => rfl
  rw [failed]
  refine Logged.paired_ite ?_ (Logged.paired_pure ⟨same, rfl⟩)
  refine Logged.paired_bind (Logged.paired_lift (Veil.paired_report _)) fun _ _ _ => ?_
  exact Logged.paired_pure ⟨same, rfl⟩

end

variable {veil : Veil} {handler : ErrorHandler}

theorem paired_observeAttempts (blind : handler.Blind veil) {entry : Option Message}
    {countable redeliveries : Nat} {preparation : Option Preparation}
    (hooks : ∀ prepared hook, preparation = some prepared → prepared.hook = some hook →
      hook.Blind veil)
    {left right : Exchange} (same : veil.Same left right) :
    Logged.Paired veil.Apart Moment.bare (Agree veil)
      (handler.observeAttempts entry countable redeliveries preparation left)
      (handler.observeAttempts entry countable redeliveries preparation right) := by
  have fatal {failure : Failure} {after later : Exchange} (alike : veil.Same after later) :
      Logged.Paired (ε := Moment) veil.Apart Moment.bare (Agree veil)
        (do
          Logged.lift (Broker.report (.fatal failure.renderChain))
          return (after.setCaught failure, .fatal failure))
        (do
          Logged.lift (Broker.report (.fatal failure.renderChain))
          return (later.setCaught failure, .fatal failure)) := by
    refine Logged.paired_bind (Logged.paired_lift (Veil.paired_report _)) fun _ _ _ => ?_
    exact Logged.paired_pure ⟨alike.setCaught failure, rfl⟩
  have counts (failure : Failure) {after later : Exchange} (number : Nat)
      (alike : veil.Same after later) :
      veil.Same (counted (after.setCaught failure) number)
        (counted (later.setCaught failure) number) :=
    ((alike.setCaught failure).put _ _).put _ _
  -- The induction is on the redeliveries that can still be counted. Whether there is one more is
  -- decided alike in both passes, since neither the rules nor the chance that is drawn is hidden.
  induction countable generalizing redeliveries preparation left right with
  | zero =>
      unfold observeAttempts
      refine Logged.paired_bind (paired_observeAttempt blind same hooks) fun after later alike => ?_
      rw [alike.exception]
      cases after.exception with
      | none => exact paired_completed alike redeliveries
      | some failure =>
          refine Logged.paired_bind (Logged.paired_log rfl) fun _ _ _ => ?_
          refine Logged.paired_ite (fatal alike) ?_
          exact paired_observeExhaust blind (same_settled (counts failure _ alike) _) failure entry
  | succ countable inductionHypothesis =>
      unfold observeAttempts
      refine Logged.paired_bind (paired_observeAttempt blind same hooks) fun after later alike => ?_
      rw [alike.exception]
      cases after.exception with
      | none => exact paired_completed alike redeliveries
      | some failure =>
          have marked := counts failure (redeliveries + 1) alike
          refine Logged.paired_bind (Logged.paired_log rfl) fun _ _ _ => ?_
          refine Logged.paired_ite (fatal alike) ?_
          dsimp only
          rw [mayRedeliver_of_same blind marked]
          refine Logged.paired_ite ?_
            (paired_observeExhaust blind (same_settled marked _) failure entry)
          refine Logged.paired_bind (Logged.paired_lift Veil.paired_drawChance) ?_
          rintro chance _ rfl
          refine Logged.paired_bind
            (Logged.paired_lift (paired_reportRedelivery marked failure _ _ _)) fun _ _ _ => ?_
          refine Logged.paired_bind (Logged.paired_lift (Veil.paired_count _ _)) fun _ _ _ => ?_
          refine inductionHypothesis ?_ marked
          intro prepared hook begun found
          obtain rfl := Option.some.inj begun
          exact blind.calls .hook hook ⟨failure, found⟩

/-- A handler that calls nothing that looks at what is hidden does the same. -/
theorem paired_observe (blind : handler.Blind veil) {left right : Exchange}
    (same : veil.Same left right) :
    Logged.Paired veil.Apart Moment.bare (Agree veil) (handler.observe left)
      (handler.observe right) := by
  have arrived : right.inbound = left.inbound :=
    same.congr Exchange.inbound fun _ _ => rfl
  rw [observe, observe, entryOf, entryOf, arrived]
  exact paired_observeAttempts blind (fun _ _ impossible => by contradiction) same

end ErrorHandler

end MessageRouting
