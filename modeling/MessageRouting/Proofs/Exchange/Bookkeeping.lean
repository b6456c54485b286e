import MessageRouting.Engine.Pipeline
import MessageRouting.Redelivery.ErrorHandler

/-!
# The bookkeeping on an exchange

What the well-known properties read as after the engine wrote one of them, and
what its other operations leave alone.
-/

namespace MessageRouting

namespace Exchange

variable (exchange : Exchange) (written property : Property) (value : Value) (failure : Failure)

def known? (exchange : Exchange) (property : Property) : Option Value :=
  exchange.property? property.name

theorem name_eq_iff {left right : Property} : left.name = right.name ↔ left = right :=
  ⟨Property.name_injective, congrArg Property.name⟩

/-! ## Writing and dropping a property -/

@[simp]
theorem known?_put :
    (exchange.put written value).known? property =
      if property = written then some value else exchange.known? property := by
  simp [known?, property?, put, setProperty, Table.get?_set, name_eq_iff]

@[simp]
theorem known?_drop :
    (exchange.drop written).known? property =
      if property = written then none else exchange.known? property := by
  simp [known?, property?, drop, removeProperty, Table.get?_erase, name_eq_iff]

@[simp]
theorem caught_put : (exchange.put written value).caught = exchange.caught :=
  rfl

@[simp]
theorem activeMessage_put :
    (exchange.put written value).activeMessage = exchange.activeMessage :=
  rfl

/-! ## Flags -/

theorem flag_eq :
    exchange.flag property =
      ((exchange.known? property).bind (Converter.asBool exchange.context.converter)).getD false :=
  rfl

/-- A flag depends on nothing but its property and the context. -/
theorem flag_congr {exchange other : Exchange} {property : Property}
    (sameContext : exchange.context = other.context)
    (sameValue : exchange.known? property = other.known? property) :
    exchange.flag property = other.flag property := by
  rw [flag_eq, flag_eq, sameContext, sameValue]

theorem flag_of_known {exchange : Exchange} {property : Property} {truth : Bool}
    (found : exchange.known? property = some (.bool truth)) : exchange.flag property = truth := by
  rw [flag_eq, found]
  rfl

theorem mayContinue_iff {exchange : Exchange} :
    exchange.mayContinue = true ↔
      exchange.isFailed = false ∧ exchange.isRollbackOnly = false ∧
        exchange.flag .errorHandlerHandled = false := by
  simp [mayContinue, and_assoc]

/-! ## Failures -/

@[simp]
theorem known?_setException :
    (exchange.setException failure).known? property = exchange.known? property :=
  rfl

@[simp]
theorem known?_clearException :
    exchange.clearException.known? property = exchange.known? property :=
  rfl

@[simp]
theorem known?_clearFault : exchange.clearFault.known? property = exchange.known? property :=
  rfl

@[simp]
theorem known?_setCaught :
    (exchange.setCaught failure).known? property =
      if property = .exceptionCaught then some (.text failure.display)
      else exchange.known? property :=
  known?_put exchange .exceptionCaught property (.text failure.display)

@[simp]
theorem caught_setCaught : (exchange.setCaught failure).caught = some failure :=
  rfl

@[simp]
theorem activeMessage_setCaught :
    (exchange.setCaught failure).activeMessage = exchange.activeMessage :=
  rfl

theorem isFailed_of_exception {exchange : Exchange} {failure : Failure}
    (failed : exchange.exception = some failure) : exchange.isFailed = true := by
  rw [isFailed, failed]
  rfl

theorem isFailed_of_unfailed {exchange : Exchange} (unfailed : exchange.exception = none) :
    exchange.isFailed = exchange.activeMessage.isFault := by
  rw [isFailed, unfailed]
  rfl

theorem exception_of_completed {exchange : Exchange} (completed : exchange.isFailed = false) :
    exchange.exception = none := by
  cases failed : exchange.exception with
  | none => rfl
  | some failure =>
      rw [isFailed_of_exception failed] at completed
      contradiction

end Exchange

/-! ## The count of redeliveries -/

namespace ErrorHandler

/-- The counter of redeliveries after a number of them; it is absent before the first. -/
def counterAfter (redeliveries : Nat) : Option Value :=
  if redeliveries = 0 then none else some (.ofNat redeliveries)

@[simp]
theorem known?_cleared (exchange : Exchange) (property : Property) :
    (cleared exchange).known? property =
      if property = .errorHandlerHandled then none else exchange.known? property := by
  simp [cleared]

@[simp]
theorem known?_counted (exchange : Exchange) (redeliveries : Nat) (property : Property) :
    (counted exchange redeliveries).known? property =
      if property = .redelivered then some (.bool true)
      else if property = .redeliveryCounter then some (.ofNat redeliveries)
      else exchange.known? property := by
  simp [counted]

@[simp]
theorem caught_counted (exchange : Exchange) (redeliveries : Nat) :
    (counted exchange redeliveries).caught = exchange.caught :=
  rfl

@[simp]
theorem activeMessage_counted (exchange : Exchange) (redeliveries : Nat) :
    (counted exchange redeliveries).activeMessage = exchange.activeMessage :=
  rfl

@[simp]
theorem caught_settled (exchange : Exchange) (redeliveries : Nat) :
    (settled exchange redeliveries).caught = exchange.caught := by
  unfold settled
  split <;> rfl

@[simp]
theorem activeMessage_settled (exchange : Exchange) (redeliveries : Nat) :
    (settled exchange redeliveries).activeMessage = exchange.activeMessage := by
  unfold settled
  split <;> rfl

@[simp]
theorem known?_settled (exchange : Exchange) (redeliveries : Nat) (property : Property) :
    (settled exchange redeliveries).known? property =
      if property = .redeliveryCounter then counterAfter redeliveries
      else if property = .redelivered ∧ redeliveries = 0 then none
      else exchange.known? property := by
  unfold settled counterAfter
  by_cases none : redeliveries = 0
  · by_cases counter : property = .redeliveryCounter <;>
      by_cases redelivered : property = .redelivered <;> simp_all
  · simp [none]

@[simp]
theorem known?_forDeadLetter (handler : ErrorHandler) (policy : Option ExceptionPolicy)
    (entry : Option Message) (name : String) (exchange : Exchange) (property : Property) :
    (handler.forDeadLetter policy entry name exchange).known? property =
      if property = .failureEndpoint then some (.text name) else exchange.known? property := by
  unfold forDeadLetter
  split <;> exact Exchange.known?_put _ .failureEndpoint property (.text name)

@[simp]
theorem caught_forDeadLetter (handler : ErrorHandler) (policy : Option ExceptionPolicy)
    (entry : Option Message) (name : String) (exchange : Exchange) :
    (handler.forDeadLetter policy entry name exchange).caught = exchange.caught := by
  unfold forDeadLetter
  split <;> rfl

theorem isRollbackOnly_congr {exchange other : Exchange}
    (sameContext : exchange.context = other.context)
    (sameValue : exchange.known? .rollbackOnly = other.known? .rollbackOnly) :
    exchange.isRollbackOnly = other.isRollbackOnly :=
  Exchange.flag_congr sameContext sameValue

theorem isRollbackOnly_cleared (exchange : Exchange) :
    (cleared exchange).isRollbackOnly = exchange.isRollbackOnly :=
  isRollbackOnly_congr rfl (by simp)

theorem isRollbackOnly_counted (after : Exchange) (failure : Failure) (redeliveries : Nat) :
    (counted (after.setCaught failure) redeliveries).isRollbackOnly = after.isRollbackOnly :=
  isRollbackOnly_congr rfl (by simp)

theorem redeliveryCount_of_counter {exchange : Exchange} {redeliveries : Nat}
    (counter : exchange.known? .redeliveryCounter = counterAfter redeliveries)
    (bounded : redeliveries ≤ maximumCount) :
    exchange.redeliveryCount.toInt = redeliveries := by
  have read : exchange.redeliveryCount =
      ((exchange.known? .redeliveryCounter).bind
        (Converter.asInt exchange.context.converter)).getD 0 := rfl
  rw [read, counter, counterAfter]
  by_cases none : redeliveries = 0
  · subst none
    rfl
  · rw [if_neg none]
    have small : min (redeliveries : Int) Text.maxI64 = redeliveries := by
      unfold maximumCount at bounded
      unfold Text.maxI64
      omega
    change (Int64.ofInt (min (redeliveries : Int) Text.maxI64)).toInt = redeliveries
    rw [small]
    unfold maximumCount at bounded
    apply Int64.toInt_ofInt_of_le <;> omega

end ErrorHandler

end MessageRouting
