import MessageRouting.Proofs.UnitOfWork.Passage

/-!
# What the end of a unit of work carries out

The completions that are pending on an exchange, how each operation on it changes
them, and the end of a unit of work, watched: it carries out what is pending, in
order, each time with what the failure of the exchange says.
-/

namespace MessageRouting

/-- A completion that was carried out, as a failure or not. -/
structure Firing where
  completion : Completion
  failed : Bool
deriving DecidableEq, Repr

namespace UnitOfWork

/-- A completion that may move either moves or stays. -/
theorem count_movable_add_count_keepFixed (unit : UnitOfWork) (completion : Completion) :
    unit.movable.count completion + unit.keepFixed.completions.count completion =
      unit.completions.count completion := by
  unfold movable keepFixed
  by_cases moves : completion.isMovable = true
  · have left : (unit.completions.filter fun other => !other.isMovable).count completion = 0 := by
      apply List.count_eq_zero_of_not_mem
      intro member
      simp [moves] at member
    rw [List.count_filter moves, left, Nat.add_zero]
  · have taken : (unit.completions.filter Completion.isMovable).count completion = 0 := by
      apply List.count_eq_zero_of_not_mem
      intro member
      exact moves (List.mem_filter.mp member).2
    rw [taken, Nat.zero_add, List.count_filter (by simpa using moves)]

end UnitOfWork

namespace Exchange

/-- The completions that are due when the exchange is done, in the order of registration. -/
def pending (exchange : Exchange) : List Completion :=
  exchange.unitOfWork.elim [] UnitOfWork.completions

/-- The pending completions that a handover takes along. -/
def movable (exchange : Exchange) : List Completion :=
  exchange.unitOfWork.elim [] UnitOfWork.movable

/-! ## Pending completions -/

theorem pending_congr {before after : Exchange} (same : after.unitOfWork = before.unitOfWork) :
    after.pending = before.pending := by
  unfold pending
  rw [same]

theorem isInUnitOfWork_congr {before after : Exchange}
    (same : after.unitOfWork = before.unitOfWork) :
    after.isInUnitOfWork = before.isInUnitOfWork := by
  unfold isInUnitOfWork
  rw [same]

@[simp]
theorem pending_addCompletion (exchange : Exchange) (completion : Completion) :
    (exchange.addCompletion completion).pending = exchange.pending ++ [completion] := by
  unfold pending addCompletion unitOfWorkOrNew UnitOfWork.add
  cases exchange.unitOfWork <;> rfl

@[simp]
theorem isInUnitOfWork_addCompletion (exchange : Exchange) (completion : Completion) :
    (exchange.addCompletion completion).isInUnitOfWork = exchange.isInUnitOfWork := by
  unfold isInUnitOfWork addCompletion unitOfWorkOrNew UnitOfWork.add
  cases exchange.unitOfWork <;> rfl

theorem pending_foldl_addCompletion (exchange : Exchange) (completions : List Completion) :
    (completions.foldl addCompletion exchange).pending = exchange.pending ++ completions := by
  induction completions generalizing exchange with
  | nil => exact (List.append_nil _).symm
  | cons completion rest inductionHypothesis =>
      rw [List.foldl_cons, inductionHypothesis, pending_addCompletion, List.append_assoc]
      rfl

theorem isInUnitOfWork_foldl_addCompletion (exchange : Exchange) (completions : List Completion) :
    (completions.foldl addCompletion exchange).isInUnitOfWork = exchange.isInUnitOfWork := by
  induction completions generalizing exchange with
  | nil => rfl
  | cons completion rest inductionHypothesis =>
      rw [List.foldl_cons, inductionHypothesis, isInUnitOfWork_addCompletion]

@[simp]
theorem pending_enterUnitOfWork (exchange : Exchange) :
    exchange.enterUnitOfWork.pending = exchange.pending := by
  unfold pending enterUnitOfWork unitOfWorkOrNew UnitOfWork.activate
  cases exchange.unitOfWork <;> rfl

@[simp]
theorem isInUnitOfWork_enterUnitOfWork (exchange : Exchange) :
    exchange.enterUnitOfWork.isInUnitOfWork = true := by
  unfold isInUnitOfWork enterUnitOfWork unitOfWorkOrNew UnitOfWork.activate
  cases exchange.unitOfWork <;> rfl

/-! ## Handovers -/

variable (source target : Exchange)

theorem pending_handOver_target :
    (source.handOver target).2.pending = target.pending ++ source.movable := by
  unfold handOver movable
  cases source.unitOfWork with
  | none => exact (List.append_nil _).symm
  | some unit => exact pending_foldl_addCompletion target unit.movable

theorem isInUnitOfWork_handOver_source :
    (source.handOver target).1.isInUnitOfWork = source.isInUnitOfWork := by
  unfold handOver isInUnitOfWork
  cases found : source.unitOfWork with
  | none =>
      dsimp only
      rw [found]
  | some unit => rfl

theorem isInUnitOfWork_handOver_target :
    (source.handOver target).2.isInUnitOfWork = target.isInUnitOfWork := by
  unfold handOver
  cases source.unitOfWork with
  | none => rfl
  | some unit => exact isInUnitOfWork_foldl_addCompletion target unit.movable

/-- What stays behind keeps its order. -/
theorem pending_handOver_source_sublist :
    (source.handOver target).1.pending.Sublist source.pending := by
  unfold handOver pending
  cases found : source.unitOfWork with
  | none =>
      simp [found]
  | some unit => exact List.filter_sublist

/-- A handover takes each completion along or leaves it behind. -/
theorem count_movable_add_count_handOver (completion : Completion) :
    source.movable.count completion + (source.handOver target).1.pending.count completion =
      source.pending.count completion := by
  unfold handOver pending movable
  cases found : source.unitOfWork with
  | none =>
      dsimp only
      rw [found]
      rfl
  | some unit => exact unit.count_movable_add_count_keepFixed completion

/-- A completion that may not move is not taken along. -/
theorem count_movable_of_fixed {completion : Completion} (fixed : completion.isMovable = false) :
    source.movable.count completion = 0 := by
  unfold movable
  cases source.unitOfWork with
  | none => rfl
  | some unit =>
      apply List.count_eq_zero_of_not_mem
      intro member
      have moves := (List.mem_filter.mp member).2
      rw [fixed] at moves
      contradiction

/-! ## The end of a unit of work -/

def observeFirings (exchange : Exchange) : List Completion → Logged Firing Broker PUnit
  | [] => pure ⟨⟩
  | completion :: rest => do
      Logged.lift (completion.carryOut exchange)
      Logged.log ⟨completion, exchange.isFailed⟩
      exchange.observeFirings rest

/-- `endUnitOfWork`, watched. -/
def observeEnd (exchange : Exchange) : Logged Firing Broker Exchange :=
  match exchange.unitOfWork with
  | some unit => do
      let exchange := { exchange with unitOfWork := none }
      exchange.observeFirings unit.completions
      return exchange
  | none => return exchange

theorem result_observeFirings (exchange : Exchange) (completions : List Completion) :
    (exchange.observeFirings completions).result =
      Routine.forEach completions (Completion.carryOut exchange) := by
  induction completions with
  | nil => rfl
  | cons completion rest inductionHypothesis =>
      unfold observeFirings Routine.forEach
      simp only [Logged.result_bind, Logged.result_lift, Logged.result_log, pure_bind,
        inductionHypothesis]
      rfl

theorem result_observeEnd (exchange : Exchange) :
    exchange.observeEnd.result = exchange.endUnitOfWork := by
  unfold observeEnd endUnitOfWork
  cases exchange.unitOfWork with
  | none => rfl
  | some unit => simp [result_observeFirings]

theorem gives_observeFirings {exchange : Exchange} {completions : List Completion}
    {fired : List Firing} {result : PUnit}
    (given : (exchange.observeFirings completions).Gives fired result) :
    fired = completions.map fun completion => ⟨completion, exchange.isFailed⟩ := by
  induction completions generalizing fired with
  | nil => exact (Logged.gives_pure.mp given).1
  | cons completion rest inductionHypothesis =>
      obtain ⟨_, _, logged⟩ := Logged.gives_lift_bind.mp given
      obtain ⟨later, followed, rfl⟩ := Logged.gives_log_bind.mp logged
      rw [inductionHypothesis followed]
      rfl

/-- The end of a unit of work carries out what is pending, once each and in order, as failures if the
exchange is failed and as successes otherwise. -/
theorem gives_observeEnd {exchange after : Exchange} {fired : List Firing}
    (given : exchange.observeEnd.Gives fired after) :
    after = { exchange with unitOfWork := none } ∧
      fired = exchange.pending.map fun completion => ⟨completion, exchange.isFailed⟩ := by
  unfold observeEnd at given
  unfold pending
  cases found : exchange.unitOfWork with
  | none =>
      rw [found] at given
      obtain ⟨rfl, rfl⟩ := Logged.gives_pure.mp given
      refine ⟨?_, ?_⟩
      · rw [← found]
      · rfl
  | some unit =>
      rw [found] at given
      obtain ⟨own, _, rest, carried, ended, rfl⟩ := Logged.gives_bind.mp given
      obtain ⟨rfl, rfl⟩ := Logged.gives_pure.mp ended
      rw [List.append_nil]
      have inOrder := gives_observeFirings carried
      exact ⟨rfl, inOrder⟩

end Exchange

namespace Processor

/-- A run of a step in a unit of work, with what the run carries out at its own end. -/
def observeUnitOfWork (inner : Processor) (exchange : Exchange) : Logged Firing Broker Exchange :=
  if exchange.isInUnitOfWork then Logged.lift (inner.invoke exchange)
  else do
    let after ← Logged.lift (inner.invoke exchange.enterUnitOfWork)
    after.observeEnd

theorem result_observeUnitOfWork (inner : Processor) (exchange : Exchange) :
    (inner.observeUnitOfWork exchange).result = inner.inUnitOfWork.invoke exchange := by
  unfold observeUnitOfWork inUnitOfWork
  rw [invoke_silent]
  simp [Exchange.result_observeEnd]

end Processor

end MessageRouting
