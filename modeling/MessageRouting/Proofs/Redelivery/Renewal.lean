import MessageRouting.Proofs.Redelivery.Attempts

/-!
# What a redelivered attempt starts from

Between two attempts the exception and the fault message are taken off the exchange.
The outbound message stays, and with it the mark that makes it a fault: an attempt
that is made again starts from a failed exchange exactly if the attempt before it left
such a message. A step that does not touch that message then ends the pass with a
fault although it reports no failure.
-/

namespace MessageRouting

namespace Exchange

def hasOutboundFault (exchange : Exchange) : Bool :=
  exchange.outbound.any Message.isFault

/-- Without an exception and a fault message, and if the inbound message is not marked, only the
outbound message can make an exchange a failed one. -/
theorem isFailed_eq_hasOutboundFault {exchange : Exchange} (unfailed : exchange.exception = none)
    (faultless : exchange.fault = none) (unmarked : exchange.inbound.isFault = false) :
    exchange.isFailed = exchange.hasOutboundFault := by
  rw [isFailed_of_unfailed unfailed, activeMessage, faultless, hasOutboundFault]
  cases exchange.outbound with
  | none => exact unmarked
  | some outbound => rfl

end Exchange

namespace ErrorHandler

/-- A call leaves everything alone from which an exchange is seen to be failed. -/
structure KeepsFailureState (visit : Visit) : Prop where
  exception : visit.after.exception = visit.before.exception
  fault : visit.after.fault = visit.before.fault
  inbound : visit.after.inbound.isFault = visit.before.inbound.isFault
  outbound : visit.after.hasOutboundFault = visit.before.hasOutboundFault

/-- What is asked of the calls in a history: the step never leaves an inbound message that is marked
as a fault, and what runs before a redelivery touches no failure state. -/
structure Unmarking (history : History) : Prop where
  steps : ∀ visit ∈ history.steps, visit.after.inbound.isFault = false
  hooks : ∀ visit ∈ history.hooks, KeepsFailureState visit

/-- The attempt calls the step again, on an exchange without an exception and without a fault message
that is failed exactly if the attempt before it left an outbound message marked as a fault. -/
structure Afresh (failed next : Attempt) (visit : Visit) : Prop where
  call : next.call = some visit
  ended : visit.after = next.ended
  unfailed : visit.before.exception = none
  faultless : visit.before.fault = none
  isFailed : visit.before.isFailed = failed.ended.hasOutboundFault

variable {handler : ErrorHandler} {exchange ready after : Exchange} {past : List Attempt}
  {attempt failed next : Attempt} {earlier moments first second : History} {standing : Standing}
  {visit : Visit} {outcome : Outcome} {index : Nat}

theorem Unmarking.parts (unmarking : Unmarking (first ++ second)) :
    Unmarking first ∧ Unmarking second := by
  obtain ⟨steps, hooks⟩ := unmarking
  rw [History.steps_append, List.forall_mem_append] at steps
  rw [History.hooks_append, List.forall_mem_append] at hooks
  exact ⟨⟨steps.1, hooks.1⟩, ⟨steps.2, hooks.2⟩⟩

/-! ## One attempt -/

/-- What a redelivery is prepared to, apart from its wait. -/
theorem Prepared.renewed {preparation : Option Preparation}
    (prepared : Prepared preparation exchange moments ready)
    (again : preparation.isSome = true)
    (unmarking : Unmarking moments) :
    ready.exception = none ∧ ready.fault = none ∧
      ready.inbound.isFault = exchange.inbound.isFault ∧
      ready.hasOutboundFault = exchange.hasOutboundFault := by
  cases prepared with
  | first => contradiction
  | unhooked => exact ⟨rfl, rfl, rfl, rfl⟩
  | hooked =>
      have keeps := unmarking.hooks _ (List.mem_singleton_self _)
      exact ⟨keeps.exception, keeps.fault, keeps.inbound, keeps.outbound⟩

/-- A redelivered attempt calls the step. -/
theorem Attempted.renewed {preparation : Option Preparation}
    (attempted : Attempted handler preparation exchange moments attempt.ended)
    (again : preparation.isSome = true)
    (called : moments.steps = attempt.call.toList)
    (unmarking : Unmarking moments) :
    ∃ visit, attempt.call = some visit ∧ visit.after = attempt.ended ∧
      visit.before.exception = none ∧ visit.before.fault = none ∧
      visit.before.inbound.isFault = exchange.inbound.isFault ∧
      visit.before.hasOutboundFault = exchange.hasOutboundFault := by
  generalize ending : attempt.ended = ended at attempted
  cases attempted with
  | @ran ready _ before prepared =>
      obtain ⟨unfailed, faultless, inbound, outbound⟩ := prepared.renewed again unmarking.parts.1
      refine ⟨⟨ready, ended⟩, ?_, rfl, unfailed, faultless, inbound, outbound⟩
      rw [History.steps_append, prepared.steps_eq] at called
      exact (Option.toList_eq_singleton_iff.mp called.symm)
  | withheld prepared failed =>
      have unfailed := (prepared.renewed again unmarking).1
      rw [unfailed] at failed
      contradiction

/-- No attempt leaves an inbound message that is marked as a fault. -/
theorem Attempted.unmarked {preparation : Option Preparation}
    (attempted : Attempted handler preparation exchange moments after)
    (unmarking : Unmarking moments)
    (unmarked : exchange.inbound.isFault = false) : after.inbound.isFault = false := by
  cases attempted with
  | @ran ready _ before prepared =>
      apply unmarking.steps ⟨ready, after⟩
      rw [History.steps_append]
      exact List.mem_append_right _ (List.mem_singleton_self _)
  | withheld prepared failed =>
      cases prepared with
      | first => exact unmarked
      | unhooked => exact unmarked
      | hooked =>
          have keeps := unmarking.hooks _ (List.mem_singleton_self _)
          exact keeps.inbound.trans unmarked

/-! ## The attempts before the last one -/

/-- What holds of the attempts before the next one and of the exchange it is to be made with. -/
structure Renewed (past : List Attempt) (standing : Standing) : Prop where
  unmarked : standing.exchange.inbound.isFault = false
  carried : ∀ failed, past.getLast? = some failed → standing.preparation.isSome = true ∧
    standing.exchange.hasOutboundFault = failed.ended.hasOutboundFault
  afresh : ∀ index failed next, past[index]? = some failed → past[index + 1]? = some next →
    ∃ visit, Afresh failed next visit

/-- One attempt more starts as the others did. -/
theorem Renewed.afresh_concat (renewed : Renewed past standing)
    (attempted : Attempted handler standing.preparation standing.exchange moments attempt.ended)
    (called : moments.steps = attempt.call.toList)
    (unmarking : Unmarking moments)
    (found : (past ++ [attempt])[index]? = some failed)
    (following : (past ++ [attempt])[index + 1]? = some next) :
    ∃ visit, Afresh failed next visit := by
  rcases Attempt.consecutive_concat found following with ⟨before, inside⟩ | ⟨last, _, rfl⟩
  · exact renewed.afresh index failed next before inside
  · obtain ⟨again, carried⟩ := renewed.carried failed last
    obtain ⟨visit, call, ended, unfailed, faultless, inbound, outbound⟩ :=
      attempted.renewed again called unmarking
    refine ⟨visit, call, ended, unfailed, faultless, ?_⟩
    have unmarked : visit.before.inbound.isFault = false := inbound.trans renewed.unmarked
    rw [Exchange.isFailed_eq_hasOutboundFault unfailed faultless unmarked, outbound, carried]

theorem Reached.renewed (reached : Reached handler (outset exchange) earlier standing)
    (unmarking : Unmarking earlier)
    (unmarked : exchange.inbound.isFault = false) :
    Renewed (standing.past exchange earlier) standing := by
  induction reached with
  | start =>
      refine ⟨unmarked, ?_, ?_⟩
      · intro failed last
        contradiction
      · intro index failed next found
        contradiction
  | again reached retried inductionHypothesis =>
      have renewed := inductionHypothesis unmarking.parts.1
      obtain ⟨attempt, own, failure, past, attempted, rfl, called, _, _, _, _, exchange⟩ :=
        reached.past_eq retried
      have unmarkingOwn := unmarking.parts.2.parts.1
      refine ⟨?_, ?_, ?_⟩
      · rw [exchange]
        exact attempted.unmarked unmarkingOwn renewed.unmarked
      · intro failed last
        rw [past, List.getLast?_concat] at last
        obtain rfl := Option.some.inj last
        refine ⟨retried.isSome_preparation, ?_⟩
        rw [exchange]
        rfl
      · intro index failed next found following
        rw [past] at found following
        exact renewed.afresh_concat attempted called unmarkingOwn found following

/-! ## Whole passes -/

/-- An attempt that leaves the failure state alone is the last one, and what it found decides whether
the pass ends with a fault. -/
theorem Concludes.outcome_eq {rest : History}
    (concludes : Concludes handler standing rest next.ended outcome)
    (afresh : Afresh failed next visit)
    (unmarked : next.ended.inbound.isFault = false)
    (keeps : KeepsFailureState visit) :
    outcome = if failed.ended.hasOutboundFault then .fault else .success standing.redeliveries := by
  have inbound : visit.before.inbound.isFault = false := by
    rw [← keeps.inbound, afresh.ended]
    exact unmarked
  have unfailed : next.ended.exception = none := by
    rw [← afresh.ended, keeps.exception]
    exact afresh.unfailed
  have faultless : next.ended.fault = none := by
    rw [← afresh.ended, keeps.fault]
    exact afresh.faultless
  have failed : next.ended.isFailed = failed.ended.hasOutboundFault := by
    rw [Exchange.isFailed_eq_hasOutboundFault unfailed faultless unmarked, ← afresh.isFailed,
      Exchange.isFailed_eq_hasOutboundFault afresh.unfailed afresh.faultless inbound,
      ← keeps.outbound, afresh.ended]
  rw [concludes.unfailed unfailed, failed]

/-- An attempt after a failed one calls the step on an exchange that is failed exactly if the failed
attempt left an outbound message marked as a fault. A step that leaves the failure state alone then
ends the pass, with a fault in that case and with success in all others. -/
theorem redelivered_afresh {history : History}
    (given : (handler.observe exchange).Gives history (after, outcome))
    (unmarked : exchange.inbound.isFault = false)
    (unmarking : Unmarking history) :
    (handler.observe exchange).result = handler.handle exchange ∧
      ∀ index failed next, (history.attempts exchange)[index]? = some failed →
        (history.attempts exchange)[index + 1]? = some next →
        ∃ visit, Afresh failed next visit ∧
          (KeepsFailureState visit → outcome =
            if failed.ended.hasOutboundFault then .fault else .success (index + 1)) := by
  refine ⟨handler.result_observe exchange, ?_⟩
  obtain ⟨earlier, standing, attempt, moments, rest, reached, attempted, concludes, called, rfl,
    whole⟩ := attempts_of_observe given
  have unmarkingOwn := unmarking.parts.2.parts.1
  have behind := reached.behind
  have renewed := reached.renewed unmarking.parts.1 unmarked
  have unmarkedAtEnd := attempted.unmarked unmarkingOwn renewed.unmarked
  intro index failed next found following
  rw [whole.attempts] at found following
  obtain ⟨visit, afresh⟩ := renewed.afresh_concat attempted called unmarkingOwn found following
  refine ⟨visit, afresh, ?_⟩
  intro keeps
  rcases Attempt.consecutive_concat found following with ⟨_, inside⟩ | ⟨_, last, rfl⟩
  · have failed := behind.failed next (List.mem_of_getElem? inside)
    rw [Attempt.failure?, ← afresh.ended, keeps.exception, afresh.unfailed] at failed
    contradiction
  · rw [last, behind.count]
    exact concludes.outcome_eq afresh unmarkedAtEnd keeps

/-- A handler around a step that fails once, with an outbound message marked as a fault, and then
does nothing. -/
def relapsing : ErrorHandler where
  rules := { redelivery := { maximum := 1, pattern := some ⟨[]⟩ } }
  output := .ofFunction "relapsing" fun exchange =>
    if exchange.flag .redelivered then (exchange, none)
    else
      ({ exchange with outbound := some { id := "reply", isFault := true } },
        some (.plain "refused"))

/-- The step that does nothing is called on a failed exchange, and the pass does not succeed. -/
theorem relapsing_failed :
    fresh.inbound.isFault = false ∧ relapsing.rules.onRedelivery.isNone = true ∧
      (History.steps ((relapsing.observe fresh).alone default).1).map (fun visit =>
          (visit.before.isFailed, visit.after.exception.isSome, visit.after.inbound.isFault)) =
        [(false, true, false), (true, false, false)] ∧
      ((relapsing.handle fresh).run default).1.2.isSuccess = false := by
  decide +kernel

theorem relapsing_unmarking : Unmarking ((relapsing.observe fresh).alone default).1 where
  steps := by
    have unmarked : (History.steps ((relapsing.observe fresh).alone default).1).all
        (fun visit => !visit.after.inbound.isFault) = true := by
      decide +kernel
    intro visit called
    simpa using List.all_eq_true.mp unmarked visit called
  hooks := by
    have none : History.hooks ((relapsing.observe fresh).alone default).1 = [] := by
      apply List.isEmpty_iff.mp
      decide +kernel
    intro visit called
    rw [none] at called
    exact absurd called List.not_mem_nil

/-- The second of its attempts starts as the first one ended. -/
theorem redelivered_afresh_relapsing :
    ∃ (history : History) (result : Exchange × Outcome) (failed next : Attempt) (visit : Visit),
      (relapsing.observe fresh).Gives history result ∧
        (history.attempts fresh)[0]? = some failed ∧ (history.attempts fresh)[1]? = some next ∧
        Afresh failed next visit ∧ visit.before.isFailed = true := by
  have given := Logged.gives_alone (relapsing.observe fresh) default
  obtain ⟨_, starts⟩ := redelivered_afresh given rfl relapsing_unmarking
  have marked : ((History.attempts fresh ((relapsing.observe fresh).alone default).1)[0]?.any
      fun attempt => attempt.ended.hasOutboundFault) = true := by
    decide +kernel
  have two : (History.attempts fresh ((relapsing.observe fresh).alone default).1).length = 2 := by
    decide +kernel
  obtain ⟨failed, found, fault⟩ := (Option.any_eq_true ..).mp marked
  have following := List.getElem?_eq_getElem (Nat.lt_of_lt_of_eq Nat.one_lt_two two.symm)
  obtain ⟨visit, afresh, _⟩ := starts 0 failed _ found following
  exact ⟨_, _, failed, _, visit, given, found, following, afresh, afresh.isFailed.trans fault⟩

end ErrorHandler

end MessageRouting
