import MessageRouting.Proofs.Redelivery.Faults

/-!
# What the mark of a handled failure tells

The exhausted path sets the mark before it is known how the path ends. So the mark
tells that redeliveries ran out, and not that the failure was declared handled: the
two differ exactly in the passes whose exhausted path leaves a failure on the exchange.
-/

namespace MessageRouting

def Property.isOfAttempts : Property → Bool
  | errorHandlerHandled | exceptionCaught | redeliveryCounter | redelivered => true
  | _ => false

def Visit.Leaves (visit : Visit) (property : Property) : Prop :=
  visit.after.known? property = visit.before.known? property

namespace History

variable {first second : History} {property : Property}

def Leaves (history : History) (property : Property) : Prop :=
  ∀ visit ∈ history.visits, visit.Leaves property

theorem leaves_append :
    (first ++ second : History).Leaves property ↔
      first.Leaves property ∧ second.Leaves property := by
  simp only [Leaves, visits_append, List.mem_append, or_imp, forall_and]

theorem Leaves.deliveries (leaves : first.Leaves property) {name : String} {visit : Visit}
    (delivered : (name, visit) ∈ first.deliveries) : visit.Leaves property := by
  obtain ⟨moment, happened, same⟩ := List.mem_filterMap.mp delivered
  apply leaves
  refine List.mem_filterMap.mpr ⟨moment, happened, ?_⟩
  cases moment with
  | delivery =>
      obtain ⟨rfl, rfl⟩ := Prod.mk.inj (Option.some.inj same)
      rfl
  | _ => contradiction

end History

namespace ErrorHandler

variable {handler : ErrorHandler} {preparation : Option Preparation} {entry : Option Message}
  {exchange ready after : Exchange} {earlier moments last : History} {standing next : Standing}
  {result : Exchange × Outcome} {outcome : Outcome} {property : Property}

/-! ## Before the last attempt -/

theorem Prepared.known?_eq (prepared : Prepared preparation exchange moments ready)
    (other : property.isOfAttempts = false)
    (leaves : moments.Leaves property) : ready.known? property = exchange.known? property := by
  have unhandled : property ≠ .errorHandlerHandled := by
    rintro rfl
    contradiction
  cases prepared with
  | first => rfl
  | unhooked => rw [known?_cleared, if_neg unhandled]
  | hooked =>
      have left := leaves _ (List.mem_singleton_self _)
      rw [Visit.Leaves, known?_cleared, if_neg unhandled] at left
      exact left

theorem Attempted.known?_eq (attempted : Attempted handler preparation exchange moments after)
    (other : property.isOfAttempts = false)
    (leaves : moments.Leaves property) : after.known? property = exchange.known? property := by
  cases attempted with
  | ran prepared =>
      obtain ⟨before, step⟩ := History.leaves_append.mp leaves
      have left := step _ (List.mem_singleton_self _)
      exact left.trans (prepared.known?_eq other before)
  | withheld prepared => exact prepared.known?_eq other leaves

theorem Retried.known?_eq (retried : Retried handler standing moments next)
    (other : property.isOfAttempts = false)
    (leaves : moments.Leaves property) :
    next.exchange.known? property = standing.exchange.known? property := by
  cases retried with
  | caught _ _ attempted =>
      have left := attempted.known?_eq other (History.leaves_append.mp leaves).1
      rw [← left]
      cases property <;> first | contradiction | simp

theorem Reached.known?_eq (reached : Reached handler (outset exchange) earlier standing)
    (other : property.isOfAttempts = false)
    (leaves : earlier.Leaves property) :
    standing.exchange.known? property = exchange.known? property := by
  induction reached with
  | start => rfl
  | again _ retried inductionHypothesis =>
      obtain ⟨before, now⟩ := History.leaves_append.mp leaves
      exact (retried.known?_eq other now).trans (inductionHypothesis before)

/-! ## The last attempt -/

/-- How the mark goes together with what happened in a pass and with its outcome. -/
inductive Tells (history : History) : Option Value → Outcome → Prop
  | unmarked {outcome : Outcome} :
      history.exhaustions = [] →
      outcome.isDeclared = false →
      ((∃ failure, outcome = .fatal failure) ↔
        ∃ failure ∈ history.failures, failure.isFatal = true) →
      Tells history none outcome
  | marked {outcome : Outcome} :
      history.exhaustions ≠ [] →
      (outcome.isDeclared = true ∨ ∃ failure, outcome = .fatal failure) →
      (∀ failure ∈ history.failures, failure.isFatal = false) →
      Tells history (some (.bool true)) outcome

/-- A pass whose last attempt did not fail is not marked. -/
theorem Attempted.tells (attempted : Attempted handler preparation exchange moments after)
    (undeclared : outcome.isDeclared = false)
    (unfatal : ∀ failure, outcome ≠ .fatal failure) : Tells moments none outcome := by
  obtain ⟨noFailures, noExhaustions, _, _⟩ := attempted.moments
  refine .unmarked noExhaustions undeclared ?_
  rw [noFailures]
  constructor
  · rintro ⟨failure, fatal⟩
    exact absurd fatal (unfatal failure)
  · rintro ⟨failure, caught, _⟩
    exact absurd caught List.not_mem_nil

theorem Closing.tells (closing : Closing handler entry standing last result)
    (absent : standing.exchange.known? .failureHandled = none)
    (leaves : last.Leaves .failureHandled) :
    Tells last (result.1.known? .failureHandled) result.2 := by
  cases closing with
  | succeeded attempted =>
      rw [attempted.known?_eq rfl leaves, absent]
      exact attempted.tells rfl nofun
  | faulted attempted =>
      rw [attempted.known?_eq rfl leaves, absent]
      exact attempted.tells rfl nofun
  | @misconfigured after moments failure attempted failed fatal =>
      obtain ⟨noFailures, noExhaustions, _, _⟩ := attempted.moments
      have left := attempted.known?_eq rfl (History.leaves_append.mp leaves).1
      have unmarked : (after.setCaught failure).known? .failureHandled = none := by
        simpa using left.trans absent
      rw [unmarked]
      refine .unmarked ?_ rfl ?_
      · rw [History.exhaustions_append, noExhaustions]
        rfl
      · rw [History.failures_append, noFailures]
        constructor
        · intro _
          exact ⟨failure, List.mem_singleton_self failure, fatal⟩
        · intro _
          exact ⟨failure, rfl⟩
  | @exhausted after moments rest failure _ attempted failed mild _ ended =>
      obtain ⟨noFailures, _, _, _⟩ := attempted.moments
      obtain ⟨_, _, noneCaught, _, _⟩ := ended.moments
      have later : rest.Leaves .failureHandled := (History.leaves_append.mp leaves).2
      have marked : result.1.known? .failureHandled =
          (ranOut after failure standing.redeliveries).known? .failureHandled :=
        ended.known?_eq ⟨nofun, nofun⟩ fun _ _ delivered => later.deliveries delivered
      rw [marked, known?_ranOut]
      refine .marked ?_ ended.outcome ?_
      · rw [History.exhaustions_append]
        exact List.append_ne_nil_of_right_ne_nil _ (List.cons_ne_nil _ _)
      · intro caught found
        rw [History.failures_append, noFailures] at found
        rcases List.mem_cons.mp found with rfl | behind
        · exact mild
        · exact absurd behind (List.eq_nil_iff_forall_not_mem.mp noneCaught caught)

/-! ## Whole passes -/

/-- What was caught before the last attempt does not count. -/
theorem Tells.behind {mark : Option Value} (tells : Tells last mark outcome)
    (underway : Underway earlier standing) : Tells (earlier ++ last) mark outcome := by
  cases tells with
  | unmarked unexhausted undeclared fatal =>
      refine .unmarked ?_ undeclared (fatal.trans ?_)
      · rw [History.exhaustions_append, underway.unexhausted, unexhausted]
        rfl
      · rw [History.failures_append]
        constructor
        · rintro ⟨failure, caught, unmendable⟩
          exact ⟨failure, List.mem_append_right _ caught, unmendable⟩
        · rintro ⟨failure, caught, unmendable⟩
          rcases List.mem_append.mp caught with before | now
          · rw [underway.mendable failure before] at unmendable
            contradiction
          · exact ⟨failure, now, unmendable⟩
  | marked exhausted outcome mild =>
      refine .marked ?_ outcome ?_
      · rw [History.exhaustions_append]
        exact List.append_ne_nil_of_right_ne_nil _ exhausted
      · intro failure caught
        rw [History.failures_append] at caught
        rcases List.mem_append.mp caught with before | now
        · exact underway.mendable failure before
        · exact mild failure now

theorem tells_of_observe {history : History}
    (given : (handler.observe exchange).Gives history result)
    (absent : exchange.known? .failureHandled = none)
    (leaves : history.Leaves .failureHandled) :
    Tells history (result.1.known? .failureHandled) result.2 := by
  obtain ⟨earlier, standing, last, reached, closing, rfl⟩ := course_of_observe given
  obtain ⟨before, now⟩ := History.leaves_append.mp leaves
  have unmarked := (reached.known?_eq rfl before).trans absent
  exact (closing.tells unmarked now).behind reached.underway

/-- The mark is set exactly by the exhausted path. Every failure that is declared handled is marked,
and so is every failure left on the exchange except the misconfigurations, which skip that path. So
the mark tells whether the failure was declared handled exactly in the passes that are not left with a
failure by their exhausted path. -/
theorem failureHandled_iff_exhausted {history : History}
    (given : (handler.observe exchange).Gives history (after, outcome))
    (absent : exchange.known? .failureHandled = none)
    (leaves : history.Leaves .failureHandled) :
    (handler.observe exchange).result = handler.handle exchange ∧
      (after.flag .failureHandled = true ↔ history.exhaustions ≠ []) ∧
      (outcome.isDeclared = true → after.flag .failureHandled = true) ∧
      (∀ failure, outcome = .fatal failure →
        (after.flag .failureHandled = false ↔ ∃ caught ∈ history.failures, caught.isFatal = true)) ∧
      ((after.flag .failureHandled = true ↔ outcome.isDeclared = true) ↔
        ¬(history.exhaustions ≠ [] ∧ ∃ failure, outcome = .fatal failure)) := by
  refine ⟨handler.result_observe exchange, ?_⟩
  have tells := tells_of_observe given absent leaves
  generalize found : after.known? .failureHandled = mark at tells
  cases tells with
  | unmarked unexhausted undeclared fatal =>
      have flag : after.flag .failureHandled = false := by
        rw [Exchange.flag_eq, found]
        rfl
      rw [flag, undeclared, unexhausted]
      refine ⟨by simp, by simp, ?_, by simp⟩
      intro failure same
      simpa using fatal.mp ⟨failure, same⟩
  | marked exhausted ended mild =>
      rw [Exchange.flag_of_known found]
      refine ⟨by simp [exhausted], by simp, ?_, ?_⟩
      · intro failure _
        simpa using mild
      · rcases ended with declared | ⟨failure, rfl⟩
        · have unfatal : ¬∃ failure, outcome = .fatal failure := by
            rintro ⟨failure, rfl⟩
            contradiction
          simp [declared, unfatal]
        · simp [exhausted, Outcome.isDeclared]

/-- A handler without a dead letter destination around a step that never succeeds. -/
def abandoning : ErrorHandler where
  rules := {}
  output := .ofFunction "abandoning" fun exchange => (exchange, some (.plain "refused"))

/-- The failure of this pass is left on the exchange and marked as handled. -/
theorem abandoning_marked :
    fresh.flag .failureHandled = false ∧
      ((abandoning.handle fresh).run default).1.2.isDeclared = false ∧
      ((abandoning.handle fresh).run default).1.2.failure?.isSome = true ∧
      ((abandoning.handle fresh).run default).1.1.flag .failureHandled = true := by
  decide +kernel

theorem failureHandled_iff_exhausted_abandoning :
    ∃ (history : History) (after : Exchange) (outcome : Outcome),
      (abandoning.observe fresh).Gives history (after, outcome) ∧
        history.exhaustions ≠ [] ∧ after.flag .failureHandled = true ∧
        ¬(after.flag .failureHandled = true ↔ outcome.isDeclared = true) := by
  have given := Logged.gives_alone (abandoning.observe fresh) default
  have unmarked : (History.visits ((abandoning.observe fresh).alone default).1).all (fun visit =>
      (visit.before.known? .failureHandled).isNone &&
        (visit.after.known? .failureHandled).isNone) = true := by
    decide +kernel
  have leaves : History.Leaves ((abandoning.observe fresh).alone default).1 .failureHandled := by
    intro visit called
    have absent := List.all_eq_true.mp unmarked visit called
    simp only [Bool.and_eq_true, Option.isNone_iff_eq_none] at absent
    rw [Visit.Leaves, absent.1, absent.2]
  have marked : ((abandoning.observe fresh).alone default).2.1.flag .failureHandled = true := by
    decide +kernel
  have undeclared : ((abandoning.observe fresh).alone default).2.2.isDeclared = false := by
    decide +kernel
  obtain ⟨_, exhausted, _, _, _⟩ := failureHandled_iff_exhausted given rfl leaves
  refine ⟨_, _, _, given, exhausted.mp marked, marked, ?_⟩
  rw [marked, undeclared]
  simp

end ErrorHandler

end MessageRouting
