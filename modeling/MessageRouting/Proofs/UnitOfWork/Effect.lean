import MessageRouting.Proofs.Engine.Ensures
import MessageRouting.Proofs.UnitOfWork.Firing

/-!
# What the completions of an exchange do to the broker

Each completion that is carried out shows: in the journal, in a record of endings, in
a repository or in the claims of a polling consumer, as a failure or as a success. The
end of a unit of work shows every pending completion once, and changes nothing else.
-/

namespace MessageRouting

namespace Firing

def entry? : Firing → Option JournalEntry
  | ⟨.note label _, failed⟩ => some (.note (label ++ if failed then ":failure" else ":complete"))
  | _ => none

def enters (name : String) (asFailure : Bool) : Firing → Bool
  | ⟨.record other _, failed⟩ => other == name && failed == asFailure
  | _ => false

/-- What becomes of a repository. After a failure the key is settled as failed; after a success it is
so only if a failure was handled on the way. -/
def settle (exchange : Exchange) (handle : Nat) (held : KeyRepository) : Firing → KeyRepository
  | ⟨.settleKey repository key options, failed⟩ =>
      if repository = handle then
        held.settle options (!failed && !exchange.flag .failureHandled) key
      else held
  | _ => held

/-- The claim of a polling consumer on a key ends. -/
def releases (handle : Nat) (key : String) : Firing → Bool
  | ⟨.releaseItem claims other, _⟩ => claims == handle && other == key
  | _ => false

end Firing

/-- The broker shows each of the firings for an exchange, and is else as it was. -/
structure Effect (exchange : Exchange) (fired : List Firing) (before after : Broker) : Prop where
  journal : after.journal = (fired.filterMap Firing.entry?).reverse ++ before.journal
  endings : ∀ name, after.endings.get? name = (before.endings.get? name).map fun record =>
    { record with
      completed := record.completed ++
        List.replicate (fired.countP (Firing.enters name false)) exchange.id
      failed := record.failed ++
        List.replicate (fired.countP (Firing.enters name true)) exchange.id }
  repositories : ∀ handle, after.repositories.get? handle =
    (before.repositories.get? handle).map fun held =>
      fired.foldl (fun held firing => firing.settle exchange handle held) held
  claims : ∀ handle, after.claims.get? handle = (before.claims.get? handle).map fun keys =>
    keys.filter fun key => !fired.any (Firing.releases handle key)
  rest : after =
    { before with
      journal := after.journal
      endings := after.endings
      repositories := after.repositories
      claims := after.claims }

namespace Effect

variable {exchange : Exchange} {earlier later : List Firing} {before between after : Broker}

theorem refl (exchange : Exchange) (broker : Broker) : Effect exchange [] broker broker where
  journal := rfl
  endings name := by simp
  repositories handle := by simp
  claims handle := by
    cases before : broker.claims.get? handle with
    | none => rfl
    | some keys => exact congrArg some (List.filter_eq_self.mpr fun _ _ => rfl).symm
  rest := rfl

theorem trans (first : Effect exchange earlier before between)
    (second : Effect exchange later between after) :
    Effect exchange (earlier ++ later) before after where
  journal := by
    rw [second.journal, first.journal, List.filterMap_append, List.reverse_append,
      List.append_assoc]
  endings name := by
    rw [second.endings, first.endings, Option.map_map]
    congr 1
    funext record
    simp only [Function.comp_apply, List.countP_append, List.append_assoc,
      List.replicate_append_replicate]
  repositories handle := by
    rw [second.repositories, first.repositories, Option.map_map]
    congr 1
    funext held
    simp only [Function.comp_apply, List.foldl_append]
  claims handle := by
    rw [second.claims, first.claims, Option.map_map]
    congr 1
    funext keys
    simp only [Function.comp_apply, List.filter_filter, List.any_append, Bool.not_or]
    congr 1
    funext key
    exact Bool.and_comm _ _
  rest := by
    rw [second.rest, first.rest]

/-- A completion that is carried out shows as what it is. -/
theorem of_carryOut (exchange : Exchange) (completion : Completion) (broker : Broker) :
    Effect exchange [⟨completion, exchange.isFailed⟩] broker
      ((completion.carryOut exchange).run broker).2.1 := by
  have unchanged := refl exchange broker
  cases completion with
  | note label movable =>
      rw [Completion.carryOut_note]
      exact { unchanged with journal := rfl, rest := rfl }
  | record name movable =>
      rw [Completion.carryOut_record]
      refine { unchanged with endings := ?_, rest := rfl }
      intro other
      refine (Table.get?_update ..).trans ?_
      by_cases same : other = name
      · subst same
        cases failed : exchange.isFailed <;> simp [Firing.enters]
      · simp [Firing.enters, same, Ne.symm same]
  | settleKey repository key options =>
      rw [Completion.carryOut_settleKey]
      refine { unchanged with repositories := ?_, rest := rfl }
      intro handle
      refine (Register.get?_modify ..).trans ?_
      by_cases same : repository = handle
      · subst same
        simp [Firing.settle]
      · simp [Firing.settle, same]
  | releaseItem claims key =>
      rw [Completion.carryOut_releaseItem]
      refine { unchanged with claims := ?_, rest := rfl }
      intro handle
      refine (Register.get?_modify ..).trans ?_
      by_cases same : claims = handle
      · subst same
        simp [Firing.releases, bne, Bool.beq_comm]
      · have kept (other : String) : Firing.releases handle other
            ⟨.releaseItem claims key, exchange.isFailed⟩ = false := by
          simp [Firing.releases, same]
        simp only [if_neg same, List.any_cons, kept, Bool.false_or]
        exact unchanged.claims handle

theorem of_forEach (exchange : Exchange) (completions : List Completion) (broker : Broker) :
    ∃ after,
      (Routine.forEach completions (Completion.carryOut exchange)).run broker =
          ((), after, ⟨0⟩) ∧
        Effect exchange (completions.map fun completion => ⟨completion, exchange.isFailed⟩) broker
          after := by
  induction completions generalizing broker with
  | nil => exact ⟨broker, rfl, refl exchange broker⟩
  | cons completion rest inductionHypothesis =>
      obtain ⟨after, ran, others⟩ :=
        inductionHypothesis ((completion.carryOut exchange).run broker).2.1
      exact ⟨after, ran, (of_carryOut exchange completion broker).trans others⟩

end Effect

/-- The end of a unit of work happens at once. It completes or fails what is pending, in order, once
each, as the exchange is not failed or is, and does nothing else. -/
theorem Exchange.effect_endUnitOfWork (exchange : Exchange) (broker : Broker) :
    ∃ after,
      exchange.endUnitOfWork.run broker = ({ exchange with unitOfWork := none }, after, ⟨0⟩) ∧
        Effect exchange
          (exchange.pending.map fun completion => ⟨completion, exchange.isFailed⟩) broker
          after := by
  unfold endUnitOfWork pending
  cases found : exchange.unitOfWork with
  | none =>
      have same : { exchange with unitOfWork := none } = exchange := by rw [← found]
      rw [same]
      exact ⟨broker, rfl, .refl exchange broker⟩
  | some unit =>
      obtain ⟨after, ran, shown⟩ :=
        Effect.of_forEach { exchange with unitOfWork := none } unit.completions broker
      refine ⟨after, ?_, ?_⟩
      · have whole := Routine.run_bind_done
          (Routine.forEach unit.completions
            (Completion.carryOut { exchange with unitOfWork := none }))
          (fun _ => { exchange with unitOfWork := none }) broker
        rw [ran] at whole
        exact whole
      · exact
          { journal := shown.journal
            endings := shown.endings
            repositories := shown.repositories
            claims := shown.claims
            rest := shown.rest }

end MessageRouting
