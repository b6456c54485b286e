import MessageRouting.Engine.Asynchronous
import MessageRouting.Proofs.UnitOfWork.Conduct

/-!
# Completions that are given up with an exchange

An asynchronous step takes an exchange over with its unit of work. If the step
gives its callback up, what is pending on the exchange is never carried out: the
processor goes on with an exchange that has no unit of work, on which the failure
is recorded.
-/

namespace MessageRouting

namespace AsyncStep

/-- The step never calls back. -/
def Drops (step : AsyncStep) : Prop :=
  ∀ exchange handover, (step.start exchange).Gives handover → handover = .dropped

/-- A callback that was given up leaves an exchange without content, with a failure. -/
theorem gives_of_drops {step : AsyncStep} (drops : step.Drops) {exchange after : Exchange}
    (given : (step.toProcessor.invoke exchange).Gives after) :
    ∃ freshId, after = (exchange.blank freshId).fail .callbackDropped := by
  obtain ⟨ended, processed, rfl⟩ := Processor.gives_invoke.mp given
  obtain ⟨handover, started, followed⟩ := Routine.gives_bind.mp processed
  obtain rfl := drops exchange handover started
  obtain ⟨freshId, _, left⟩ := Routine.gives_bind.mp followed
  obtain rfl := Routine.gives_pure.mp left
  exact ⟨freshId, rfl⟩

end AsyncStep

namespace Family

variable {lossy : Prop} {family next : Family} {deeds : List Deed} {deed : Deed}

/-! ## What was lost stays lost -/

theorem total_le_set {amount : Member → Nat} {number : Nat} {old : Member} (new : Member)
    (found : family[number]? = some old) (more : amount old ≤ amount new) :
    total amount family ≤ total amount (family.set number new) := by
  have exchanged := total_set amount new found
  omega

theorem Step.lost_le (step : Step lossy family deed next) (completion : Completion) :
    total (fun member => member.lost.count completion) family ≤
      total (fun member => member.lost.count completion) next := by
  cases step with
  | alter found _ => exact total_le_set _ found (Nat.le_refl _)
  | register _ found => exact total_le_set _ found (Nat.le_refl _)
  | @handOver source target giver taker gives takes different =>
      have still : (family.set source (giver.give taker))[target]? = some taker := by
        rw [List.getElem?_set_ne different]
        exact takes
      exact Nat.le_trans (total_le_set (giver.give taker) gives (Nat.le_refl _))
        (total_le_set (taker.take giver) still (Nat.le_refl _))
  | copy id found =>
      rw [total_append]
      exact Nat.le_add_right _ _
  | @enter _ member found =>
      have same : member.enter.lost = member.lost := by
        unfold Member.enter
        split <;> rfl
      apply total_le_set _ found
      rw [same]
  | finish found _ _ => exact total_le_set _ found (Nat.le_refl _)
  | leave found _ => exact total_le_set _ found (Nat.le_refl _)
  | @giveUp _ member freshId _ found =>
      have more : (member.giveUp freshId).lost = member.lost ++ member.exchange.pending := rfl
      apply total_le_set _ found
      rw [more, List.count_append]
      exact Nat.le_add_right _ _

theorem Runs.lost_le (runs : Runs lossy family deeds next) (completion : Completion) :
    total (fun member => member.lost.count completion) family ≤
      total (fun member => member.lost.count completion) next := by
  induction runs with
  | rest => exact Nat.le_refl _
  | step _ step inductionHypothesis =>
      exact Nat.le_trans inductionHypothesis (step.lost_le completion)

/-- Of what is accounted for, what was lost is neither pending nor was it carried out. -/
theorem total_lost_add (completion : Completion) (family : Family) :
    total (fun member => member.accounted.count completion) family =
      total (fun member => member.exchange.pending.count completion +
          (member.fired.map Firing.completion).count completion) family +
        total (fun member => member.lost.count completion) family := by
  induction family with
  | nil => rfl
  | cons member rest inductionHypothesis =>
      have here := member.count_accounted completion
      unfold total at inductionHypothesis ⊢
      simp only [List.map_cons, List.sum_cons]
      omega

/-! ## The whole law -/

/-- What is known of the completions of a family of exchanges, some of which are given up. What was
registered is pending, was carried out or was lost; an exchange that is given up loses everything
that is pending on it; and what was registered once and lost is never pending again and never
carried out. A step that gives its callback up gives the exchange up and records the failure, and a
unit of work in which one does carries out nothing. -/
structure Losing (family : Family) : Prop where
  conserved : ∀ completion,
    total (fun member => member.registered.count completion) family =
      total (fun member => member.exchange.pending.count completion +
          (member.fired.map Firing.completion).count completion) family +
        total (fun member => member.lost.count completion) family
  loses : ∀ (number : Nat) (next : Family), Step True family (.giveUp number) next →
    ∃ member after, family[number]? = some member ∧ next = family.set number after ∧
      after.exchange.unitOfWork = none ∧ after.fired = member.fired ∧
      after.lost = member.lost ++ member.exchange.pending
  forever : ∀ member ∈ family, ∀ completion ∈ member.lost, ∀ (deeds : List Deed) (later : Family),
    Runs True family deeds later →
      total (fun another => another.registered.count completion) later = 1 →
        ∀ another ∈ later, completion ∉ another.exchange.pending ∧
          completion ∉ another.fired.map Firing.completion
  bridged : ∀ (number : Nat) (member : Member) (step : AsyncStep) (after : Exchange),
    family[number]? = some member → step.Drops →
      (step.toProcessor.invoke member.exchange).Gives after →
        after.exception = some .callbackDropped ∧ after.unitOfWork = none ∧
          ∃ next now, Runs True family [.giveUp number, .alter number] next ∧
            next[number]? = some now ∧ now.exchange = after ∧ now.owners = member.owners ∧
            now.fired = member.fired ∧ now.lost = member.lost ++ member.exchange.pending
  unfired : ∀ (step : AsyncStep) (exchange after : Exchange) (fired : List Firing), step.Drops →
    (step.toProcessor.observeUnitOfWork exchange).result =
        step.toProcessor.inUnitOfWork.invoke exchange ∧
      ((step.toProcessor.observeUnitOfWork exchange).Gives fired after →
        fired = [] ∧ after.exception = some .callbackDropped ∧ after.unitOfWork = none)

/-- A callback that is given up loses the completions that are pending on the exchange, at any depth
of nested units of work; all others are conserved. -/
theorem losing_of_runs {exchanges : List Exchange}
    (runs : Runs True (ofExchanges exchanges) deeds family) : Losing family := by
  refine
    { conserved := ?_, loses := ?_, forever := ?_, bridged := ?_, unfired := ?_ }
  · intro completion
    rw [← total_lost_add]
    exact (conserved_ofExchanges completion exchanges).runs runs
  · intro number next step
    cases step with
    | giveUp freshId _ found => exact ⟨_, _, found, rfl, rfl, rfl, rfl⟩
  · intro member found completion lost others later goesOn once another listed
    have balance := (conserved_ofExchanges completion exchanges).runs (runs.append goesOn)
    unfold Conserved at balance
    rw [once, total_lost_add] at balance
    have kept := goesOn.lost_le completion
    have one : 0 < member.lost.count completion := List.count_pos_iff.mpr lost
    have counted := amount_le_total (fun member => member.lost.count completion) found
    have present := amount_le_total (fun member => member.exchange.pending.count completion +
      (member.fired.map Firing.completion).count completion) listed
    refine ⟨List.count_eq_zero.mp ?_, List.count_eq_zero.mp ?_⟩ <;> omega
  · intro number member step after found drops given
    obtain ⟨freshId, rfl⟩ := AsyncStep.gives_of_drops drops given
    have left := getElem?_set_of_found (member.giveUp freshId) found
    have recorded : Step True (family.set number (member.giveUp freshId)) (.alter number)
        ((family.set number (member.giveUp freshId)).set number
          ((member.giveUp freshId).alter
            ((member.exchange.blank freshId).fail .callbackDropped))) :=
      .alter left rfl
    exact ⟨rfl, rfl, _, _, .head (.giveUp freshId trivial found) recorded.runs,
      getElem?_set_of_found _ left, rfl, rfl, rfl, rfl⟩
  · intro step exchange after fired drops
    refine ⟨step.toProcessor.result_observeUnitOfWork exchange, ?_⟩
    intro given
    unfold Processor.observeUnitOfWork at given
    by_cases inside : exchange.isInUnitOfWork = true
    · rw [if_pos inside] at given
      obtain ⟨rfl, ran⟩ := Logged.gives_lift.mp given
      obtain ⟨freshId, rfl⟩ := AsyncStep.gives_of_drops drops ran
      exact ⟨rfl, rfl, rfl⟩
    · rw [if_neg inside] at given
      obtain ⟨left, ran, ended⟩ := Logged.gives_lift_bind.mp given
      obtain ⟨freshId, rfl⟩ := AsyncStep.gives_of_drops drops ran
      obtain ⟨rfl, rfl⟩ := Exchange.gives_observeEnd ended
      exact ⟨rfl, rfl, rfl⟩

def awaited : Exchange :=
  ErrorHandler.fresh.addCompletion (.note "awaited" true)

/-- The completion is lost in a nested unit of work, and what is registered later is carried out. -/
theorem losing_of_runs_nested :
    ∃ (family : Family) (member : Member),
      Runs True (ofExchanges [awaited])
        [.enter 0, .enter 0, .giveUp 0, .leave 0, .register 0 (.note "later" true), .leave 0]
        family ∧
        Losing family ∧ family[0]? = some member ∧ member.lost = [.note "awaited" true] ∧
        member.fired = [⟨.note "later" true, false⟩] := by
  obtain ⟨family, member, runs, found, lost, fired⟩ :
      ∃ (family : Family) (member : Member),
        Runs True (ofExchanges [awaited])
          [.enter 0, .enter 0, .giveUp 0, .leave 0, .register 0 (.note "later" true), .leave 0]
          family ∧
          family[0]? = some member ∧ member.lost = [.note "awaited" true] ∧
          member.fired = [⟨.note "later" true, false⟩] := by
    exact ⟨_, _, .head (.enter rfl) (.head (.enter rfl) (.head (.giveUp "blank" trivial rfl)
      (.head (.leave rfl rfl) (.head (.register _ rfl)
        (Step.runs (.finish rfl rfl (Logged.gives_alone _ default))))))), rfl, rfl, rfl⟩
  exact ⟨family, member, runs, losing_of_runs runs, found, lost, fired⟩

/-- Run alone in a unit of work, a step that gives its callback up leaves the failure on the exchange.
The completion is not carried out: it would have noted so in the journal. -/
theorem awaited_never_noted :
    awaited.pending = [.note "awaited" true] ∧
      ((AsyncStep.drop.toProcessor.inUnitOfWork.invoke awaited).run default).1.exception =
        some .callbackDropped ∧
      ((AsyncStep.drop.toProcessor.inUnitOfWork.invoke awaited).run default).1.unitOfWork = none ∧
      ((AsyncStep.drop.toProcessor.inUnitOfWork.invoke awaited).run default).2.1.journal = [] :=
  ⟨rfl, rfl, rfl, rfl⟩

end Family

end MessageRouting
