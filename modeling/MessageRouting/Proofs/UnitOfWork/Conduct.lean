import MessageRouting.Proofs.Redelivery.Endings
import MessageRouting.Proofs.UnitOfWork.Custody
import MessageRouting.Proofs.UnitOfWork.Effect

/-!
# What processors do with the completions of an exchange

Pipelines, error handlers, idempotent consumers and nested units of work, put
together from parts that only register completions, hand them over and copy
exchanges, do nothing else with completions themselves. So a run of such a processor
in a unit of work is a sequence of deeds, at the end of which the completions are
carried out that are then pending.
-/

namespace MessageRouting

namespace Family

/-- What happens to an exchange in a unit of work can happen by deeds, none of which carries out a
completion of the exchange. -/
def Carries (number : Nat) (before after : Exchange) : Prop :=
  before.isInUnitOfWork = true →
    after.isInUnitOfWork = true ∧
      ∀ (family : Family) (member : Member), family[number]? = some member →
        member.exchange = before →
          ∃ (deeds : List Deed) (next : Family) (now : Member),
            Runs False family deeds next ∧ next[number]? = some now ∧ now.exchange = after ∧
              now.owners = member.owners ∧ now.fired = member.fired

theorem getElem?_set_of_found {family : Family} {number : Nat} {old : Member} (new : Member)
    (found : family[number]? = some old) : (family.set number new)[number]? = some new := by
  obtain ⟨bound, _⟩ := List.getElem?_eq_some_iff.mp found
  exact List.getElem?_set_self bound

theorem passage_carries (number : Nat) : Passage (Carries number) where
  still := by
    intro before after same inside
    refine ⟨(Exchange.isInUnitOfWork_congr same).trans inside, ?_⟩
    rintro family member found rfl
    exact ⟨_, _, _, (Step.alter found same).runs, getElem?_set_of_found _ found, rfl, rfl, rfl⟩
  andThen := by
    intro before between after first second inside
    obtain ⟨insideBetween, earlier⟩ := first inside
    obtain ⟨insideAfter, later⟩ := second insideBetween
    refine ⟨insideAfter, ?_⟩
    intro family member found same
    obtain ⟨deeds, middle, half, runs, foundHalf, sameHalf, ownersHalf, firedHalf⟩ :=
      earlier family member found same
    obtain ⟨others, next, now, goesOn, foundNow, sameNow, ownersNow, firedNow⟩ :=
      later middle half foundHalf sameHalf
    exact ⟨deeds ++ others, next, now, runs.append goesOn, foundNow, sameNow,
      ownersNow.trans ownersHalf, firedNow.trans firedHalf⟩

theorem carries_addCompletion (number : Nat) (exchange : Exchange) (completion : Completion) :
    Carries number exchange (exchange.addCompletion completion) := by
  intro inside
  refine ⟨(exchange.isInUnitOfWork_addCompletion completion).trans inside, ?_⟩
  rintro family member found rfl
  exact ⟨_, _, _, (Step.register completion found).runs, getElem?_set_of_found _ found, rfl, rfl,
    rfl⟩

/-- A processor that is put together from parts does to an exchange what such parts do. -/
theorem passes_of_composed {number : Nat} {processor : Processor}
    (composed : processor.Composed (Processor.Passes (Carries number))) :
    processor.Passes (Carries number) := by
  apply composed.passes (passage_carries number)
  · intro repository key options exchange _
    exact carries_addCompletion number exchange (.settleKey repository key options)
  · intro before after outside inside
    rw [outside] at inside
    contradiction

/-! ## The end of a run -/

variable {family next : Family} {number : Nat}

/-- The outermost run of an exchange carries out what is pending on it, and the broker shows it; a
nested one does nothing. -/
theorem cases_of_leave (owned : ∀ member ∈ family, member.Owned)
    (step : Step False family (.leave number) next) :
    ∃ member, family[number]? = some member ∧
      ((member.owners.length = 1 ∧ ∃ (fired : List Firing) (after : Member),
          next = family.set number after ∧ after.exchange.pending = [] ∧
          fired = member.exchange.pending.map
            (fun completion => ⟨completion, member.exchange.isFailed⟩) ∧
          after.fired = member.fired ++ fired ∧
          ∀ broker, ∃ now,
            member.exchange.endUnitOfWork.run broker = (after.exchange, now, ⟨0⟩) ∧
              Effect member.exchange fired broker now) ∨
        1 < member.owners.length ∧ next = family.set number member.leave) := by
  cases step with
  | @finish _ member owners after fired found owning ended =>
      refine ⟨member, found, .inl ⟨?_, _, _, rfl, (Member.finished ended).1, ?_, rfl, ?_⟩⟩
      · rw [(owned member (List.mem_of_getElem? found)).outermost owning]
        rfl
      · exact (Exchange.gives_observeEnd ended).2
      · obtain ⟨rfl, rfl⟩ := Exchange.gives_observeEnd ended
        exact member.exchange.effect_endUnitOfWork
  | @leave _ member owners found nestedRun =>
      refine ⟨member, found, .inr ⟨?_, rfl⟩⟩
      obtain ⟨_, nested, shape⟩ := (owned member (List.mem_of_getElem? found)).nested nestedRun
      rw [nestedRun, shape]
      simp

/-- A unit of work processor ends the unit of work of an exchange that is in no other run of one.
Inside of another run it just runs the inner processor. -/
theorem cases_of_inUnitOfWork {member : Member} (owned : member.Owned) (inner : Processor) :
    (member.owners ≠ [] →
        inner.inUnitOfWork.invoke member.exchange = inner.invoke member.exchange) ∧
      (member.owners = [] →
        inner.inUnitOfWork.invoke member.exchange =
          inner.invoke member.exchange.enterUnitOfWork >>= Exchange.endUnitOfWork) := by
  unfold Processor.inUnitOfWork
  rw [Processor.invoke_silent]
  constructor
  · intro entered
    exact if_pos (owned.inside entered).1
  · intro outermost
    exact if_neg (ne_true_of_eq_false (owned.outside outermost))

/-- A run of a processor in a unit of work is a sequence of deeds: it enters, the deeds of the
processor carry out nothing, and it leaves. What it carries out is carried out then. -/
theorem runs_of_observeUnitOfWork {member : Member} {inner : Processor} {fired : List Firing}
    {after : Exchange} (found : family[number]? = some member)
    (composed : inner.Composed (Processor.Passes (Carries number)))
    (given : (inner.observeUnitOfWork member.exchange).Gives fired after) :
    ∃ (deeds : List Deed) (within next : Family) (inside ended : Member),
      Runs False family (.enter number :: deeds) within ∧ within[number]? = some inside ∧
        inside.owners.tail = member.owners ∧ inside.fired = member.fired ∧
        Step False within (.leave number) next ∧ next[number]? = some ended ∧
        ended.exchange = after ∧ ended.owners = member.owners ∧
        ended.fired = member.fired ++ fired := by
  have passes := passes_of_composed composed
  have entering : Runs False family [.enter number] (family.set number member.enter) :=
    (Step.enter found).runs
  have entered := getElem?_set_of_found member.enter found
  unfold Processor.observeUnitOfWork at given
  by_cases active : member.exchange.isInUnitOfWork = true
  · rw [if_pos active] at given
    obtain ⟨rfl, ran⟩ := Logged.gives_lift.mp given
    have nested : member.enter = { member with owners := false :: member.owners } := if_pos active
    obtain ⟨_, goesOn⟩ := passes _ _ ran active
    obtain ⟨deeds, within, inside, runs, foundInside, same, owners, quiet⟩ :=
      goesOn _ _ entered (by rw [nested])
    have flag : inside.owners = false :: member.owners := by
      rw [owners, nested]
    have before : inside.fired = member.fired := by
      rw [quiet, nested]
    refine ⟨deeds, within, _, inside, inside.leave, entering.append runs, foundInside, ?_, before,
      .leave foundInside flag, getElem?_set_of_found _ foundInside, same, ?_, ?_⟩
    · rw [flag]
      rfl
    · unfold Member.leave
      rw [flag]
      rfl
    · rw [List.append_nil]
      exact before
  · rw [if_neg active] at given
    obtain ⟨left, ran, ended⟩ := Logged.gives_lift_bind.mp given
    have outermost : member.enter =
        { member with
          exchange := member.exchange.enterUnitOfWork
          owners := true :: member.owners } := if_neg active
    obtain ⟨_, goesOn⟩ := passes _ _ ran member.exchange.isInUnitOfWork_enterUnitOfWork
    obtain ⟨deeds, within, inside, runs, foundInside, rfl, owners, quiet⟩ :=
      goesOn _ _ entered (by rw [outermost])
    have flag : inside.owners = true :: member.owners := by
      rw [owners, outermost]
    have before : inside.fired = member.fired := by
      rw [quiet, outermost]
    refine ⟨deeds, within, _, inside, inside.finish after fired, entering.append runs, foundInside,
      ?_, before, .finish foundInside flag ended, getElem?_set_of_found _ foundInside, rfl, ?_, ?_⟩
    · rw [flag]
      rfl
    · unfold Member.finish
      rw [flag]
      rfl
    · unfold Member.finish
      rw [before]

/-! ## The whole law -/

def Placed (completion : Completion) (family : Family) : Prop :=
  ∃ (number : Nat) (member : Member), family[number]? = some member ∧
    (member.exchange.pending.count completion = 1 ∧
        (member.fired.map Firing.completion).count completion = 0 ∨
      member.exchange.pending.count completion = 0 ∧
        (member.fired.map Firing.completion).count completion = 1) ∧
    ∀ (other : Nat) (another : Member), family[other]? = some another → other ≠ number →
      another.exchange.pending.count completion = 0 ∧
        (another.fired.map Firing.completion).count completion = 0

theorem placed_of_total {completion : Completion} (owned : ∀ member ∈ family, member.Owned)
    (conserved : Conserved completion family)
    (once : total (fun member => member.registered.count completion) family = 1) :
    Placed completion family := by
  obtain ⟨number, member, found, amount, others⟩ := only_of_total (conserved.symm.trans once)
  refine ⟨number, member, found, ?_, ?_⟩
  · have here := (owned member (List.mem_of_getElem? found)).count_accounted_eq completion
    omega
  · intro other another foundOther different
    have there := (owned another (List.mem_of_getElem? foundOther)).count_accounted_eq completion
    have nothing := others other another foundOther different
    omega

/-- What is known of the completions of a family of exchanges at any time. What was registered is
pending or was carried out; what was registered once is in one place, and was carried out once at
most. Completions are carried out in the order of their arrival, and one that may not move stays
where it was registered. The end of the outermost run of an exchange carries out what is pending on
it, as the exchange is then failed or not, at once and with nothing else that the broker shows; the
end of a nested run carries out nothing. Nothing is pending on a copy. A run of a unit of work
processor around a processor that is put together from parts which keep to such deeds goes on by
such deeds, and carries out completions at its end only. -/
structure Custody (family : Family) : Prop where
  conserved : ∀ completion,
    total (fun member => member.registered.count completion) family =
      total (fun member => member.exchange.pending.count completion +
        (member.fired.map Firing.completion).count completion) family
  placed : ∀ completion,
    total (fun member => member.registered.count completion) family = 1 → Placed completion family
  ordered : ∀ member ∈ family,
    (member.fired.map Firing.completion ++ member.exchange.pending).Sublist member.arrived
  fixed : ∀ member ∈ family, ∀ completion : Completion, completion.isMovable = false →
    member.registered.count completion =
      member.exchange.pending.count completion +
        (member.fired.map Firing.completion).count completion
  ends : ∀ (number : Nat) (next : Family), Step False family (.leave number) next →
    ∃ member, family[number]? = some member ∧
      ((member.owners.length = 1 ∧ ∃ (fired : List Firing) (after : Member),
          next = family.set number after ∧ after.exchange.pending = [] ∧
          fired = member.exchange.pending.map
            (fun completion => ⟨completion, member.exchange.isFailed⟩) ∧
          after.fired = member.fired ++ fired ∧
          ∀ broker, ∃ now,
            member.exchange.endUnitOfWork.run broker = (after.exchange, now, ⟨0⟩) ∧
              Effect member.exchange fired broker now) ∨
        1 < member.owners.length ∧ next = family.set number member.leave)
  outermost : ∀ member ∈ family, ∀ inner : Processor,
    (member.owners ≠ [] →
        inner.inUnitOfWork.invoke member.exchange = inner.invoke member.exchange) ∧
      (member.owners = [] →
        inner.inUnitOfWork.invoke member.exchange =
          inner.invoke member.exchange.enterUnitOfWork >>= Exchange.endUnitOfWork)
  copies : ∀ (source : Nat) (next : Family), Step False family (.copy source) next →
    ∃ copied, next = family ++ [copied] ∧ copied.exchange.pending = []
  conducts : ∀ (number : Nat) (member : Member) (inner : Processor) (fired : List Firing)
    (after : Exchange), family[number]? = some member →
      inner.Composed (Processor.Passes (Carries number)) →
        (inner.observeUnitOfWork member.exchange).result =
            inner.inUnitOfWork.invoke member.exchange ∧
          ((inner.observeUnitOfWork member.exchange).Gives fired after →
            ∃ (deeds : List Deed) (within next : Family) (inside ended : Member),
              Runs False family (.enter number :: deeds) within ∧ within[number]? = some inside ∧
                inside.owners.tail = member.owners ∧ inside.fired = member.fired ∧
                Step False within (.leave number) next ∧ next[number]? = some ended ∧
                ended.exchange = after ∧ ended.owners = member.owners ∧
                ended.fired = member.fired ++ fired)

/-- Completions are conserved, whatever is done with a family of exchanges that are not in the hands
of a unit of work processor at first, and however the runs of such processors are nested. -/
theorem custody_of_runs {exchanges : List Exchange} {deeds : List Deed}
    (outside : ∀ exchange ∈ exchanges, exchange.isInUnitOfWork = false)
    (runs : Runs False (ofExchanges exchanges) deeds family) : Custody family := by
  have ordered := Member.kept_ordered.runs ordered_ofExchanges runs
  have fixed := Member.kept_fixed.runs fixed_ofExchanges runs
  have owned := Member.kept_owned.runs (owned_ofExchanges outside) runs
  have conserved := fun completion =>
    (conserved_ofExchanges completion exchanges).runs runs
  have accounted := fun member (found : member ∈ family) completion =>
    (owned member found).count_accounted_eq completion
  refine
    { conserved := ?_, placed := ?_, ordered := ordered, fixed := ?_
      ends := fun _ _ => cases_of_leave owned
      outermost := fun member found => cases_of_inUnitOfWork (owned member found)
      copies := ?_, conducts := ?_ }
  · intro completion
    have balance := conserved completion
    unfold Conserved at balance
    rw [balance]
    exact total_congr fun member found => accounted member found completion
  · intro completion once
    exact placed_of_total owned (conserved completion) once
  · intro member found completion unmovable
    rw [← accounted member found]
    exact fixed member found completion unmovable
  · intro source next step
    cases step with
    | copy id found => exact ⟨_, rfl, rfl⟩
  · intro number member inner fired after found composed
    exact ⟨inner.result_observeUnitOfWork member.exchange,
      runs_of_observeUnitOfWork found composed⟩

/-- A step that registers a completion and fails. -/
def noting : Processor :=
  .ofFunction "noting" fun exchange =>
    (exchange.addCompletion (.note "later" true), some (.plain "refused"))

theorem passes_noting (number : Nat) : noting.Passes (Carries number) := by
  intro before after given
  obtain ⟨ended, processed, rfl⟩ := Processor.gives_invoke.mp given
  obtain rfl := Routine.gives_pure.mp processed
  exact (passage_carries number).andThen (carries_addCompletion number before _)
    ((passage_carries number).still rfl)

/-- Of two completions that are registered on the first of two exchanges, one is handed over to the
other exchange and one may not move. The end of the unit of work carries out the latter; the journal
would tell the end of the other exchange as a success or, once that exchange is failed, as a
failure. -/
theorem custody_of_runs_handOver :
    ∃ (family : Family) (first second : Member),
      Runs False (ofExchanges [ErrorHandler.fresh, ErrorHandler.fresh])
        [.register 0 (.note "moving" true), .register 0 (.note "staying" false), .enter 0,
          .handOver 0 1, .leave 0] family ∧
        Custody family ∧ family[0]? = some first ∧ family[1]? = some second ∧
        first.fired = [⟨.note "staying" false, false⟩] ∧
        second.exchange.pending = [.note "moving" true] ∧
        (second.exchange.endUnitOfWork.run default).2.1.journal = [.note "moving:complete"] ∧
        ((second.exchange.fail (.plain "refused")).endUnitOfWork.run default).2.1.journal =
          [.note "moving:failure"] ∧
        (Processor.pipeline "steps" [noting, noting.inUnitOfWork]).Composed
          (Processor.Passes (Carries 1)) := by
  have outside : ∀ exchange ∈ [ErrorHandler.fresh, ErrorHandler.fresh],
      exchange.isInUnitOfWork = false := by
    decide
  obtain ⟨family, first, second, runs, foundFirst, foundSecond, fired, pending, told, toldFailed⟩ :
      ∃ (family : Family) (first second : Member),
        Runs False (ofExchanges [ErrorHandler.fresh, ErrorHandler.fresh])
          [.register 0 (.note "moving" true), .register 0 (.note "staying" false), .enter 0,
            .handOver 0 1, .leave 0] family ∧
          family[0]? = some first ∧ family[1]? = some second ∧
          first.fired = [⟨.note "staying" false, false⟩] ∧
          second.exchange.pending = [.note "moving" true] ∧
          (second.exchange.endUnitOfWork.run default).2.1.journal = [.note "moving:complete"] ∧
          ((second.exchange.fail (.plain "refused")).endUnitOfWork.run default).2.1.journal =
            [.note "moving:failure"] := by
    exact ⟨_, _, _, .head (.register _ rfl) (.head (.register _ rfl) (.head (.enter rfl)
      (.head (.handOver rfl rfl Nat.zero_ne_one)
        (Step.runs (.finish rfl rfl (Logged.gives_alone _ default)))))), rfl, rfl, rfl, rfl, rfl,
      rfl⟩
  have parts : ∀ step ∈ [noting, noting.inUnitOfWork],
      step.Composed (Processor.Passes (Carries 1)) := by
    intro step listed
    rcases List.mem_pair.mp listed with rfl | rfl
    · exact .single (passes_noting 1)
    · exact .inUnitOfWork (.single (passes_noting 1))
  exact ⟨family, first, second, runs, custody_of_runs outside runs, foundFirst, foundSecond, fired,
    pending, told, toldFailed, .pipeline parts⟩

end Family

end MessageRouting
