import MessageRouting.Proofs.Engine.Replay
import MessageRouting.Proofs.Engine.Watched

/-!
# What a watched routine ensures

A routine with a log that runs alone ensures something of its log, its result and the
state afterwards. There is one rule for each way of putting such routines together.
-/

namespace MessageRouting

universe u v w

namespace Logged

variable {ε : Type v} {σ : Type u} {α β : Type v}

/-- Run alone from a state of the first kind, the routine leaves a log, a result and a state of
which `after` holds. -/
def Ensures (before : σ → Prop) (logged : Logged ε σ α) (after : List ε → α → σ → Prop) : Prop :=
  logged.routine.Ensures before fun outcome => after outcome.1 outcome.2

variable {before : σ → Prop} {after : List ε → α → σ → Prop} {further : List ε → β → σ → Prop}
  {logged : Logged ε σ α}

theorem ensures_pure {value : α} (holds : ∀ state, before state → after [] value state) :
    Ensures before (pure value) after :=
  holds

theorem ensures_lift {routine : Routine σ α} (holds : routine.Ensures before (after [])) :
    Ensures before (lift routine) after :=
  holds.bind fun _ => Routine.ensures_pure fun _ held => held

theorem ensures_act {routine : Routine σ α} {entry : α → ε}
    (holds : routine.Ensures before fun value => after [entry value] value) :
    Ensures before (act routine entry) after :=
  holds.bind fun _ => Routine.ensures_pure fun _ held => held

theorem Ensures.bind {next : α → Logged ε σ β} (first : Ensures before logged after)
    (second : ∀ entries value,
      Ensures (after entries value) (next value) fun rest => further (entries ++ rest)) :
    Ensures before (logged >>= next) further :=
  Routine.Ensures.bind first fun outcome =>
    Routine.Ensures.bind (second outcome.1 outcome.2) fun _ =>
      Routine.ensures_pure fun _ held => held

theorem ensures_lift_bind {routine : Routine σ α} {between : α → σ → Prop} {next : α → Logged ε σ β}
    (first : routine.Ensures before between)
    (second : ∀ value, Ensures (between value) (next value) further) :
    Ensures before (lift routine >>= next) further := by
  have lifted : Ensures before (lift routine : Logged ε σ α) fun entries value state =>
      entries = [] ∧ between value state :=
    ensures_lift fun state found => ⟨rfl, first state found⟩
  refine lifted.bind fun entries value => ?_
  rintro state ⟨rfl, held⟩
  exact second value state held

/-- What is known beforehand, whatever the state is, may be used. -/
theorem ensures_of_fact {fact : Prop} (holds : fact → Ensures before logged after) :
    Ensures (fun state => fact ∧ before state) logged after :=
  fun state found => holds found.1 state found.2

theorem ensures_of_exists {κ : Sort w} {known : κ → σ → Prop}
    (holds : ∀ value, Ensures (known value) logged after) :
    Ensures (fun state => ∃ value, known value state) logged after := by
  rintro state ⟨value, found⟩
  exact holds value state found

theorem Ensures.weaken {weaker : List ε → α → σ → Prop} (ensures : Ensures before logged after)
    (holds : ∀ entries value state, after entries value state → weaker entries value state) :
    Ensures before logged weaker :=
  fun state found => holds _ _ _ (ensures state found)

end Logged

end MessageRouting
