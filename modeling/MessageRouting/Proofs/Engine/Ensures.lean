import MessageRouting.Engine.Routine

/-!
# What a routine ensures when it runs alone

A routine that runs alone always ends. What holds of the state before it determines
what holds of its result and of the state after it; for routines in sequence, what the
first one ensures is what the second one starts from.
-/

namespace MessageRouting

universe u v w

namespace Routine

variable {σ : Type u} {α : Type v} {β : Type w}

/-- Run alone from a state of the first kind, the routine ends with a value and a state of which
`after` holds. -/
def Ensures (before : σ → Prop) (routine : Routine σ α) (after : α → σ → Prop) : Prop :=
  ∀ state, before state → after (routine.run state).1 (routine.run state).2.1

variable {before : σ → Prop} {after : α → σ → Prop} {further : β → σ → Prop}
  {routine : Routine σ α}

/-- Routines in sequence, run alone, end as the second one does from where the first one ended. -/
theorem run_bind (routine : Routine σ α) (next : α → Routine σ β) (state : σ) :
    ((routine.bind next).run state).1 =
        ((next (routine.run state).1).run (routine.run state).2.1).1 ∧
      ((routine.bind next).run state).2.1 =
        ((next (routine.run state).1).run (routine.run state).2.1).2.1 := by
  induction routine generalizing state with
  | done value => exact ⟨rfl, rfl⟩
  | get body inductionHypothesis => exact inductionHypothesis state state
  | put after body inductionHypothesis => exact inductionHypothesis after
  | sleep span body inductionHypothesis => exact inductionHypothesis () state

/-- Routines in sequence, run alone, sleep as long as both of them. -/
theorem slept_bind (routine : Routine σ α) (next : α → Routine σ β) (state : σ) :
    ((routine.bind next).run state).2.2.nanoseconds =
      (routine.run state).2.2.nanoseconds +
        ((next (routine.run state).1).run (routine.run state).2.1).2.2.nanoseconds := by
  induction routine generalizing state with
  | done value => exact (Nat.zero_add _).symm
  | get body inductionHypothesis => exact inductionHypothesis state state
  | put after body inductionHypothesis => exact inductionHypothesis after
  | sleep span body inductionHypothesis =>
      have rest := inductionHypothesis () state
      change span.nanoseconds + (((body ()).bind next).run state).2.2.nanoseconds = _
      rw [rest, ← Nat.add_assoc]
      rfl

theorem run_bind_done (routine : Routine σ α) (view : α → β) (state : σ) :
    (routine.bind fun value => .done (view value)).run state =
      (view (routine.run state).1, (routine.run state).2) := by
  obtain ⟨sameValue, sameState⟩ := run_bind routine (fun value => .done (view value)) state
  have sameTime := slept_bind routine (fun value => .done (view value)) state
  refine Prod.ext sameValue (Prod.ext sameState ?_)
  exact congrArg Duration.mk sameTime

theorem Ensures.bind {next : α → Routine σ β} (first : Ensures before routine after)
    (second : ∀ value, Ensures (after value) (next value) further) :
    Ensures before (routine.bind next) further := by
  intro state holds
  obtain ⟨sameValue, sameState⟩ := run_bind routine next state
  rw [sameValue, sameState]
  exact second _ _ (first state holds)

theorem ensures_pure {value : α} (holds : ∀ state, before state → after value state) :
    Ensures before (pure value : Routine σ α) after :=
  holds

theorem ensures_look {view : σ → α} (holds : ∀ state, before state → after (view state) state) :
    Ensures before (look view) after :=
  holds

theorem ensures_change {step : σ → α × σ}
    (holds : ∀ state, before state → after (step state).1 (step state).2) :
    Ensures before (change step) after :=
  holds

theorem ensures_modify {alter : σ → σ} {after : Unit → σ → Prop}
    (holds : ∀ state, before state → after () (alter state)) :
    Ensures before (modify alter) after :=
  holds

theorem ensures_wait {after : Unit → σ → Prop} (span : Duration)
    (holds : ∀ state, before state → after () state) :
    Ensures before (wait span) after := by
  intro state found
  unfold wait
  cases span.isZero <;> exact holds state found

end Routine

end MessageRouting
