import MessageRouting.Broker.Basic

/-!
# What a routine can give

A routine may find any state whenever it looks at it: another task may have
changed the state, in particular while the routine was suspended. A value that
it can give is one with which it ends for some choice of these states. What
holds of every such value holds of every run, whatever runs beside it; running
the routine alone is one of these runs.
-/

namespace MessageRouting

universe u v w

namespace Routine

variable {σ : Type u} {α : Type v} {β : Type w}

/-- The routine can end with the value. -/
inductive Gives : Routine σ α → α → Prop
  | done (value : α) : Gives (done value) value
  | get (state : σ) {next : σ → Routine σ α} {value : α} :
      Gives (next state) value → Gives (get next) value
  | put (state : σ) {next : Routine σ α} {value : α} :
      Gives next value → Gives (put state next) value
  | sleep (span : Duration) {next : Unit → Routine σ α} {value : α} :
      Gives (next ()) value → Gives (sleep span next) value

@[simp]
theorem gives_done {value result : α} :
    (done value : Routine σ α).Gives result ↔ result = value := by
  constructor
  · rintro ⟨⟩
    rfl
  · rintro rfl
    exact .done result

@[simp]
theorem gives_pure {value result : α} :
    (pure value : Routine σ α).Gives result ↔ result = value :=
  gives_done

@[simp]
theorem gives_get {next : σ → Routine σ α} {result : α} :
    (get next).Gives result ↔ ∃ state, (next state).Gives result := by
  constructor
  · intro given
    cases given with
    | get state rest => exact ⟨state, rest⟩
  · rintro ⟨state, rest⟩
    exact .get state rest

@[simp]
theorem gives_put {state : σ} {next : Routine σ α} {result : α} :
    (put state next).Gives result ↔ next.Gives result := by
  constructor
  · intro given
    cases given with
    | put _ rest => exact rest
  · exact .put state

@[simp]
theorem gives_sleep {span : Duration} {next : Unit → Routine σ α} {result : α} :
    (sleep span next).Gives result ↔ (next ()).Gives result := by
  constructor
  · intro given
    cases given with
    | sleep _ rest => exact rest
  · exact .sleep span

theorem gives_bind {routine : Routine σ α} {next : α → Routine σ β} {result : β} :
    (routine.bind next).Gives result ↔
      ∃ value, routine.Gives value ∧ (next value).Gives result := by
  induction routine with
  | done value => simp [bind]
  | get body inductionHypothesis =>
      simp only [bind, gives_get, inductionHypothesis]
      constructor
      · rintro ⟨state, value, given, rest⟩
        exact ⟨value, ⟨state, given⟩, rest⟩
      · rintro ⟨value, ⟨state, given⟩, rest⟩
        exact ⟨state, value, given, rest⟩
  | put state body inductionHypothesis => simpa [bind] using inductionHypothesis
  | sleep span body inductionHypothesis => simpa [bind] using inductionHypothesis ()

/-- What follows upon a routine matters only for the values that the routine can give. -/
theorem bind_congr {routine : Routine σ α} {next other : α → Routine σ β}
    (same : ∀ value, routine.Gives value → next value = other value) :
    routine.bind next = routine.bind other := by
  induction routine with
  | done value => exact same value (.done value)
  | get body inductionHypothesis =>
      refine congrArg get (funext fun state => ?_)
      exact inductionHypothesis state fun value given => same value (.get state given)
  | put state body inductionHypothesis =>
      refine congrArg (put state) ?_
      exact inductionHypothesis fun value given => same value (.put state given)
  | sleep span body inductionHypothesis =>
      refine congrArg (sleep span) (funext fun _ => ?_)
      exact inductionHypothesis () fun value given => same value (.sleep span given)

/-- The result of a routine that runs alone is one that it can give, so that there always is one. -/
theorem gives_run (routine : Routine σ α) (state : σ) : routine.Gives (routine.run state).1 := by
  induction routine generalizing state with
  | done value => exact .done value
  | get body inductionHypothesis => exact .get state (inductionHypothesis state state)
  | put after body inductionHypothesis => exact .put after (inductionHypothesis after)
  | sleep span body inductionHypothesis => exact .sleep span (inductionHypothesis () state)

/-! ## Building blocks -/

@[simp]
theorem gives_look {view : σ → α} {result : α} :
    (look view).Gives result ↔ ∃ state, result = view state := by
  simp [look]

end Routine

end MessageRouting
