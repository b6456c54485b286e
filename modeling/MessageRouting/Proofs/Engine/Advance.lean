import MessageRouting.Proofs.Engine.Results

/-!
# Routines that are advanced

What a scheduler sees of a routine: how it goes from one suspension to the next,
and what it may do to the state in between. A routine that is composed of others
suspends where they do.
-/

namespace MessageRouting

universe u v w x

namespace Routine

variable {σ : Type u} {α : Type v} {β : Type w} {ν : Type x}

/-! ## Composed routines -/

theorem advance_bind (routine : Routine σ α) (next : α → Routine σ β) (state : σ) :
    (routine.bind next).advance state =
      match routine.advance state with
      | (.finished value, after) => (next value).advance after
      | (.waiting span rest, after) => (.waiting span (rest.bind next), after) := by
  induction routine generalizing state with
  | done value => rfl
  | get body inductionHypothesis => exact inductionHypothesis state state
  | put after body inductionHypothesis => exact inductionHypothesis after
  | sleep span body => rfl

theorem advance_bind_of_finished {routine : Routine σ α} {next : α → Routine σ β}
    {state after : σ} {value : α} (finished : routine.advance state = (.finished value, after)) :
    (routine.bind next).advance state = (next value).advance after := by
  rw [advance_bind, finished]

theorem advance_bind_of_waiting {routine rest : Routine σ α} {next : α → Routine σ β}
    {state after : σ} {span : Duration}
    (waiting : routine.advance state = (.waiting span rest, after)) :
    (routine.bind next).advance state = (.waiting span (rest.bind next), after) := by
  rw [advance_bind, waiting]

/-! ## Results -/

theorem gives_of_finished {routine : Routine σ α} {state after : σ} {value : α}
    (finished : routine.advance state = (.finished value, after)) : routine.Gives value := by
  induction routine generalizing state with
  | done result =>
      obtain ⟨same, _⟩ := Prod.mk.inj finished
      obtain rfl := Progress.finished.inj same
      exact .done result
  | get body inductionHypothesis => exact .get state (inductionHypothesis state finished)
  | put middle body inductionHypothesis => exact .put middle (inductionHypothesis finished)
  | sleep span body =>
      obtain ⟨same, _⟩ := Prod.mk.inj finished
      contradiction

/-- What the rest of a routine gives, the routine gives. -/
theorem gives_of_waiting {routine rest : Routine σ α} {state after : σ} {span : Duration} {value : α}
    (waiting : routine.advance state = (.waiting span rest, after)) (given : rest.Gives value) :
    routine.Gives value := by
  induction routine generalizing state with
  | done result =>
      obtain ⟨same, _⟩ := Prod.mk.inj waiting
      contradiction
  | get body inductionHypothesis => exact .get state (inductionHypothesis state waiting)
  | put middle body inductionHypothesis => exact .put middle (inductionHypothesis waiting)
  | sleep duration body =>
      obtain ⟨same, _⟩ := Prod.mk.inj waiting
      obtain ⟨rfl, rfl⟩ := Progress.waiting.inj same
      exact .sleep duration given

/-! ## What happens to the state -/

def changes (note : σ → σ → List ν) : Routine σ α → σ → List ν
  | done _, _ => []
  | get body, state => (body state).changes note state
  | put after body, state => note state after ++ body.changes note after
  | sleep _ _, _ => []

variable {note : σ → σ → List ν}

theorem changes_bind (routine : Routine σ α) (next : α → Routine σ β) (state : σ) :
    (routine.bind next).changes note state =
      routine.changes note state ++
        match routine.advance state with
        | (.finished value, after) => (next value).changes note after
        | (.waiting _ _, _) => [] := by
  induction routine generalizing state with
  | done value => rfl
  | get body inductionHypothesis => exact inductionHypothesis state state
  | put after body inductionHypothesis =>
      change note state after ++ (body.bind next).changes note after = _
      rw [inductionHypothesis after, ← List.append_assoc]
      rfl
  | sleep span body => rfl

theorem changes_bind_of_finished {routine : Routine σ α} {next : α → Routine σ β}
    {state after : σ} {value : α} (finished : routine.advance state = (.finished value, after)) :
    (routine.bind next).changes note state =
      routine.changes note state ++ (next value).changes note after := by
  rw [changes_bind, finished]

theorem changes_bind_of_waiting {routine rest : Routine σ α} {next : α → Routine σ β}
    {state after : σ} {span : Duration}
    (waiting : routine.advance state = (.waiting span rest, after)) :
    (routine.bind next).changes note state = routine.changes note state := by
  rw [changes_bind, waiting, List.append_nil]

/-- From the given state to its next suspension the routine changes the state in the given way only,
and so it does from whatever state it finds after a suspension. -/
def Respects (kept : σ → σ → Prop) : Routine σ α → σ → Prop
  | done _, _ => True
  | get body, state => (body state).Respects kept state
  | put after body, state => kept state after ∧ body.Respects kept after
  | sleep _ body, _ => ∀ state, (body ()).Respects kept state

theorem Respects.mono {kept wider : σ → σ → Prop} {routine : Routine σ α} {state : σ}
    (respects : routine.Respects kept state)
    (wide : ∀ before after, kept before after → wider before after) :
    routine.Respects wider state := by
  induction routine generalizing state with
  | done value => trivial
  | get body inductionHypothesis => exact inductionHypothesis state respects
  | put after body inductionHypothesis =>
      exact ⟨wide state after respects.1, inductionHypothesis respects.2⟩
  | sleep span body inductionHypothesis =>
      exact fun found => inductionHypothesis () (respects found)

theorem Respects.bind {kept : σ → σ → Prop} {routine : Routine σ α} {next : α → Routine σ β}
    {state : σ} (first : routine.Respects kept state)
    (second : ∀ value found, (next value).Respects kept found) :
    (routine.bind next).Respects kept state := by
  induction routine generalizing state with
  | done value => exact second value state
  | get body inductionHypothesis => exact inductionHypothesis state first
  | put after body inductionHypothesis => exact ⟨first.1, inductionHypothesis first.2⟩
  | sleep span body inductionHypothesis =>
      intro found
      exact inductionHypothesis () (first found)

theorem Respects.rest {kept : σ → σ → Prop} {routine rest : Routine σ α} {state after : σ}
    {span : Duration} (respects : routine.Respects kept state)
    (waiting : routine.advance state = (.waiting span rest, after)) (found : σ) :
    rest.Respects kept found := by
  induction routine generalizing state with
  | done value =>
      obtain ⟨same, _⟩ := Prod.mk.inj waiting
      contradiction
  | get body inductionHypothesis => exact inductionHypothesis state respects waiting
  | put middle body inductionHypothesis => exact inductionHypothesis respects.2 waiting
  | sleep duration body =>
      obtain ⟨same, _⟩ := Prod.mk.inj waiting
      obtain ⟨rfl, rfl⟩ := Progress.waiting.inj same
      exact respects found

/-! ## Routines that end at once -/

/-- The routine ends at once with the value, and nothing is noted of what it does to the state. -/
structure EndsQuietly (note : σ → σ → List ν) (routine : Routine σ α) (state : σ) (value : α)
    (after : σ) : Prop where
  advance : routine.advance state = (.finished value, after)
  changes : routine.changes note state = []

namespace EndsQuietly

variable {routine : Routine σ α} {next : α → Routine σ β} {state middle after : σ} {value : α}
  {result : β}

theorem done : (Routine.done value).EndsQuietly note state value state :=
  ⟨rfl, rfl⟩

theorem look {view : σ → α} : (Routine.look view).EndsQuietly note state (view state) state :=
  ⟨rfl, rfl⟩

theorem modify {step : σ → σ} (quiet : note state (step state) = []) :
    (Routine.modify step).EndsQuietly note state () (step state) :=
  ⟨rfl, (List.append_nil _).trans quiet⟩

theorem change {step : σ → α × σ} (quiet : note state (step state).2 = []) :
    (Routine.change step).EndsQuietly note state (step state).1 (step state).2 :=
  ⟨rfl, (List.append_nil _).trans quiet⟩

theorem advance_bind (ends : routine.EndsQuietly note state value middle) :
    (routine.bind next).advance state = (next value).advance middle :=
  advance_bind_of_finished ends.advance

theorem changes_bind (ends : routine.EndsQuietly note state value middle) :
    (routine.bind next).changes note state = (next value).changes note middle := by
  rw [changes_bind_of_finished ends.advance, ends.changes, List.nil_append]

theorem bind (first : routine.EndsQuietly note state value middle)
    (second : (next value).EndsQuietly note middle result after) :
    (routine.bind next).EndsQuietly note state result after :=
  ⟨first.advance_bind.trans second.advance, first.changes_bind.trans second.changes⟩

end EndsQuietly

end Routine

end MessageRouting
