import MessageRouting.Duration

/-!
# Routines

A routine is a computation over a shared state that may suspend for some time.
What it does between two suspensions happens at once. Running a routine alone
gives its result, the state afterwards and the time it spent; advancing it to
its next suspension is what a scheduler does that runs several of them.
-/

namespace MessageRouting

/-- A computation over a state of type `σ` with a result of type `α`. It looks at the state,
replaces it, and suspends for positive times. -/
inductive Routine (σ : Type u) (α : Type v) where
  | done (value : α)
  | get (next : σ → Routine σ α)
  | put (state : σ) (next : Routine σ α)
  | sleep (span : Duration) (next : Unit → Routine σ α)

namespace Routine

/-- Continues a routine with what its result calls for. -/
def bind : Routine σ α → (α → Routine σ β) → Routine σ β
  | done value, next => next value
  | get body, next => get fun state => (body state).bind next
  | put state body, next => put state (body.bind next)
  | sleep span body, next => sleep span fun _ => (body ()).bind next

instance : Monad (Routine σ) where
  pure := done
  bind := bind

@[simp]
theorem bind_done (routine : Routine σ α) : routine.bind done = routine := by
  induction routine with
  | done => rfl
  | get body inductionHypothesis => simp [bind, inductionHypothesis]
  | put state body inductionHypothesis => simp [bind, inductionHypothesis]
  | sleep span body inductionHypothesis => simp [bind, inductionHypothesis]

theorem bind_assoc (routine : Routine σ α) (first : α → Routine σ β) (second : β → Routine σ γ) :
    (routine.bind first).bind second = routine.bind fun value => (first value).bind second := by
  induction routine with
  | done => rfl
  | get body inductionHypothesis => simp [bind, inductionHypothesis]
  | put state body inductionHypothesis => simp [bind, inductionHypothesis]
  | sleep span body inductionHypothesis => simp [bind, inductionHypothesis]

instance : LawfulMonad (Routine σ) :=
  LawfulMonad.mk' _ (fun routine => bind_done routine) (fun _ _ => rfl) bind_assoc

/-! ## Building blocks -/

def state : Routine σ σ :=
  get done

/-- What a function finds in the state. -/
def look (view : σ → α) : Routine σ α :=
  get fun state => done (view state)

def modify (change : σ → σ) : Routine σ Unit :=
  get fun state => put (change state) (done ())

def change (step : σ → α × σ) : Routine σ α :=
  get fun state => match step state with
    | (value, after) => put after (done value)

/-- Suspends for the given time; no time at all is no suspension. -/
def wait (span : Duration) : Routine σ Unit :=
  if span.isZero then done () else sleep span fun _ => done ()

def forEach (items : List α) (body : α → Routine σ Unit) : Routine σ Unit :=
  match items with
  | [] => done ()
  | item :: rest => (body item).bind fun _ => forEach rest body

/-! ## Running -/

def run : Routine σ α → σ → α × σ × Duration
  | done value, state => (value, state, ⟨0⟩)
  | get body, state => (body state).run state
  | put state body, _ => body.run state
  | sleep span body, state =>
      match (body ()).run state with
      | (value, after, slept) => (value, after, ⟨span.nanoseconds + slept.nanoseconds⟩)

/-- Where a routine stands that ran as far as it can without waiting. -/
inductive Progress (σ : Type u) (α : Type v) where
  | finished (value : α)
  | waiting (span : Duration) (rest : Routine σ α)

/-- Runs a routine up to its next suspension: where it stands then, and the state. -/
def advance : Routine σ α → σ → Progress σ α × σ
  | done value, state => (.finished value, state)
  | get body, state => (body state).advance state
  | put state body, _ => body.advance state
  | sleep span body, state => (.waiting span (body ()), state)

/-- The part of a routine up to its first suspension, as a routine of its own. Its result is the
result of the whole, or the part that is left, which begins with the suspension. -/
def untilSuspended : Routine σ α → Routine σ (α ⊕ Routine σ α)
  | done value => done (.inl value)
  | get body => get fun state => (body state).untilSuspended
  | put state body => put state body.untilSuspended
  | sleep span body => done (.inr (sleep span body))

end Routine

end MessageRouting
