import MessageRouting.Proofs.Engine.Ensures
import MessageRouting.Proofs.Engine.Log

/-!
# Logs that can be replayed

If every entry of a log says what it did to the state and how long it took, then the
whole log says what a run did: replaying it, entry by entry, leads to the same state
in the same time.
-/

namespace MessageRouting

universe u v w

namespace Logged

variable {ε : Type v} {σ : Type u} {α β : Type v}

/-- Runs a routine and logs it, with its result. -/
def act (routine : Routine σ α) (entry : α → ε) : Logged ε σ α :=
  ⟨routine.bind fun value => .done ([entry value], value)⟩

@[simp]
theorem result_act (routine : Routine σ α) (entry : α → ε) :
    (act routine entry).result = routine := by
  simp only [result, act, Routine.bind_assoc, Routine.bind]
  exact Routine.bind_done routine

@[simp]
theorem gives_act {routine : Routine σ α} {entry : α → ε} {entries : List ε} {value : α} :
    (act routine entry).Gives entries value ↔ entries = [entry value] ∧ routine.Gives value := by
  constructor
  · intro given
    obtain ⟨found, ended, same⟩ := Routine.gives_bind.mp given
    obtain ⟨logged, rfl⟩ := Prod.mk.inj (Routine.gives_done.mp same)
    exact ⟨logged, ended⟩
  · rintro ⟨rfl, ended⟩
    exact Routine.gives_bind.mpr ⟨value, ended, Routine.gives_done.mpr rfl⟩

end Logged

/-- The state after the entries and the time that they took, in nanoseconds, given what each entry
does to a state. -/
def replay {ε : Type v} {σ : Type u} (effect : ε → σ → σ × Duration) : List ε → σ → σ × Nat
  | [], state => (state, 0)
  | entry :: rest, state =>
      ((replay effect rest (effect entry state).1).1,
        (effect entry state).2.nanoseconds + (replay effect rest (effect entry state).1).2)

section

variable {ε : Type v} {σ : Type u} (effect : ε → σ → σ × Duration)

theorem replay_append (first second : List ε) (state : σ) :
    replay effect (first ++ second) state =
      ((replay effect second (replay effect first state).1).1,
        (replay effect first state).2 + (replay effect second (replay effect first state).1).2) := by
  induction first generalizing state with
  | nil =>
      rw [List.nil_append, replay, Nat.zero_add]
  | cons entry rest inductionHypothesis =>
      rw [List.cons_append, replay, replay, inductionHypothesis, Nat.add_assoc]

end

namespace Logged

variable {ε : Type v} {σ : Type u} {α β : Type v} {effect : ε → σ → σ × Duration}

/-- Run alone, the routine ends in the state to which its log leads, and takes as long. -/
def Explained (effect : ε → σ → σ × Duration) (logged : Logged ε σ α) : Prop :=
  ∀ state,
    ((logged.routine.run state).2.1, (logged.routine.run state).2.2.nanoseconds) =
      replay effect (logged.alone state).1 state

theorem explained_pure (value : α) : Explained effect (pure value : Logged ε σ α) :=
  fun _ => rfl

theorem explained_log {entry : ε} (idle : ∀ state, effect entry state = (state, ⟨0⟩)) :
    Explained effect (log entry : Logged ε σ PUnit) := by
  intro state
  have nothing : replay effect [entry] state =
      ((effect entry state).1, (effect entry state).2.nanoseconds) :=
    rfl
  change (state, 0) = replay effect [entry] state
  rw [nothing, idle]

/-- Looking at the state needs no entry. -/
theorem explained_look (view : σ → α) : Explained effect (lift (Routine.look view)) :=
  fun _ => rfl

theorem explained_act {routine : Routine σ α} {entry : α → ε}
    (told : ∀ state, effect (entry (routine.run state).1) state = (routine.run state).2) :
    Explained effect (act routine entry) := by
  intro state
  have ran := Routine.run_bind_done routine (fun value => ([entry value], value)) state
  have whole : (act routine entry).routine.run state =
      (([entry (routine.run state).1], (routine.run state).1), (routine.run state).2) := ran
  rw [Logged.alone, whole, replay, replay, told, Nat.add_zero]

theorem explained_bind {logged : Logged ε σ α} {next : α → Logged ε σ β}
    (first : Explained effect logged) (second : ∀ value, Explained effect (next value)) :
    Explained effect (logged >>= next) := by
  intro state
  let between := (logged.routine.run state).2.1
  let value := (logged.routine.run state).1.2
  let before := (logged.routine.run state).1.1
  have start := first state
  have rest := second value between
  have view := Routine.run_bind_done (next value).routine
    (fun later => (before ++ later.1, later.2)) between
  obtain ⟨sameValue, sameState⟩ := Routine.run_bind logged.routine
    (fun early => (next early.2).routine.bind fun later => .done (early.1 ++ later.1, later.2)) state
  have sameTime := Routine.slept_bind logged.routine
    (fun early => (next early.2).routine.bind fun later => .done (early.1 ++ later.1, later.2)) state
  rw [view] at sameValue sameState sameTime
  change (((bind logged next).routine.run state).2.1,
    ((bind logged next).routine.run state).2.2.nanoseconds) =
      replay effect ((bind logged next).routine.run state).1.1 state
  rw [bind, sameValue, sameState, sameTime, replay_append]
  have startState : (replay effect before state).1 = between := (congrArg Prod.fst start).symm
  have startTime : (replay effect before state).2 =
    (logged.routine.run state).2.2.nanoseconds := (congrArg Prod.snd start).symm
  rw [startState, startTime]
  obtain ⟨restState, restTime⟩ := Prod.mk.inj rest
  rw [restState, restTime]
  rfl

theorem explained_ite {condition : Prop} [Decidable condition] {first second : Logged ε σ α}
    (holds : Explained effect first) (fails : Explained effect second) :
    Explained effect (if condition then first else second) := by
  split
  · exact holds
  · exact fails

/-- The routine without its log, run alone, ends in the state to which the log leads. -/
theorem run_of_explained {logged : Logged ε σ α} (explained : Explained effect logged) (state : σ) :
    ((logged.result.run state).2.1, (logged.result.run state).2.2.nanoseconds) =
      replay effect (logged.alone state).1 state := by
  have forgotten := Routine.run_bind_done logged.routine Prod.snd state
  rw [result, forgotten]
  exact explained state

end Logged

end MessageRouting
