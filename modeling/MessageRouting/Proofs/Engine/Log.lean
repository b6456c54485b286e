import MessageRouting.Proofs.Engine.Results

/-!
# Routines that keep a log

To say what a routine does on its way, it is written once more so that it logs
what it does. Forgetting the log gives the routine itself back, so the logs are
those of the runs of the routine.
-/

namespace MessageRouting

universe u v

/-- A routine with a log, oldest entry first. -/
structure Logged (ε : Type v) (σ : Type u) (α : Type v) where
  routine : Routine σ (List ε × α)

namespace Logged

variable {ε : Type v} {σ : Type u} {α β : Type v}

/-- Runs a routine that logs nothing. -/
def lift (routine : Routine σ α) : Logged ε σ α :=
  ⟨routine.bind fun value => .done ([], value)⟩

def log (entry : ε) : Logged ε σ PUnit :=
  ⟨.done ([entry], ⟨⟩)⟩

/-- Continues with what a result calls for, with the log of the rest behind the log so far. -/
def bind (logged : Logged ε σ α) (next : α → Logged ε σ β) : Logged ε σ β :=
  ⟨logged.routine.bind fun first =>
    (next first.2).routine.bind fun second => .done (first.1 ++ second.1, second.2)⟩

instance : Monad (Logged ε σ) where
  pure value := ⟨.done ([], value)⟩
  bind := bind

@[simp]
theorem pure_bind (value : α) (next : α → Logged ε σ β) : pure value >>= next = next value := by
  change bind _ _ = Logged.mk (next value).routine
  simp only [bind, Pure.pure, Routine.bind, List.nil_append]
  exact congrArg Logged.mk (Routine.bind_done (next value).routine)

/-- The routine without its log. -/
def result (logged : Logged ε σ α) : Routine σ α :=
  logged.routine.bind fun outcome => .done outcome.2

/-- The routine can end with the value and leave the log. -/
def Gives (logged : Logged ε σ α) (entries : List ε) (value : α) : Prop :=
  logged.routine.Gives (entries, value)

/-- Replaces the log of a routine by what it and the result call for. -/
def reshape {δ : Type v} (summary : List ε → α → List δ) (logged : Logged ε σ α) : Logged δ σ α :=
  ⟨logged.routine.bind fun outcome => .done (summary outcome.1 outcome.2, outcome.2)⟩

def alone (logged : Logged ε σ α) (state : σ) : List ε × α :=
  (logged.routine.run state).1

theorem gives_alone (logged : Logged ε σ α) (state : σ) :
    logged.Gives (logged.alone state).1 (logged.alone state).2 :=
  Routine.gives_run logged.routine state

/-- Run alone, the routine gives the same result with its log as without. -/
theorem run_result (logged : Logged ε σ α) (state : σ) :
    (logged.result.run state).1 = (logged.alone state).2 := by
  have forgotten : ∀ (routine : Routine σ (List ε × α)) (state : σ),
      ((routine.bind fun outcome => .done outcome.2).run state).1 = (routine.run state).1.2 := by
    intro routine
    induction routine with
    | done => exact fun _ => rfl
    | get body inductionHypothesis => exact fun state => inductionHypothesis state state
    | put after body inductionHypothesis => exact fun _ => inductionHypothesis after
    | sleep span body inductionHypothesis => exact fun state => inductionHypothesis () state
  exact forgotten logged.routine state

/-! ## Forgetting the log -/

@[simp]
theorem result_pure (value : α) : (pure value : Logged ε σ α).result = pure value :=
  rfl

@[simp]
theorem result_log (entry : ε) : (log entry : Logged ε σ PUnit).result = pure ⟨⟩ :=
  rfl

@[simp]
theorem result_lift (routine : Routine σ α) : (lift routine : Logged ε σ α).result = routine := by
  simp only [result, lift, Routine.bind_assoc, Routine.bind]
  exact Routine.bind_done routine

@[simp]
theorem result_bind (logged : Logged ε σ α) (next : α → Logged ε σ β) :
    (logged >>= next).result = logged.result >>= fun value => (next value).result := by
  change (bind logged next).result = logged.result.bind fun value => (next value).result
  simp only [result, bind, Routine.bind_assoc, Routine.bind]

@[simp]
theorem result_ite {condition : Prop} [Decidable condition] (first second : Logged ε σ α) :
    (if condition then first else second).result =
      if condition then first.result else second.result :=
  apply_ite result condition first second

@[simp]
theorem result_reshape {δ : Type v} (summary : List ε → α → List δ) (logged : Logged ε σ α) :
    (logged.reshape summary).result = logged.result := by
  simp only [result, reshape, Routine.bind_assoc, Routine.bind]

/-! ## Logs and results -/

@[simp]
theorem gives_pure {value result : α} {entries : List ε} :
    (pure value : Logged ε σ α).Gives entries result ↔ entries = [] ∧ result = value := by
  change (Routine.done ([], value) : Routine σ (List ε × α)).Gives (entries, result) ↔ _
  simp

@[simp]
theorem gives_log {entry : ε} {entries : List ε} {result : PUnit} :
    (log entry : Logged ε σ PUnit).Gives entries result ↔ entries = [entry] := by
  simp [Gives, log]

@[simp]
theorem gives_lift {routine : Routine σ α} {entries : List ε} {result : α} :
    (lift routine : Logged ε σ α).Gives entries result ↔ entries = [] ∧ routine.Gives result := by
  simp only [Gives, lift, Routine.gives_bind, Routine.gives_done, Prod.mk.injEq]
  constructor
  · rintro ⟨value, given, rfl, rfl⟩
    exact ⟨rfl, given⟩
  · rintro ⟨rfl, given⟩
    exact ⟨result, given, rfl, rfl⟩

theorem gives_bind {logged : Logged ε σ α} {next : α → Logged ε σ β} {entries : List ε}
    {result : β} :
    (logged >>= next).Gives entries result ↔
      ∃ before value after,
        logged.Gives before value ∧ (next value).Gives after result ∧
          entries = before ++ after := by
  change (bind logged next).Gives entries result ↔ _
  simp only [Gives, bind, Routine.gives_bind, Routine.gives_done, Prod.mk.injEq]
  constructor
  · rintro ⟨⟨before, value⟩, given, ⟨after, last⟩, rest, rfl, rfl⟩
    exact ⟨before, value, after, given, rest, rfl⟩
  · rintro ⟨before, value, after, given, rest, rfl⟩
    exact ⟨(before, value), given, (after, result), rest, rfl, rfl⟩

@[simp]
theorem gives_lift_bind {routine : Routine σ α} {next : α → Logged ε σ β} {entries : List ε}
    {result : β} :
    (lift routine >>= next).Gives entries result ↔
      ∃ value, routine.Gives value ∧ (next value).Gives entries result := by
  rw [gives_bind]
  constructor
  · rintro ⟨before, value, after, given, rest, rfl⟩
    obtain ⟨rfl, ended⟩ := gives_lift.mp given
    exact ⟨value, ended, rest⟩
  · rintro ⟨value, given, rest⟩
    exact ⟨[], value, entries, gives_lift.mpr ⟨rfl, given⟩, rest, rfl⟩

@[simp]
theorem gives_log_bind {entry : ε} {next : PUnit → Logged ε σ β} {entries : List ε} {result : β} :
    (log entry >>= next).Gives entries result ↔
      ∃ rest, (next ⟨⟩).Gives rest result ∧ entries = entry :: rest := by
  rw [gives_bind]
  constructor
  · rintro ⟨before, _, rest, given, ended, rfl⟩
    obtain rfl := gives_log.mp given
    exact ⟨rest, ended, rfl⟩
  · rintro ⟨rest, ended, rfl⟩
    exact ⟨[entry], ⟨⟩, rest, gives_log.mpr rfl, ended, rfl⟩

@[simp]
theorem gives_reshape {δ : Type v} {summary : List ε → α → List δ} {logged : Logged ε σ α}
    {entries : List δ} {result : α} :
    (logged.reshape summary).Gives entries result ↔
      ∃ own, logged.Gives own result ∧ entries = summary own result := by
  simp only [Gives, reshape, Routine.gives_bind, Routine.gives_done, Prod.mk.injEq]
  constructor
  · rintro ⟨⟨own, value⟩, given, rfl, rfl⟩
    exact ⟨own, given, rfl⟩
  · rintro ⟨own, given, rfl⟩
    exact ⟨(own, result), given, rfl, rfl⟩

/-- The routine without its log can give exactly the values that come with some log. -/
theorem result_gives {logged : Logged ε σ α} {value : α} :
    logged.result.Gives value ↔ ∃ entries, logged.Gives entries value := by
  simp only [result, Gives, Routine.gives_bind, Routine.gives_done]
  constructor
  · rintro ⟨⟨entries, found⟩, given, rfl⟩
    exact ⟨entries, given⟩
  · rintro ⟨entries, given⟩
    exact ⟨(entries, value), given, rfl⟩

end Logged

end MessageRouting
