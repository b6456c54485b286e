import MessageRouting.Proofs.Engine.Ensures
import MessageRouting.Proofs.Engine.Log
import MessageRouting.Proofs.Engine.Watched

/-!
# Runs side by side

Two routines are compared by running each of them alone, from states that need not be
the same but are related. They are paired if they end with related results, in states
that are related again; routines in sequence are paired if their parts are.
-/

namespace MessageRouting

universe u v

namespace Routine

variable {σ : Type u} {α β γ δ : Type v}

def Paired (states : σ → σ → Prop) (values : α → β → Prop) (left : Routine σ α)
    (right : Routine σ β) : Prop :=
  ∀ first second, states first second →
    values (left.run first).1 (right.run second).1 ∧
      states (left.run first).2.1 (right.run second).2.1

variable {states : σ → σ → Prop} {values : α → β → Prop} {further : γ → δ → Prop}
  {left : Routine σ α} {right : Routine σ β}

theorem paired_pure {one : α} {other : β} (related : values one other) :
    Paired states values (pure one : Routine σ α) (pure other) :=
  fun _ _ together => ⟨related, together⟩

theorem paired_bind {next : α → Routine σ γ} {following : β → Routine σ δ}
    (begin : Paired states values left right)
    (rest : ∀ one other, values one other → Paired states further (next one) (following other)) :
    Paired states further (left >>= next) (right >>= following) := by
  intro first second together
  obtain ⟨related, after⟩ := begin first second together
  obtain ⟨leftValue, leftState⟩ := run_bind left next first
  obtain ⟨rightValue, rightState⟩ := run_bind right following second
  change further ((left.bind next).run first).1 ((right.bind following).run second).1 ∧
    states ((left.bind next).run first).2.1 ((right.bind following).run second).2.1
  rw [leftValue, leftState, rightValue, rightState]
  exact rest _ _ related _ _ after

theorem paired_look {view : σ → α} {sight : σ → β}
    (related : ∀ first second, states first second → values (view first) (sight second)) :
    Paired states values (look view) (look sight) :=
  fun first second together => ⟨related first second together, together⟩

theorem paired_change {step : σ → α × σ} {move : σ → β × σ}
    (related : ∀ first second, states first second →
      values (step first).1 (move second).1 ∧ states (step first).2 (move second).2) :
    Paired states values (change step) (change move) :=
  related

theorem paired_modify {alter move : σ → σ}
    (related : ∀ first second, states first second → states (alter first) (move second)) :
    Paired states Eq (modify alter) (modify move) :=
  fun first second together => ⟨rfl, related first second together⟩

theorem paired_wait (span : Duration) : Paired states Eq (wait span) (wait span) := by
  intro first second together
  unfold wait
  cases span.isZero <;> exact ⟨rfl, together⟩

end Routine

namespace Logged

variable {ε κ : Type v} {σ : Type u} {α β γ δ : Type v}

def after (logged : Logged ε σ α) (state : σ) : σ :=
  (logged.routine.run state).2.1

/-! ## The log of routines in sequence -/

theorem bind_pure (logged : Logged ε σ α) : logged >>= pure = logged := by
  have nothing : (fun outcome : List ε × α =>
      (Routine.done (outcome.1 ++ [], outcome.2) : Routine σ (List ε × α))) = Routine.done := by
    funext outcome
    rw [List.append_nil]
  change Logged.mk (logged.routine.bind fun outcome =>
    Routine.done (outcome.1 ++ [], outcome.2)) = logged
  rw [nothing, Routine.bind_done]

theorem bind_assoc (logged : Logged ε σ α) (next : α → Logged ε σ β) (last : β → Logged ε σ γ) :
    logged >>= next >>= last = logged >>= fun value => next value >>= last := by
  change bind (bind logged next) last = bind logged fun value => bind (next value) last
  simp only [bind, Routine.bind_assoc, Routine.bind, List.append_assoc]

@[simp]
theorem alone_pure (value : α) (state : σ) : (pure value : Logged ε σ α).alone state = ([], value) :=
  rfl

theorem run_of_bind (logged : Logged ε σ α) (next : α → Logged ε σ β) (state : σ) :
    (logged >>= next).alone state =
        ((logged.alone state).1 ++ ((next (logged.alone state).2).alone (logged.after state)).1,
          ((next (logged.alone state).2).alone (logged.after state)).2) ∧
      (logged >>= next).after state = (next (logged.alone state).2).after (logged.after state) := by
  obtain ⟨sameValue, sameState⟩ := Routine.run_bind logged.routine
    (fun early => (next early.2).routine.bind fun later => .done (early.1 ++ later.1, later.2)) state
  have view := Routine.run_bind_done (next (logged.alone state).2).routine
    (fun later => ((logged.alone state).1 ++ later.1, later.2)) (logged.after state)
  change ((bind logged next).routine.run state).1 = _ ∧
    ((bind logged next).routine.run state).2.1 = _
  rw [bind, sameValue, sameState]
  exact ⟨congrArg Prod.fst view, congrArg (fun ended => ended.2.1) view⟩

theorem alone_bind (logged : Logged ε σ α) (next : α → Logged ε σ β) (state : σ) :
    (logged >>= next).alone state =
      ((logged.alone state).1 ++ ((next (logged.alone state).2).alone (logged.after state)).1,
        ((next (logged.alone state).2).alone (logged.after state)).2) :=
  (run_of_bind logged next state).1

theorem after_bind (logged : Logged ε σ α) (next : α → Logged ε σ β) (state : σ) :
    (logged >>= next).after state = (next (logged.alone state).2).after (logged.after state) :=
  (run_of_bind logged next state).2

theorem run_of_lift (routine : Routine σ α) (state : σ) :
    (lift routine : Logged ε σ α).alone state = ([], (routine.run state).1) ∧
      (lift routine : Logged ε σ α).after state = (routine.run state).2.1 := by
  have view := Routine.run_bind_done routine (fun value => (([] : List ε), value)) state
  exact ⟨congrArg Prod.fst view, congrArg (fun ended => ended.2.1) view⟩

theorem run_of_reshape (summary : List ε → α → List κ) (logged : Logged ε σ α) (state : σ) :
    (logged.reshape summary).alone state =
        (summary (logged.alone state).1 (logged.alone state).2, (logged.alone state).2) ∧
      (logged.reshape summary).after state = logged.after state := by
  have view := Routine.run_bind_done logged.routine
    (fun outcome => (summary outcome.1 outcome.2, outcome.2)) state
  exact ⟨congrArg Prod.fst view, congrArg (fun ended => ended.2.1) view⟩

/-! ## Pairs -/

/-- From related states, the routines end with related values in related states, and what is seen
of their logs is the same. -/
def Paired (states : σ → σ → Prop) (view : ε → κ) (values : α → β → Prop) (left : Logged ε σ α)
    (right : Logged ε σ β) : Prop :=
  ∀ first second, states first second →
    (left.alone first).1.map view = (right.alone second).1.map view ∧
      values (left.alone first).2 (right.alone second).2 ∧
      states (left.after first) (right.after second)

variable {states : σ → σ → Prop} {view : ε → κ} {values : α → β → Prop} {further : γ → δ → Prop}
  {left : Logged ε σ α} {right : Logged ε σ β}

theorem paired_pure {one : α} {other : β} (related : values one other) :
    Paired states view values (pure one : Logged ε σ α) (pure other) :=
  fun _ _ together => ⟨rfl, related, together⟩

theorem paired_log {entry written : ε} (same : view entry = view written) :
    Paired states view Eq (log entry : Logged ε σ PUnit) (log written) :=
  fun _ _ together => ⟨congrArg (fun shown => [shown]) same, rfl, together⟩

theorem paired_lift {routine : Routine σ α} {other : Routine σ β}
    (paired : routine.Paired states values other) :
    Paired states view values (lift routine : Logged ε σ α) (lift other) := by
  intro first second together
  obtain ⟨related, after⟩ := paired first second together
  obtain ⟨leftLog, leftState⟩ := run_of_lift (ε := ε) routine first
  obtain ⟨rightLog, rightState⟩ := run_of_lift (ε := ε) other second
  rw [leftLog, leftState, rightLog, rightState]
  exact ⟨rfl, related, after⟩

theorem paired_bind {next : α → Logged ε σ γ} {following : β → Logged ε σ δ}
    (begin : Paired states view values left right)
    (rest : ∀ one other, values one other → Paired states view further (next one) (following other)) :
    Paired states view further (left >>= next) (right >>= following) := by
  intro first second together
  obtain ⟨shown, related, after⟩ := begin first second together
  obtain ⟨shownLater, relatedLater, afterLater⟩ := rest _ _ related _ _ after
  rw [alone_bind, alone_bind, after_bind, after_bind]
  refine ⟨?_, relatedLater, afterLater⟩
  rw [List.map_append, List.map_append, shown, shownLater]

theorem paired_ite {condition : Prop} [Decidable condition] {one another : Logged ε σ α}
    {other following : Logged ε σ β} (holds : Paired states view values one other)
    (fails : Paired states view values another following) :
    Paired states view values (if condition then one else another)
      (if condition then other else following) := by
  by_cases decided : condition
  · rw [if_pos decided, if_pos decided]
    exact holds
  · rw [if_neg decided, if_neg decided]
    exact fails

end Logged

namespace Watched

variable {ε κ : Type}

/-- What an exchange and a log become when a watched step runs alone. -/
theorem run_of_invoke (watched : Watched ε) (exchange : Exchange) (broker : Broker) :
    (watched.invoke exchange).alone broker =
        (((watched.observe exchange).alone broker).1,
          ((watched.observe exchange).alone broker).2.1.recording
            ((watched.observe exchange).alone broker).2.2) ∧
      (watched.invoke exchange).after broker = (watched.observe exchange).after broker := by
  obtain ⟨whole, ended⟩ := Logged.run_of_bind (watched.observe exchange)
    (fun found => pure (found.1.recording found.2)) broker
  refine ⟨?_, ended⟩
  rw [Logged.alone_pure, List.append_nil] at whole
  exact whole

/-- A step that reports no failure of its own does what is watched. -/
theorem invoke_silent {name : String} {body : Exchange → Routine Broker Exchange}
    {watch : Exchange → Logged ε Broker Exchange}
    {faithful : ∀ exchange, (watch exchange).result = body exchange} (exchange : Exchange) :
    (silent name body watch faithful).invoke exchange = watch exchange := by
  change ((watch exchange >>= fun after => pure (after, none)) >>= fun ended =>
    pure (ended.1.recording ended.2)) = watch exchange
  rw [Logged.bind_assoc]
  simp only [Logged.pure_bind]
  exact Logged.bind_pure (watch exchange)

end Watched

end MessageRouting
