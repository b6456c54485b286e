import Mathlib.Data.List.Forall2
import MessageRouting.Proofs.Engine.Paired
import MessageRouting.Proofs.Exchange.Bookkeeping
import MessageRouting.Proofs.Route.Watch

/-!
# Pipelines within pipelines

A pipeline that is a step of another one runs as if its own steps stood in its place. What
a run of a pipeline calls are its first steps, up to the one that ends it.
-/

namespace MessageRouting

theorem Exchange.inbound_promote (exchange : Exchange) :
    exchange.promote.inbound = exchange.outbound.getD exchange.inbound := by
  unfold promote
  cases exchange.outbound <;> rfl

namespace Watched

variable {ε : Type}

/-! ## Steps in front of others -/

/-- A run that is stopped at its start does not go on behind its steps either. -/
theorem runSteps_stopped_bind (promoting : Bool) (first : Watched ε)
    (others following : List (Watched ε)) {exchange : Exchange}
    (stopped : exchange.flag .routeStop = true) :
    (runSteps promoting (first :: others) exchange >>= fun after =>
      if after.mayContinue then runSteps true following after else pure after) = pure exchange := by
  rw [runSteps_stopped _ _ stopped, Logged.pure_bind, runSteps_stopped _ _ stopped, ite_self]

/-- Steps behind others run if the last one of those did not end the run. -/
theorem runSteps_append (promoting : Bool) (first : Watched ε) (others following : List (Watched ε))
    (exchange : Exchange) :
    runSteps promoting (first :: (others ++ following)) exchange =
      runSteps promoting (first :: others) exchange >>= fun after =>
        if after.mayContinue then runSteps true following after else pure after := by
  induction others generalizing promoting first exchange with
  | nil =>
      by_cases stop : exchange.flag .routeStop = true
      · rw [runSteps_stopped_bind promoting first _ following stop, runSteps_stopped _ _ stop]
      · rw [runSteps, runSteps, if_neg stop, if_neg stop, Logged.bind_assoc]
        refine congrArg (first.invoke _ >>= ·) (funext fun after => ?_)
        rw [runSteps, ite_self, Logged.pure_bind, List.nil_append]
  | cons second others inductionHypothesis =>
      by_cases stop : exchange.flag .routeStop = true
      · rw [runSteps_stopped_bind promoting first _ following stop, runSteps_stopped _ _ stop]
      · rw [runSteps, runSteps, if_neg stop, if_neg stop, Logged.bind_assoc]
        refine congrArg (first.invoke _ >>= ·) (funext fun after => ?_)
        by_cases further : after.mayContinue = true
        · rw [if_pos further, if_pos further, List.cons_append]
          exact inductionHypothesis true second after
        · rw [if_neg further, if_neg further, Logged.pure_bind, if_neg further]

/-- A pipeline in front of other steps is its own steps in front of them. -/
theorem runSteps_pipeline_cons (promoting : Bool) (name : String) (first : Watched ε)
    (others following : List (Watched ε)) (exchange : Exchange) :
    runSteps promoting (pipeline name (first :: others) :: following) exchange =
      runSteps promoting (first :: (others ++ following)) exchange := by
  rw [runSteps_append]
  by_cases stop : exchange.flag .routeStop = true
  · rw [runSteps_stopped_bind promoting first others following stop, runSteps_stopped _ _ stop]
  · rw [runSteps, if_neg stop, pipeline, invoke_silent,
      runSteps_ready promoting first others (eq_false_of_ne_true stop)]

/-- A pipeline among other steps is its own steps among them. -/
theorem runSteps_pipeline (promoting : Bool) (name : String) (front : List (Watched ε))
    {inner : List (Watched ε)} (nonempty : inner ≠ []) (back : List (Watched ε))
    (exchange : Exchange) :
    runSteps promoting (front ++ pipeline name inner :: back) exchange =
      runSteps promoting (front ++ (inner ++ back)) exchange := by
  induction front generalizing promoting exchange with
  | nil =>
      obtain ⟨first, others, rfl⟩ := List.exists_cons_of_ne_nil nonempty
      exact runSteps_pipeline_cons promoting name first others back exchange
  | cons step rest inductionHypothesis =>
      rw [List.cons_append, List.cons_append, runSteps, runSteps]
      by_cases stop : exchange.flag .routeStop = true
      · rw [if_pos stop, if_pos stop]
      · rw [if_neg stop, if_neg stop]
        refine congrArg (step.invoke _ >>= ·) (funext fun after => ?_)
        rw [inductionHypothesis]

/-! ## The calls of a run -/

def numbered (position : Nat) (steps : List Processor) : List (Watched StepRun) :=
  (steps.zipIdx position).map fun placed => .plain placed.2 placed.1

theorem numbered_append (position : Nat) (first second : List Processor) :
    numbered position (first ++ second) =
      numbered position first ++ numbered (position + first.length) second := by
  unfold numbered
  rw [List.zipIdx_append, List.map_append]

theorem map_numbered (position : Nat) (steps : List Processor) :
    (numbered position steps).map processor = steps := by
  unfold numbered
  rw [List.map_map]
  exact List.zipIdx_map_fst position steps

theorem processor_pipeline (name : String) (steps : List (Watched ε)) :
    (pipeline name steps).processor = .pipeline name (steps.map processor) :=
  rfl

theorem of_gives_plain {position : Nat} {step : Processor} {exchange after : Exchange}
    {runs : List StepRun} (given : ((plain position step).invoke exchange).Gives runs after) :
    runs = [⟨position, [⟨exchange, after⟩], none⟩] ∧ (step.invoke exchange).Gives after := by
  have outcome : (step.invoke exchange).Gives after := by
    have unlogged := (plain position step).result_invoke exchange
    change _ = step.invoke exchange at unlogged
    rw [← unlogged]
    exact Logged.result_gives.mpr ⟨runs, given⟩
  obtain ⟨_, _, _, observed, recorded, rfl⟩ := Logged.gives_bind.mp given
  obtain ⟨rfl, rfl⟩ := Logged.gives_pure.mp recorded
  obtain ⟨ended, _, logged⟩ := Logged.gives_lift_bind.mp observed
  obtain ⟨_, returned, rfl⟩ := Logged.gives_log_bind.mp logged
  obtain ⟨rfl, rfl⟩ := Logged.gives_pure.mp returned
  exact ⟨rfl, outcome⟩

end Watched

def StepRun.ofCalls (position : Nat) (calls : List Visit) : List StepRun :=
  (calls.zipIdx position).map fun placed => ⟨placed.2, [placed.1], none⟩

/-- How steps run on an exchange: their calls, and the exchange afterwards. -/
structure Conducted (promoting : Bool) (steps : List Processor) (exchange : Exchange)
    (calls : List Visit) (after : Exchange) : Prop where
  called : List.Forall₂ (fun step call => (step.invoke call.before).Gives call.after)
    (steps.take calls.length) calls
  begun : calls = [] ↔ steps = [] ∨ exchange.flag .routeStop = true
  first : ∀ call, calls.head? = some call →
    call.before = if promoting then exchange.promote else exchange
  further : ∀ (place : Nat) (call : Visit), calls[place]? = some call →
    (place + 1 < calls.length ↔
      place + 1 < steps.length ∧ call.after.isFailed = false ∧
        call.after.isRollbackOnly = false ∧ call.after.flag .errorHandlerHandled = false ∧
        call.after.flag .routeStop = false)
  next : ∀ (place : Nat) (call following : Visit), calls[place]? = some call →
    calls[place + 1]? = some following →
    following.before = call.after.promote ∧
      following.before.inbound = call.after.outbound.getD call.after.inbound
  ended : after = (calls.getLast?.map Visit.after).getD exchange

namespace Conducted

variable {promoting : Bool} {step : Processor} {steps others : List Processor}
  {exchange between after : Exchange} {later : List Visit}

theorem of_nothing (nothing : steps = [] ∨ exchange.flag .routeStop = true) :
    Conducted promoting steps exchange [] exchange where
  called := .nil
  begun := ⟨fun _ => nothing, fun _ => rfl⟩
  first _ impossible := absurd impossible (by simp)
  further _ _ impossible := absurd impossible (by simp)
  next _ _ _ impossible := absurd impossible (by simp)
  ended := rfl

/-- A step ends the run, or the others behind it run. -/
theorem cons (starts : exchange.flag .routeStop = false)
    (given : (step.invoke (if promoting then exchange.promote else exchange)).Gives between)
    (rest : between.mayContinue = false ∧ later = [] ∧ after = between ∨
      between.mayContinue = true ∧ Conducted true others between later after) :
    Conducted promoting (step :: others) exchange
      (⟨if promoting then exchange.promote else exchange, between⟩ :: later) after where
  called := by
    refine List.Forall₂.cons given ?_
    rcases rest with ⟨_, rfl, _⟩ | ⟨_, conducted⟩
    · exact .nil
    · exact conducted.called
  begun := by
    refine iff_of_false (List.cons_ne_nil _ later) ?_
    rintro (nothing | stop)
    · exact List.cons_ne_nil step others nothing
    · rw [starts] at stop
      exact Bool.false_ne_true stop
  first := by
    rintro call ⟨rfl⟩
    rfl
  further := by
    intro place call found
    cases place with
    | zero =>
        obtain rfl := Option.some.inj found
        rcases rest with ⟨stopped, rfl, _⟩ | ⟨continues, conducted⟩
        · refine iff_of_false (Nat.lt_irrefl 1) ?_
          rintro ⟨_, succeeded, unmarked, unhandled, _⟩
          rw [Exchange.mayContinue_iff.mpr ⟨succeeded, unmarked, unhandled⟩] at stopped
          exact Bool.false_ne_true stopped.symm
        · obtain ⟨succeeded, unmarked, unhandled⟩ := Exchange.mayContinue_iff.mp continues
          have begun : 0 < later.length ↔ 0 < others.length ∧ between.flag .routeStop = false := by
            rw [List.length_pos_iff, List.length_pos_iff, ← Bool.not_eq_true, ← not_or]
            exact not_congr conducted.begun
          constructor
          · intro more
            obtain ⟨many, going⟩ := begun.mp (Nat.lt_of_succ_lt_succ more)
            exact ⟨Nat.succ_lt_succ many, succeeded, unmarked, unhandled, going⟩
          · rintro ⟨many, _, _, _, going⟩
            exact Nat.succ_lt_succ (begun.mpr ⟨Nat.lt_of_succ_lt_succ many, going⟩)
    | succ place =>
        rcases rest with ⟨_, rfl, _⟩ | ⟨_, conducted⟩
        · contradiction
        · have further := conducted.further place call found
          rw [List.length_cons, List.length_cons, Nat.add_lt_add_iff_right,
            Nat.add_lt_add_iff_right]
          exact further
  next := by
    intro place call following found after
    rcases rest with ⟨_, rfl, _⟩ | ⟨_, conducted⟩
    · contradiction
    · cases place with
      | zero =>
          obtain rfl := Option.some.inj found
          have entered := conducted.first following (List.head?_eq_getElem?.trans after)
          rw [if_pos rfl] at entered
          exact ⟨entered, entered ▸ between.inbound_promote⟩
      | succ place => exact conducted.next place call following found after
  ended := by
    rcases rest with ⟨_, rfl, same⟩ | ⟨_, conducted⟩
    · exact same
    · have last := conducted.ended
      cases later with
      | nil => exact last
      | cons second others => exact last

end Conducted

namespace Watched

/-- Whatever steps do, a run of them is conducted as their calls say. -/
theorem conducted_of_runSteps {promoting : Bool} {position : Nat} {steps : List Processor}
    {exchange after : Exchange} {runs : List StepRun}
    (given : (runSteps promoting (numbered position steps) exchange).Gives runs after) :
    ∃ calls, runs = StepRun.ofCalls position calls ∧
      Conducted promoting steps exchange calls after := by
  induction steps generalizing promoting position exchange runs with
  | nil =>
      obtain ⟨rfl, rfl⟩ := Logged.gives_pure.mp given
      exact ⟨[], rfl, .of_nothing (.inl rfl)⟩
  | cons step others inductionHypothesis =>
      have ran : (runSteps promoting (.plain position step :: numbered (position + 1) others)
        exchange).Gives runs after := given
      by_cases stop : exchange.flag .routeStop = true
      · rw [runSteps_stopped _ _ stop] at ran
        obtain ⟨rfl, rfl⟩ := Logged.gives_pure.mp ran
        exact ⟨[], rfl, .of_nothing (.inr stop)⟩
      · have starts := eq_false_of_ne_true stop
        rcases cases_of_runSteps ran with ⟨stopped, _⟩ | ⟨own, between, rest, called, rfl, followed⟩
        · exact absurd stopped stop
        · obtain ⟨rfl, own⟩ := of_gives_plain called
          rcases followed with ⟨ended, rfl, rfl⟩ | ⟨continues, ran⟩
          · exact ⟨[⟨_, after⟩], rfl, .cons starts own (.inl ⟨ended, rfl, rfl⟩)⟩
          · obtain ⟨later, rfl, conducted⟩ := inductionHypothesis ran
            exact ⟨⟨_, between⟩ :: later, rfl, .cons starts own (.inr ⟨continues, conducted⟩)⟩

/-- A pipeline among the steps of another one can be replaced by its own steps: the steps are called
in the same order on the same exchanges, and the exchange ends the same. The calls of any pipeline
are those of its first steps, up to the one that ends it. -/
theorem pipeline_flattens (outer inner : String) (xs : List Processor) {ys : List Processor}
    (nonempty : ys ≠ []) (zs : List Processor) (exchange : Exchange) :
    let nested := pipeline outer (numbered 0 xs ++
      pipeline inner (numbered xs.length ys) :: numbered (xs.length + ys.length) zs)
    let flat := pipeline outer (numbered 0 (xs ++ ys ++ zs))
    nested.processor = .pipeline outer (xs ++ .pipeline inner ys :: zs) ∧
      flat.processor = .pipeline outer (xs ++ ys ++ zs) ∧
      nested.observe exchange = flat.observe exchange ∧
      ∀ (name : String) (steps : List Processor) (start after : Exchange) (runs : List StepRun),
        ((pipeline name (numbered 0 steps)).invoke start).Gives runs after →
        ∃ calls, runs = StepRun.ofCalls 0 calls ∧ Conducted false steps start calls after := by
  have numberedSome : numbered xs.length ys ≠ [] := by
    intro nothing
    have processors := map_numbered xs.length ys
    rw [nothing] at processors
    exact nonempty processors.symm
  have whole : numbered 0 (xs ++ ys ++ zs) = numbered 0 xs ++
      (numbered xs.length ys ++ numbered (xs.length + ys.length) zs) := by
    rw [numbered_append, numbered_append, List.append_assoc, List.length_append, Nat.zero_add,
      Nat.zero_add]
  refine ⟨?_, ?_, ?_, fun name steps start after runs given => ?_⟩
  · rw [processor_pipeline, List.map_append, List.map_cons, processor_pipeline, map_numbered,
      map_numbered, map_numbered]
  · rw [processor_pipeline, map_numbered]
  · have same := runSteps_pipeline false inner (numbered 0 xs) numberedSome
      (numbered (xs.length + ys.length) zs) exchange
    rw [← whole] at same
    exact congrArg (· >>= fun after => pure (after, none)) same
  · exact conducted_of_runSteps (gives_silent.mp given)

/-- An inner step that asks to stop is the last one that is called. -/
theorem pipeline_flattens_before_stop :
    let reply := Processor.ofFunction "reply" fun exchange =>
      ({ exchange with outbound := some { id := "reply" } }, none)
    let stop := Processor.ofFunction "stop" fun exchange =>
      (exchange.put .routeStop (.bool true), none)
    let nested := pipeline "outer" (numbered 0 [reply] ++
      pipeline "inner" (numbered 1 [stop, reply]) :: numbered 3 [reply])
    let flat := pipeline "outer" (numbered 0 ([reply] ++ [stop, reply] ++ [reply]))
    nested.observe default = flat.observe default ∧
      ((nested.invoke default).alone default).1.map StepRun.position = [0, 1] :=
  ⟨(pipeline_flattens "outer" "inner" [_] (List.cons_ne_nil _ [_]) [_] default).2.2.1,
    by decide +kernel⟩

end Watched

end MessageRouting
