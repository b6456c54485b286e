import MessageRouting.Proofs.Engine.Replay
import MessageRouting.Proofs.Route.Assembly
import MessageRouting.Proofs.Route.Consult

/-!
# Steps in front of others

The steps of a route up to some place either end the run or hand the exchange over to
the steps behind that place. What they do until then does not depend on the steps
behind, and steps that do not look at what is hidden do the same whatever is hidden.
-/

namespace MessageRouting

/-- Something that is seen when an exchange goes through the steps of a route: a moment in the step
with a number, consumers not being counted, or the arrival at a consumer that uses a repository. -/
inductive Footprint where
  | moment (number : Nat) (moment : Moment)
  | reached (repository : Nat) (arrival : Arrival)

namespace Footprint

def arrival? (repository : Nat) : Footprint → Option Arrival
  | moment .. => none
  | reached used arrival => if used = repository then some arrival else none

def arrivals (repository : Nat) (log : List Footprint) : List Arrival :=
  log.filterMap (arrival? repository)

def besides (repository : Nat) (log : List Footprint) : List Footprint :=
  log.filter fun footprint => (footprint.arrival? repository).isNone

variable {repository : Nat} {log : List Footprint}

@[simp]
theorem arrivals_append (first second : List Footprint) :
    arrivals repository (first ++ second) =
      arrivals repository first ++ arrivals repository second :=
  List.filterMap_append

@[simp]
theorem besides_append (first second : List Footprint) :
    besides repository (first ++ second) =
      besides repository first ++ besides repository second :=
  List.filter_append ..

theorem besides_of_arrivals (none : arrivals repository log = []) :
    besides repository log = log := by
  have nowhere := List.filterMap_eq_nil_iff.mp none
  refine List.filter_eq_self.mpr fun footprint listed => ?_
  rw [nowhere footprint listed]
  rfl

theorem arrivals_moments (number : Nat) (moments : List Moment) :
    arrivals repository (moments.map fun moment => .moment number moment.bare) = [] := by
  refine List.filterMap_eq_nil_iff.mpr fun footprint listed => ?_
  obtain ⟨moment, _, rfl⟩ := List.mem_map.mp listed
  rfl

end Footprint

/-! ## What is seen of a step -/

namespace Watched

/-- A processor that logs its calls. -/
def stepping (processor : Processor) : Watched Moment where
  processor := processor
  observe exchange := Logged.act (processor.process exchange) fun ended =>
    .step ⟨exchange, ended.1.recording ended.2⟩
  faithful _ := Logged.result_act _ _

/-- The step with other entries in its log. -/
def relabel {ε δ : Type} (label : ε → δ) (watched : Watched ε) : Watched δ where
  processor := watched.processor
  observe exchange := (watched.observe exchange).reshape fun entries _ => entries.map label
  faithful exchange := by rw [Logged.result_reshape, watched.faithful]

theorem run_of_relabel {ε δ : Type} (label : ε → δ) (watched : Watched ε) (exchange : Exchange)
    (broker : Broker) :
    ((watched.relabel label).invoke exchange).alone broker =
        (((watched.invoke exchange).alone broker).1.map label,
          ((watched.invoke exchange).alone broker).2) ∧
      ((watched.relabel label).invoke exchange).after broker =
        (watched.invoke exchange).after broker := by
  obtain ⟨whole, ended⟩ := run_of_invoke (watched.relabel label) exchange broker
  obtain ⟨own, left⟩ := run_of_invoke watched exchange broker
  obtain ⟨shaped, kept⟩ := Logged.run_of_reshape (fun entries _ => entries.map label)
    (watched.observe exchange) broker
  have seen : ((watched.relabel label).observe exchange).alone broker =
      (((watched.observe exchange).alone broker).1.map label,
        ((watched.observe exchange).alone broker).2) := shaped
  rw [whole, own, ended, left, seen]
  exact ⟨rfl, kept⟩

/-- A consumer in front of a watched step. It logs the exchanges that reach it. -/
def reaching (consumer : IdempotentConsumer) (inner : Watched Footprint) : Watched Footprint where
  processor := IdempotentConsumer.toProcessor { consumer with inner := inner.processor }
  observe exchange := do
    let found ← Logged.act (consumer.consult exchange) fun found =>
      .reached consumer.repository found.1
    match found.2 with
    | .refused exchange failure => return (exchange, failure)
    | .admitted exchange due => do
        let after ← inner.invoke exchange
        Logged.lift (IdempotentConsumer.settleDue due after)
        return (after, none)
  faithful exchange := by
    rw [IdempotentConsumer.process_eq, ← IdempotentConsumer.consult_bind, Logged.result_bind,
      Logged.result_act]
    refine congrArg (consumer.consult exchange >>= ·) (funext fun found => ?_)
    cases found.2 <;> simp

theorem run_of_act {ε : Type} (routine : Routine Broker α) (entry : α → ε) (broker : Broker) :
    (Logged.act routine entry).alone broker =
        ([entry (routine.run broker).1], (routine.run broker).1) ∧
      (Logged.act routine entry).after broker = (routine.run broker).2.1 := by
  have view := Routine.run_bind_done routine (fun value => ([entry value], value)) broker
  exact ⟨congrArg Prod.fst view, congrArg (fun ended => ended.2.1) view⟩

theorem invoke_stepping (processor : Processor) (exchange : Exchange) :
    (stepping processor).invoke exchange =
      Logged.act (processor.invoke exchange) fun ended => .step ⟨exchange, ended⟩ := by
  have invoked : processor.invoke exchange =
      (processor.process exchange).bind fun ended => .done (ended.1.recording ended.2) := by
    unfold Processor.invoke
    congr 1
  rw [invoked]
  change Logged.bind
    (Logged.act (processor.process exchange) fun ended =>
      Moment.step ⟨exchange, ended.1.recording ended.2⟩)
    (fun ended => pure (ended.1.recording ended.2)) = _
  simp only [Logged.bind, Logged.act, Routine.bind_assoc, Routine.bind]
  rfl

/-- A consumer logs the arrival, and what the steps behind it log if it admits the exchange. -/
theorem alone_reaching {consumer : IdempotentConsumer} {inner : Watched Footprint}
    {exchange : Exchange} {broker between : Broker}
    {found : Arrival × IdempotentConsumer.Admission} {slept : Duration}
    (ran : (consumer.consult exchange).run broker = (found, between, slept)) :
    ((reaching consumer inner).invoke exchange).alone broker =
      match found.2 with
      | .refused marked failure =>
          ([.reached consumer.repository found.1], marked.recording failure)
      | .admitted marked _ =>
          (.reached consumer.repository found.1 :: ((inner.invoke marked).alone between).1,
            ((inner.invoke marked).alone between).2) := by
  obtain ⟨logged, left⟩ := run_of_act (consumer.consult exchange)
    (fun found => Footprint.reached consumer.repository found.1) broker
  have observed : ((reaching consumer inner).observe exchange).alone broker = _ :=
    Logged.alone_bind _ _ broker
  rw [(run_of_invoke _ exchange broker).1, observed, logged, left, ran]
  cases found.2 with
  | refused marked failure => rfl
  | admitted marked due =>
      dsimp only
      rw [Logged.alone_bind, Logged.alone_bind, (Logged.run_of_lift _ _).1]
      simp [Exchange.recording]

end Watched

namespace Stage

def record : Stage → Watched Moment
  | plain processor => .stepping processor
  | guarded handler => .handling handler

/-- The step under a number. -/
def follow (number : Nat) (stage : Stage) : Watched Footprint :=
  stage.record.relabel fun moment => .moment number moment.bare

@[simp]
theorem processor_follow (number : Nat) (stage : Stage) :
    (stage.follow number).processor = stage.processor := by
  cases stage <;> rfl

/-- Neither the processor nor an error handler around it looks at what is hidden. -/
def Blind (veil : Veil) : Stage → Prop
  | plain processor => processor.Blind veil
  | guarded handler => handler.Blind veil

theorem paired_record {veil : Veil} {stage : Stage} (blind : stage.Blind veil)
    {left right : Exchange} (same : veil.Same left right) :
    Logged.Paired veil.Apart Moment.bare veil.Same (stage.record.invoke left)
      (stage.record.invoke right) := by
  intro first second apart
  cases stage with
  | plain processor =>
      have called : ∀ (exchange : Exchange) (broker : Broker),
          ((Watched.stepping processor).invoke exchange).alone broker =
              ([.step ⟨exchange, ((processor.invoke exchange).run broker).1⟩],
                ((processor.invoke exchange).run broker).1) ∧
            ((Watched.stepping processor).invoke exchange).after broker =
              ((processor.invoke exchange).run broker).2.1 := by
        intro exchange broker
        rw [Watched.invoke_stepping]
        exact Watched.run_of_act (processor.invoke exchange) _ broker
      obtain ⟨alike, after⟩ := blind left right same first second apart
      obtain ⟨leftLog, leftState⟩ := called left first
      obtain ⟨rightLog, rightState⟩ := called right second
      change (((Watched.stepping processor).invoke left).alone first).1.map Moment.bare =
        (((Watched.stepping processor).invoke right).alone second).1.map Moment.bare ∧
          veil.Same (((Watched.stepping processor).invoke left).alone first).2
            (((Watched.stepping processor).invoke right).alone second).2 ∧
          veil.Apart (((Watched.stepping processor).invoke left).after first)
            (((Watched.stepping processor).invoke right).after second)
      rw [leftLog, leftState, rightLog, rightState]
      refine ⟨?_, alike, after⟩
      exact congrArg (fun visit => [Moment.step visit]) (same.visit_eq alike)
  | guarded handler =>
      have watched : ∀ exchange, (Watched.handling handler).invoke exchange =
          handler.observe exchange >>= fun ended => pure ended.1 :=
        fun exchange => Watched.invoke_silent exchange
      have passed : Logged.Paired veil.Apart Moment.bare veil.Same
          (handler.observe left >>= fun ended => pure ended.1)
          (handler.observe right >>= fun ended => pure ended.1) :=
        Logged.paired_bind (ErrorHandler.paired_observe blind same) fun _ _ agreed =>
          Logged.paired_pure agreed.1
      rw [← watched left, ← watched right] at passed
      exact passed first second apart

theorem follow_of_same {veil : Veil} {stage : Stage} (blind : stage.Blind veil) (number : Nat)
    {left right : Exchange} (same : veil.Same left right) {first second : Broker}
    (apart : veil.Apart first second) :
    (((stage.follow number).invoke left).alone first).1 =
        (((stage.follow number).invoke right).alone second).1 ∧
      veil.Same (((stage.follow number).invoke left).alone first).2
        (((stage.follow number).invoke right).alone second).2 ∧
      veil.Apart (((stage.follow number).invoke left).after first)
        (((stage.follow number).invoke right).after second) := by
  obtain ⟨shown, alike, after⟩ := paired_record blind same first second apart
  unfold follow
  rw [(Watched.run_of_relabel _ _ left first).1, (Watched.run_of_relabel _ _ right second).1,
    (Watched.run_of_relabel _ _ left first).2, (Watched.run_of_relabel _ _ right second).2]
  refine ⟨?_, alike, after⟩
  have numbered := congrArg (List.map fun moment => Footprint.moment number moment) shown
  rw [List.map_map, List.map_map] at numbered
  exact numbered

theorem arrivals_follow (repository number : Nat) (stage : Stage) (exchange : Exchange)
    (broker : Broker) :
    Footprint.arrivals repository (((stage.follow number).invoke exchange).alone broker).1 =
      [] := by
  unfold follow
  rw [(Watched.run_of_relabel _ _ exchange broker).1]
  exact Footprint.arrivals_moments number _

end Stage

/-! ## What is seen of steps in front of others -/

namespace Assembly

/-- The steps in front of some others, which are watched already. -/
def follow (tail : List (Watched Footprint)) : Nat → Assembly → List (Watched Footprint)
  | _, done => tail
  | number, next stage rest => stage.follow number :: rest.follow tail (number + 1)
  | number, behind consumer id steps =>
      [.reaching consumer (.pipeline id (steps.follow tail number))]

def onto : Assembly → Assembly → Assembly
  | done, back => back
  | next stage rest, back => .next stage (rest.onto back)
  | behind consumer id steps, back =>
      .behind { consumer with inner := .pipeline id (steps.onto back).processors } id
        (steps.onto back)

/-- The number of steps, not counting consumers. -/
def size : Assembly → Nat
  | done => 0
  | next _ rest => rest.size + 1
  | behind _ _ steps => steps.size

theorem follow_onto (tail : List (Watched Footprint)) (front back : Assembly) (number : Nat) :
    (front.onto back).follow tail number =
      front.follow (back.follow tail (number + front.size)) number := by
  induction front generalizing number with
  | done => rfl
  | next stage rest inductionHypothesis =>
      unfold onto follow size
      rw [inductionHypothesis, Nat.add_right_comm, Nat.add_assoc]
  | behind consumer id steps inductionHypothesis =>
      unfold onto follow size
      rw [inductionHypothesis]
      rfl

theorem map_follow (assembly : Assembly) (number : Nat) :
    (assembly.follow [] number).map Watched.processor = assembly.processors := by
  induction assembly generalizing number with
  | done => rfl
  | next stage rest inductionHypothesis =>
      simp [follow, processors, inductionHypothesis]
  | behind consumer id steps inductionHypothesis =>
      unfold follow processors
      rw [← inductionHypothesis number]
      rfl

/-- Where steps leave an exchange that others may be behind: those do not get it, or get it and
promote its outbound message or not. -/
inductive Lead where
  | ended (exchange : Exchange)
  | on (promoting : Bool) (exchange : Exchange) (broker : Broker)

def lead : Assembly → Nat → Bool → Exchange → Broker → List Footprint × Lead
  | done, _, promoting, exchange, broker => ([], .on promoting exchange broker)
  | next stage rest, number, promoting, exchange, broker =>
      if exchange.flag .routeStop then ([], .ended exchange)
      else
        let called :=
          (stage.follow number).invoke (if promoting then exchange.promote else exchange)
        let (log, after) := called.alone broker
        if after.mayContinue then
          let (later, ended) := rest.lead (number + 1) true after (called.after broker)
          (log ++ later, ended)
        else (log, .ended after)
  | behind consumer _ steps, number, promoting, exchange, broker =>
      if exchange.flag .routeStop then ([], .ended exchange)
      else
        let (found, between, _) :=
          (consumer.consult (if promoting then exchange.promote else exchange)).run broker
        match found.2 with
        | .refused marked failure =>
            ([.reached consumer.repository found.1], .ended (marked.recording failure))
        | .admitted marked _ =>
            let (later, ended) := steps.lead number false marked between
            (.reached consumer.repository found.1 :: later, ended)

/-- What is seen in the end, if the steps behind are the given ones. -/
def Lead.close (tail : List (Watched Footprint)) : List Footprint × Lead → List Footprint × Exchange
  | (log, .ended exchange) => (log, exchange)
  | (log, .on promoting exchange broker) =>
      let (later, after) := (Watched.runSteps promoting tail exchange).alone broker
      (log ++ later, after)

theorem close_append (tail : List (Watched Footprint)) (log : List Footprint)
    (led : List Footprint × Lead) :
    Lead.close tail (log ++ led.1, led.2) =
      (log ++ (Lead.close tail led).1, (Lead.close tail led).2) := by
  obtain ⟨later, ended | ⟨promoting, exchange, broker⟩⟩ := led
  · rfl
  · exact Prod.ext (List.append_assoc ..) rfl

/-- Nothing follows upon a step that is the last one. -/
theorem alone_single (step : Watched Footprint) (promoting : Bool) (exchange : Exchange)
    (broker : Broker) (unstopped : exchange.flag .routeStop = false) :
    (Watched.runSteps promoting [step] exchange).alone broker =
      (step.invoke (if promoting then exchange.promote else exchange)).alone broker := by
  have last : Watched.runSteps promoting [step] exchange =
      step.invoke (if promoting then exchange.promote else exchange) >>= pure := by
    unfold Watched.runSteps
    rw [unstopped, if_neg Bool.false_ne_true]
    refine congrArg (step.invoke _ >>= ·) (funext fun after => ?_)
    exact ite_self _
  rw [last, Logged.bind_pure]

/-- The steps behind matter only for what they do with an exchange that is handed over to them. -/
theorem alone_follow (tail : List (Watched Footprint)) (front : Assembly) (number : Nat)
    (promoting : Bool) (exchange : Exchange) (broker : Broker) :
    (Watched.runSteps promoting (front.follow tail number) exchange).alone broker =
      Lead.close tail (front.lead number promoting exchange broker) := by
  induction front generalizing number promoting exchange broker with
  | done => rfl
  | next stage rest inductionHypothesis =>
      unfold follow lead Watched.runSteps
      cases stop : exchange.flag .routeStop with
      | true => rfl
      | false =>
          rw [if_neg Bool.false_ne_true, if_neg Bool.false_ne_true, Logged.alone_bind]
          dsimp only
          by_cases further : (((stage.follow number).invoke
              (if promoting then exchange.promote else exchange)).alone broker).2.mayContinue = true
          · rw [if_pos further, if_pos further, inductionHypothesis]
            exact (close_append tail _ _).symm
          · rw [if_neg further, if_neg further, Logged.alone_pure, List.append_nil]
            rfl
  | behind consumer id steps inductionHypothesis =>
      unfold follow lead
      cases stop : exchange.flag .routeStop with
      | true =>
          unfold Watched.runSteps
          rw [stop]
          rfl
      | false =>
          rw [alone_single _ _ _ _ stop, if_neg Bool.false_ne_true]
          rcases ran : (consumer.consult (if promoting then exchange.promote else exchange)).run
            broker with ⟨⟨arrival, admission⟩, between, slept⟩
          refine (Watched.alone_reaching ran).trans ?_
          cases admission with
          | refused marked failure => rfl
          | admitted marked due =>
              dsimp only
              rw [Watched.pipeline, Watched.invoke_silent, inductionHypothesis]
              exact (close_append tail [.reached consumer.repository arrival] _).symm

end Assembly

namespace Assembly

/-- The assemblies differ in nothing but hidden counts, and their steps do not look at what is
hidden. -/
inductive Alike (veil : Veil) : Assembly → Assembly → Prop
  | done : Alike veil .done .done
  | next {stage : Stage} {rest other : Assembly} :
      stage.Blind veil → Alike veil rest other → Alike veil (.next stage rest) (.next stage other)
  | behind {consumer : IdempotentConsumer} {handle : Nat} {inner : Processor} {id : String}
      {steps other : Assembly} :
      consumer.Blind veil → veil.duplicates ≤ handle → Alike veil steps other →
        Alike veil (.behind consumer id steps) (.behind (consumer.recount handle inner) id other)

/-- The steps behind get exchanges that differ in nothing but hidden completions. -/
inductive Lead.Alike (veil : Veil) : Lead → Lead → Prop
  | ended {left right : Exchange} : veil.Same left right → Alike veil (.ended left) (.ended right)
  | on {promoting : Bool} {left right : Exchange} {first second : Broker} :
      veil.Same left right → veil.Apart first second →
        Alike veil (.on promoting left first) (.on promoting right second)

variable {veil : Veil}

theorem same_ready {left right : Exchange} (same : veil.Same left right) (promoting : Bool) :
    veil.Same (if promoting then left.promote else left)
      (if promoting then right.promote else right) := by
  cases promoting with
  | true => exact same.promote
  | false => exact same

/-- Steps that do not look at what is hidden do the same before they hand over. -/
theorem lead_of_alike {front other : Assembly} (alike : Alike veil front other) (number : Nat)
    (promoting : Bool) {left right : Exchange} (same : veil.Same left right)
    {first second : Broker} (apart : veil.Apart first second) :
    (front.lead number promoting left first).1 = (other.lead number promoting right second).1 ∧
      Lead.Alike veil (front.lead number promoting left first).2
        (other.lead number promoting right second).2 := by
  -- What is hidden may change while a step is called, but only it: the induction carries that the
  -- exchanges are the same and the brokers apart into the steps that follow.
  induction alike generalizing number promoting left right first second with
  | done => exact ⟨rfl, .on same apart⟩
  | @next stage rest other blind _ inductionHypothesis =>
      have stops : right.flag .routeStop = left.flag .routeStop :=
        same.congr (fun exchange => exchange.flag .routeStop) fun _ _ => rfl
      unfold lead
      rw [stops]
      cases left.flag .routeStop with
      | true => exact ⟨rfl, .ended same⟩
      | false =>
          obtain ⟨shown, after, later⟩ :=
            Stage.follow_of_same blind number (same_ready same promoting) apart
          rw [if_neg Bool.false_ne_true, if_neg Bool.false_ne_true]
          dsimp only
          rw [shown, after.congr Exchange.mayContinue fun _ _ => rfl]
          by_cases further : (((stage.follow number).invoke
              (if promoting then left.promote else left)).alone first).2.mayContinue = true
          · rw [if_pos further, if_pos further]
            obtain ⟨shownLater, handed⟩ := inductionHypothesis (number + 1) true after later
            exact ⟨congrArg (_ ++ ·) shownLater, handed⟩
          · rw [if_neg further, if_neg further]
            exact ⟨rfl, .ended after⟩
  | @behind consumer handle inner id steps other blind counts _ inductionHypothesis =>
      have stops : right.flag .routeStop = left.flag .routeStop :=
        same.congr (fun exchange => exchange.flag .routeStop) fun _ _ => rfl
      unfold lead
      rw [stops]
      cases left.flag .routeStop with
      | true => exact ⟨rfl, .ended same⟩
      | false =>
          have decided := IdempotentConsumer.paired_consult inner blind counts
            (same_ready same promoting) first second apart
          rcases ran : (consumer.consult (if promoting then left.promote else left)).run first
            with ⟨⟨arrival, admission⟩, between, slept⟩
          rcases ranToo : ((consumer.recount handle inner).consult
              (if promoting then right.promote else right)).run second
            with ⟨⟨arrivalToo, admissionToo⟩, betweenToo, sleptToo⟩
          rw [ran, ranToo] at decided
          obtain ⟨⟨rfl, chosen⟩, after⟩ := decided
          rw [if_neg Bool.false_ne_true, if_neg Bool.false_ne_true]
          cases chosen with
          | refused marked => exact ⟨rfl, .ended (marked.recording _)⟩
          | admitted marked =>
              obtain ⟨shownLater, handed⟩ := inductionHypothesis number false marked after
              exact ⟨congrArg (_ :: ·) shownLater, handed⟩

/-- No step in front reaches a consumer that uses the hidden repository. -/
theorem arrivals_lead {front other : Assembly} (alike : Alike veil front other) (number : Nat)
    (promoting : Bool) (exchange : Exchange) (broker : Broker) :
    Footprint.arrivals veil.repository (front.lead number promoting exchange broker).1 = [] := by
  induction alike generalizing number promoting exchange broker with
  | done => rfl
  | @next stage rest other _ _ inductionHypothesis =>
      unfold lead
      cases exchange.flag .routeStop with
      | true => rfl
      | false =>
          have own := stage.arrivals_follow veil.repository number
            (if promoting then exchange.promote else exchange) broker
          rw [if_neg Bool.false_ne_true]
          dsimp only
          by_cases further : (((stage.follow number).invoke
              (if promoting then exchange.promote else exchange)).alone broker).2.mayContinue = true
          · rw [if_pos further, Footprint.arrivals_append, own, inductionHypothesis]
            rfl
          · rw [if_neg further]
            exact own
  | @behind consumer handle inner id steps other blind _ _ inductionHypothesis =>
      unfold lead
      cases exchange.flag .routeStop with
      | true => rfl
      | false =>
          have elsewhere (arrival : Arrival) :
              Footprint.arrival? veil.repository (.reached consumer.repository arrival) = none :=
            if_neg blind.elsewhere
          rcases ran : (consumer.consult (if promoting then exchange.promote else exchange)).run
            broker with ⟨⟨arrival, admission⟩, between, slept⟩
          rw [if_neg Bool.false_ne_true]
          cases admission with
          | refused marked failure =>
              exact List.filterMap_cons_none (elsewhere arrival)
          | admitted marked due =>
              exact (List.filterMap_cons_none (elsewhere arrival)).trans
                (inductionHypothesis number false marked between)

/-! ## The message that is handed over -/

/-- Nothing is left to promote where the steps behind do not promote. -/
def Settled (promoting : Bool) (exchange : Exchange) : Prop :=
  promoting = true ∨ exchange.outbound = none

theorem outbound_of_settled {promoting : Bool} {exchange : Exchange}
    (settled : Settled promoting exchange) :
    (if promoting then exchange.promote else exchange).outbound = none := by
  cases promoting with
  | true =>
      change exchange.promote.outbound = none
      unfold Exchange.promote
      cases found : exchange.outbound with
      | none => exact found
      | some message => rfl
  | false =>
      rcases settled with impossible | nothing
      · contradiction
      · exact nothing

/-- Where nothing was left to promote, or a step was called, nothing is left to promote. -/
theorem settled_of_lead {front : Assembly} {number : Nat} {promoting handed : Bool}
    {exchange after : Exchange} {broker later : Broker}
    (begin : Settled promoting exchange ∨ front.size ≠ 0)
    (ended : (front.lead number promoting exchange broker).2 = .on handed after later) :
    Settled handed after := by
  induction front generalizing number promoting exchange broker with
  | done =>
      obtain ⟨rfl, rfl, _⟩ := Lead.on.inj ended
      rcases begin with settled | impossible
      · exact settled
      · contradiction
  | next stage rest inductionHypothesis =>
      unfold lead at ended
      by_cases stop : exchange.flag .routeStop = true
      · rw [if_pos stop] at ended
        contradiction
      · rw [if_neg stop] at ended
        by_cases further : (((stage.follow number).invoke
            (if promoting then exchange.promote else exchange)).alone broker).2.mayContinue = true
        · dsimp only at ended
          rw [if_pos further] at ended
          exact inductionHypothesis (.inl (.inl rfl)) ended
        · dsimp only at ended
          rw [if_neg further] at ended
          contradiction
  | behind consumer id steps inductionHypothesis =>
      unfold lead at ended
      by_cases stop : exchange.flag .routeStop = true
      · rw [if_pos stop] at ended
        contradiction
      · rw [if_neg stop] at ended
        rcases ran : (consumer.consult (if promoting then exchange.promote else exchange)).run
          broker with ⟨⟨arrival, admission⟩, between, slept⟩
        rw [ran] at ended
        cases admission with
        | refused marked failure => contradiction
        | admitted marked due =>
            refine inductionHypothesis ?_ ended
            rcases begin with settled | called
            · exact .inl (.inr ((IdempotentConsumer.outbound_of_consult ran).trans
                (outbound_of_settled settled)))
            · exact .inr called

/-- Consumers alone promote nothing. -/
theorem promoting_of_lead {front : Assembly} {number : Nat} {handed : Bool}
    {exchange after : Exchange} {broker later : Broker} (uncalled : front.size = 0)
    (ended : (front.lead number false exchange broker).2 = .on handed after later) :
    handed = false := by
  induction front generalizing exchange broker with
  | done =>
      obtain ⟨rfl, _⟩ := Lead.on.inj ended
      rfl
  | next stage rest => contradiction
  | behind consumer id steps inductionHypothesis =>
      unfold lead at ended
      by_cases stop : exchange.flag .routeStop = true
      · rw [if_pos stop] at ended
        contradiction
      · rw [if_neg stop] at ended
        rcases ran : (consumer.consult (if false then exchange.promote else exchange)).run
          broker with ⟨⟨arrival, admission⟩, between, slept⟩
        rw [ran] at ended
        cases admission with
        | refused marked failure => contradiction
        | admitted marked due => exact inductionHypothesis uncalled ended

/-- The steps behind promote a pending message if a step was called before them. -/
theorem ready_of_lead {front : Assembly} {number : Nat} {handed : Bool} {exchange after : Exchange}
    {broker later : Broker}
    (ended : (front.lead number false exchange broker).2 = .on handed after later) :
    (if handed then after.promote else after) =
      if front.size = 0 then after else after.promote := by
  by_cases uncalled : front.size = 0
  · rw [promoting_of_lead uncalled ended, if_pos uncalled]
    rfl
  · rw [if_neg uncalled]
    rcases settled_of_lead (.inr uncalled) ended with rfl | nothing
    · rfl
    · have unchanged : after.promote = after := by
        unfold Exchange.promote
        rw [nothing]
      rw [unchanged]
      exact ite_self _

end Assembly

end MessageRouting
