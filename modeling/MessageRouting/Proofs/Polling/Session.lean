import MessageRouting.Polling.Lifecycle
import MessageRouting.Proofs.Polling.Course

/-!
# A consumer on a timeline, told

A consumer that is started and stopped on a timeline of its own is written once more
so that it keeps a log of what happens to it and when. Without the log it is the
consumer on the timeline: the loop in the background is the only task.
-/

namespace MessageRouting

inductive LifeEvent where
  | started
  | refused
  | stopped
  | polling (mark : PollMark)
deriving DecidableEq, Repr

/-- What the loop of a consumer does when it goes on, as `Activity` has it. -/
inductive LoopStage where
  | beginning
  | firstPoll
  | nextPoll (planned : Nat)
  | underway (planned : Nat) (rest : Marked PollMark Broker (Except Failure Nat))

structure PollLoop where
  number : Nat
  due : Nat
  turn : Nat
  stage : LoopStage

/-- A consumer on a timeline, and what happened to it at which time, oldest first. The loop is kept
apart from the tasks of the timeline. -/
structure Session where
  base : Timeline
  loop : Option PollLoop := none
  log : List (Nat × LifeEvent) := []

/-- What is asked of a consumer, and what the foreground does in between. The shutdown of a stop
loses so many selects against a tick that is ready. -/
inductive ConsumerRequest where
  | start
  | stop (lost : Nat)
  | meanwhile (routine : Routine Broker Unit)

namespace ConsumerRequest

/-- What becomes of the consumer and the timeline. A start that fails changes nothing. -/
def perform : ConsumerRequest → ConsumerState × Timeline → ConsumerState × Timeline
  | start, (state, timeline) =>
      match state.start timeline with
      | .ok begun => begun
      | .error _ => (state, timeline)
  | stop lost, (state, timeline) => state.stop lost timeline
  | meanwhile routine, (state, timeline) => (state, (Timeline.run routine timeline).2)

def performAll (requests : List ConsumerRequest) (run : ConsumerState × Timeline) :
    ConsumerState × Timeline :=
  requests.foldl (fun run request => request.perform run) run

end ConsumerRequest

/-! ## Without the log -/

namespace LoopStage

/-- What the task does. -/
def activity (consumer : PollingConsumer) : LoopStage → Activity
  | beginning => .startConsumer consumer
  | firstPoll => .firstPoll consumer
  | nextPoll planned => .nextPoll consumer planned
  | underway planned rest => .consume consumer planned rest.unmarked

end LoopStage

def PollLoop.task (consumer : PollingConsumer) (loop : PollLoop) : Task where
  number := loop.number
  due := loop.due
  turn := loop.turn
  activity := loop.stage.activity consumer

namespace Session

def timeline (consumer : PollingConsumer) (session : Session) : Timeline :=
  { session.base with tasks := (session.loop.map (PollLoop.task consumer)).toList }

def state (consumer : PollingConsumer) (session : Session) : ConsumerState where
  consumer := consumer
  isRunning := (session.loop.map PollLoop.number).isSome
  task := session.loop.map PollLoop.number

/-! ## What happens, told -/

def tell (events : List LifeEvent) (session : Session) : Session :=
  { session with log := session.log ++ events.map fun event => (session.base.now, event) }

/-- Puts other contents into the broker. -/
def hold (broker : Broker) (session : Session) : Session :=
  { session with base := { session.base with broker := broker } }

/-- Lets the clock show an instant, if that is to come. -/
def reach (instant : Nat) (session : Session) : Session :=
  { session with base := { session.base with now := max session.base.now instant } }

def takeTurn (session : Session) : Session :=
  { session with base := { session.base with turns := session.base.turns + 1 } }

def plan (number due : Nat) (stage : LoopStage) (session : Session) : Session :=
  { session.takeTurn with loop := some ⟨number, due, session.base.turns, stage⟩ }

/-- The marks that polls made up to a suspension of the loop, when the loop goes on and with what,
and the broker. -/
structure Stretch where
  marks : List PollMark
  due : Nat
  stage : LoopStage
  broker : Broker

/-- `Timeline.consumeAt`, told; `rounds` bounds the number of polls that are made at once. -/
def stretch (consumer : PollingConsumer) (now rounds planned : Nat)
    (rest : Marked PollMark Broker (Except Failure Nat)) (broker : Broker) : Stretch :=
  let marks := rest.entries (fun _ _ => []) broker
  match rest.advance broker with
  | (.waiting span left, after) =>
      ⟨marks, now + span.nanoseconds, .underway planned left, after⟩
  | (.finished _, after) =>
      match rounds with
      | 0 => ⟨marks, planned, .nextPoll planned, after⟩
      | rounds + 1 =>
          if planned ≤ now then
            let later := stretch consumer now rounds
              (planned + consumer.config.interval.nanoseconds) consumer.tellPoll after
            { later with marks := marks ++ later.marks }
          else ⟨marks, planned, .nextPoll planned, after⟩

/-- `Timeline.consume`, told. -/
def poll (consumer : PollingConsumer) (number planned : Nat)
    (rest : Marked PollMark Broker (Except Failure Nat)) (session : Session) : Session :=
  let made := stretch consumer session.base.now (session.base.now + 1 - planned) planned rest
    session.base.broker
  ((session.hold made.broker).tell (made.marks.map .polling)).plan number made.due made.stage

/-- `Timeline.beginConsuming`, told. -/
def beginPolling (consumer : PollingConsumer) (number : Nat) (session : Session) : Session :=
  session.poll consumer number (session.base.now + consumer.config.interval.nanoseconds)
    consumer.tellPoll

/-- `Timeline.goOn`, told. -/
def goOn (consumer : PollingConsumer) (loop : PollLoop) (session : Session) : Session :=
  let session := session.reach loop.due
  match loop.stage with
  | .beginning =>
      if consumer.config.initialDelay.isZero then session.beginPolling consumer loop.number
      else
        session.plan loop.number (session.base.now + consumer.config.initialDelay.nanoseconds)
          .firstPoll
  | .firstPoll => session.beginPolling consumer loop.number
  | .nextPoll planned =>
      session.poll consumer loop.number (planned + consumer.config.interval.nanoseconds)
        consumer.tellPoll
  | .underway planned rest => session.poll consumer loop.number planned rest

def catchUp (consumer : PollingConsumer) (place : Nat × Nat) : Nat → Session → Session
  | 0, session => session
  | fuel + 1, session =>
      match session.loop with
      | some loop =>
          if Timeline.comesBefore (loop.due, loop.turn) place then
            catchUp consumer place fuel (session.goOn consumer loop)
          else session
      | none => session

def passUntil (consumer : PollingConsumer) (place : Nat × Nat) (session : Session) : Session :=
  (session.catchUp consumer place
    (((session.timeline consumer).tasks.length + 1) * (place.1 + 2 - session.base.now) * 2)).reach
      place.1

/-- `Timeline.run`, told. -/
def run (consumer : PollingConsumer) : Routine Broker Unit → Session → Session
  | .done _, session => session
  | .get next, session => run consumer (next session.base.broker) session
  | .put broker next, session => run consumer next (session.hold broker)
  | .sleep span next, session =>
      run consumer (next ())
        (session.passUntil consumer (session.base.now + span.nanoseconds, 0))

/-- `Timeline.runTask`, told: what is left of a poll when the consumer is stopped. -/
def finish (consumer : PollingConsumer) :
    Marked PollMark Broker (Except Failure Nat) → Session → Session
  | .done _, session => session
  | .get next, session => finish consumer (next session.base.broker) session
  | .put broker next, session => finish consumer next (session.hold broker)
  | .sleep span next, session =>
      finish consumer (next ())
        (session.takeTurn.passUntil consumer
          (session.base.now + span.nanoseconds, session.base.turns))
  | .mark mark next, session => finish consumer next (session.tell [.polling mark])

/-- `ConsumerState.start`, told. -/
def start (session : Session) : Session :=
  match session.loop with
  | some _ => session.tell [.refused]
  | none =>
      let begun := session.plan session.base.started session.base.now .beginning
      { begun with base := { begun.base with started := session.base.started + 1 } }.tell [.started]

/-- `Timeline.windDown`, told. -/
def windDown (consumer : PollingConsumer) : Nat → Nat → Session → Session
  | 0, _, session => session
  | lost + 1, planned, session =>
      if planned ≤ session.base.now then
        windDown consumer lost (planned + consumer.config.interval.nanoseconds)
          (session.finish consumer consumer.tellPoll)
      else session

/-- `Timeline.windDownEarly`, told. -/
def windDownEarly (consumer : PollingConsumer) (lost : Nat) (session : Session) : Session :=
  match lost with
  | 0 => session
  | lost + 1 => session.windDown consumer lost session.base.now

/-- `Timeline.shutDown`, told. -/
def shutDown (consumer : PollingConsumer) (lost : Nat) (loop : PollLoop) (session : Session) :
    Session :=
  match loop.stage with
  | .beginning =>
      if consumer.config.initialDelay.isZero then session.windDownEarly consumer lost else session
  | .firstPoll =>
      if loop.due ≤ session.base.now then session.windDownEarly consumer lost else session
  | .nextPoll planned => session.windDown consumer lost planned
  | .underway planned rest => (session.finish consumer rest).windDown consumer lost planned

/-- `Timeline.stop`, told. -/
def halt (consumer : PollingConsumer) (lost : Nat) (session : Session) : Session :=
  match session.loop with
  | some loop =>
      ({ session with loop := none }.passUntil consumer
        (session.base.wakes (loop.task consumer))).shutDown consumer lost loop
  | none => session

def stop (consumer : PollingConsumer) (lost : Nat) (session : Session) : Session :=
  (session.halt consumer lost).tell [.stopped]

def answer (consumer : PollingConsumer) (session : Session) : ConsumerRequest → Session
  | .start => session.start
  | .stop lost => session.stop consumer lost
  | .meanwhile routine => session.run consumer routine

/-- What is told of one request after another. -/
def answerAll (consumer : PollingConsumer) (session : Session) (requests : List ConsumerRequest) :
    Session :=
  requests.foldl (answer consumer) session

/-! ## What is told is what happens -/

variable {consumer : PollingConsumer} {session : Session} {loop : PollLoop}

def Owns (number : Nat) (session : Session) : Prop :=
  ∀ loop ∈ session.loop, loop.number = number

theorem timeline_plan {number : Nat} (due : Nat) (stage : LoopStage)
    (own : session.Owns number) :
    (session.timeline consumer).plan number due (stage.activity consumer) =
      (session.plan number due stage).timeline consumer := by
  unfold Timeline.plan Timeline.drop
  cases found : session.loop with
  | none =>
      simp only [timeline, found]
      rfl
  | some loop =>
      have same : loop.number = number := own loop found
      simp only [timeline, found, Option.map_some, Option.toList_some, PollLoop.task, same]
      simp [plan, takeTurn, PollLoop.task]

section

variable {now rounds planned : Nat} {rest left : Marked PollMark Broker (Except Failure Nat)}
  {broker after : Broker} {span : Duration} {value : Except Failure Nat}

theorem stretch_of_waiting (waiting : rest.advance broker = (.waiting span left, after)) :
    stretch consumer now rounds planned rest broker =
      ⟨rest.entries (fun _ _ => []) broker, now + span.nanoseconds, .underway planned left,
        after⟩ := by
  unfold stretch
  rw [waiting]

theorem stretch_of_early (finished : rest.advance broker = (.finished value, after))
    (early : now < planned) :
    stretch consumer now rounds planned rest broker =
      ⟨rest.entries (fun _ _ => []) broker, planned, .nextPoll planned, after⟩ := by
  unfold stretch
  rw [finished]
  cases rounds with
  | zero => rfl
  | succ rounds => exact if_neg (Nat.not_le.mpr early)

theorem stretch_of_late (finished : rest.advance broker = (.finished value, after))
    (late : planned ≤ now) :
    stretch consumer now (rounds + 1) planned rest broker =
      let later := stretch consumer now rounds (planned + consumer.config.interval.nanoseconds)
        consumer.tellPoll after
      { later with marks := rest.entries (fun _ _ => []) broker ++ later.marks } := by
  rw [stretch, finished]
  exact if_pos late

/-- A poll that ends leaves the loop until its planned time, or is followed by another one at once. -/
theorem stretch_of_finished (finished : rest.advance broker = (.finished value, after)) :
    stretch consumer now rounds planned rest broker =
        ⟨rest.entries (fun _ _ => []) broker, planned, .nextPoll planned, after⟩ ∨
      ∃ fewer < rounds, stretch consumer now rounds planned rest broker =
        let later := stretch consumer now fewer (planned + consumer.config.interval.nanoseconds)
          consumer.tellPoll after
        { later with marks := rest.entries (fun _ _ => []) broker ++ later.marks } := by
  by_cases late : planned ≤ now
  · cases rounds with
    | zero =>
        left
        rw [stretch, finished]
    | succ rounds => exact .inr ⟨rounds, Nat.lt_succ_self rounds, stretch_of_late finished late⟩
  · exact .inl (stretch_of_early finished (Nat.not_le.mp late))

/-- As many rounds as there are instants since the planned one are enough, as the interval is
positive. -/
theorem consumeAt_unmarked (ticks : 0 < consumer.config.interval.nanoseconds)
    (enough : now + 1 - planned ≤ rounds) :
    Timeline.consumeAt now consumer planned rest.unmarked broker =
      ((stretch consumer now rounds planned rest broker).due,
        (stretch consumer now rounds planned rest broker).stage.activity consumer,
        (stretch consumer now rounds planned rest broker).broker) := by
  induction rounds generalizing planned rest broker with
  | zero =>
      rw [Timeline.consumeAt, Marked.advance_unmarked]
      cases advanced : rest.advance broker with
      | mk progress after =>
          cases progress with
          | waiting span left =>
              rw [stretch_of_waiting advanced]
              rfl
          | finished value =>
              have early : now < planned := by omega
              rw [stretch_of_early advanced early]
              exact if_neg fun late => Nat.not_le.mpr early late.1
  | succ rounds inductionHypothesis =>
      rw [Timeline.consumeAt, Marked.advance_unmarked]
      cases advanced : rest.advance broker with
      | mk progress after =>
          cases progress with
          | waiting span left =>
              rw [stretch_of_waiting advanced]
              rfl
          | finished value =>
              by_cases late : planned ≤ now
              · rw [stretch_of_late advanced late, ← PollingConsumer.unmarked_tellPoll]
                exact (if_pos ⟨late, ticks⟩).trans (inductionHypothesis (by omega))
              · rw [stretch_of_early advanced (Nat.not_le.mp late)]
                exact if_neg fun both => late both.1

end

theorem timeline_poll (ticks : 0 < consumer.config.interval.nanoseconds) {number planned : Nat}
    {rest : Marked PollMark Broker (Except Failure Nat)} (own : session.Owns number) :
    (session.timeline consumer).consume number consumer planned rest.unmarked =
      (session.poll consumer number planned rest).timeline consumer := by
  have made : Timeline.consumeAt (session.timeline consumer).now consumer planned rest.unmarked
      (session.timeline consumer).broker = _ :=
    @consumeAt_unmarked consumer session.base.now _ planned rest session.base.broker ticks
      (Nat.le_refl _)
  rw [Timeline.consume, made]
  exact @timeline_plan consumer (((session.hold _).tell _)) number _ _ own

theorem timeline_beginPolling (ticks : 0 < consumer.config.interval.nanoseconds) {number : Nat}
    (own : session.Owns number) :
    (session.timeline consumer).beginConsuming number consumer =
      (session.beginPolling consumer number).timeline consumer := by
  have ticking : consumer.config.interval.isZero = false := beq_eq_false_iff_ne.mpr (Nat.ne_of_gt ticks)
  rw [Timeline.beginConsuming, ticking, ← PollingConsumer.unmarked_tellPoll]
  exact timeline_poll ticks own

theorem timeline_goOn (ticks : 0 < consumer.config.interval.nanoseconds)
    (found : session.loop = some loop) :
    (session.timeline consumer).goOn (loop.task consumer) =
      (session.goOn consumer loop).timeline consumer := by
  have own : (session.reach loop.due).Owns loop.number := by
    intro other same
    obtain rfl := Option.some.inj (found.symm.trans same)
    rfl
  unfold Timeline.goOn goOn PollLoop.task
  cases stage : loop.stage with
  | beginning =>
      dsimp only [LoopStage.activity]
      split
      · exact timeline_beginPolling ticks own
      · exact timeline_plan _ .firstPoll own
  | firstPoll => exact timeline_beginPolling ticks own
  | nextPoll planned =>
      dsimp only [LoopStage.activity]
      rw [← PollingConsumer.unmarked_tellPoll]
      exact timeline_poll ticks own
  | underway planned rest => exact timeline_poll ticks own

theorem timeline_catchUp (ticks : 0 < consumer.config.interval.nanoseconds) (place : Nat × Nat)
    (fuel : Nat) (session : Session) :
    Timeline.catchUp place fuel (session.timeline consumer) =
      (session.catchUp consumer place fuel).timeline consumer := by
  induction fuel generalizing session with
  | zero => rfl
  | succ fuel inductionHypothesis =>
      unfold Timeline.catchUp catchUp
      cases found : session.loop with
      | none =>
          have nothing : (session.timeline consumer).tasks = [] := by rw [timeline, found]; rfl
          rw [nothing]
          rfl
      | some loop =>
          have alone : (session.timeline consumer).tasks = [loop.task consumer] := by
            rw [timeline, found]
            rfl
          rw [alone]
          dsimp only [Timeline.nextBefore]
          by_cases first : Timeline.comesBefore (loop.due, loop.turn) place = true
          · have next : (if Timeline.comesBefore ((loop.task consumer).due, (loop.task consumer).turn)
                place then some (loop.task consumer) else none) = some (loop.task consumer) :=
              if_pos first
            rw [next, if_pos first]
            dsimp only
            rw [timeline_goOn ticks found, inductionHypothesis]
          · have next : (if Timeline.comesBefore ((loop.task consumer).due, (loop.task consumer).turn)
                place then some (loop.task consumer) else none) = none := if_neg first
            rw [next, if_neg first]

theorem timeline_passUntil (ticks : 0 < consumer.config.interval.nanoseconds) (place : Nat × Nat)
    (session : Session) :
    (session.timeline consumer).passUntil place =
      (session.passUntil consumer place).timeline consumer := by
  unfold Timeline.passUntil passUntil
  dsimp only
  rw [show (session.timeline consumer).now = session.base.now from rfl, timeline_catchUp ticks]
  rfl

theorem timeline_run (ticks : 0 < consumer.config.interval.nanoseconds)
    (routine : Routine Broker Unit) (session : Session) :
    (Timeline.run routine (session.timeline consumer)).2 =
      (session.run consumer routine).timeline consumer := by
  induction routine generalizing session with
  | done value => rfl
  | get next inductionHypothesis => exact inductionHypothesis session.base.broker session
  | put broker next inductionHypothesis => exact inductionHypothesis (session.hold broker)
  | sleep span next inductionHypothesis =>
      have passed := timeline_passUntil ticks (session.base.now + span.nanoseconds, 0) session
      unfold Timeline.run run
      rw [← inductionHypothesis, ← passed]
      rfl

theorem timeline_finish (ticks : 0 < consumer.config.interval.nanoseconds)
    (rest : Marked PollMark Broker (Except Failure Nat)) (session : Session) :
    (Timeline.runTask rest.unmarked (session.timeline consumer)).2 =
      (session.finish consumer rest).timeline consumer := by
  induction rest generalizing session with
  | done value => rfl
  | get next inductionHypothesis => exact inductionHypothesis session.base.broker session
  | put broker next inductionHypothesis => exact inductionHypothesis (session.hold broker)
  | sleep span next inductionHypothesis =>
      have passed := timeline_passUntil ticks
        (session.base.now + span.nanoseconds, session.base.turns) session.takeTurn
      unfold Marked.unmarked Timeline.runTask finish
      rw [← inductionHypothesis, ← passed]
      rfl
  | mark mark next inductionHypothesis => exact inductionHypothesis (session.tell [.polling mark])

@[simp]
theorem now_timeline (session : Session) : (session.timeline consumer).now = session.base.now :=
  rfl

theorem timeline_windDown (ticks : 0 < consumer.config.interval.nanoseconds) (lost planned : Nat)
    (session : Session) :
    (session.timeline consumer).windDown consumer lost planned =
      (session.windDown consumer lost planned).timeline consumer := by
  induction lost generalizing planned session with
  | zero => rfl
  | succ lost inductionHypothesis =>
      unfold Timeline.windDown windDown
      rw [now_timeline]
      split
      · rw [← PollingConsumer.unmarked_tellPoll, timeline_finish ticks]
        exact inductionHypothesis _ _
      · rfl

theorem timeline_windDownEarly (ticks : 0 < consumer.config.interval.nanoseconds) (lost : Nat)
    (session : Session) :
    (session.timeline consumer).windDownEarly consumer lost =
      (session.windDownEarly consumer lost).timeline consumer := by
  have ticking : consumer.config.interval.isZero = false :=
    beq_eq_false_iff_ne.mpr (Nat.ne_of_gt ticks)
  cases lost with
  | zero => rfl
  | succ lost =>
      unfold Timeline.windDownEarly
      rw [ticking]
      exact timeline_windDown ticks lost session.base.now session

theorem timeline_shutDown (ticks : 0 < consumer.config.interval.nanoseconds) (lost : Nat)
    (loop : PollLoop) (session : Session) :
    (session.timeline consumer).shutDown lost (loop.task consumer) =
      (session.shutDown consumer lost loop).timeline consumer := by
  unfold Timeline.shutDown shutDown PollLoop.task
  cases stage : loop.stage with
  | beginning =>
      dsimp only [LoopStage.activity]
      split
      · exact timeline_windDownEarly ticks lost session
      · rfl
  | firstPoll =>
      dsimp only [LoopStage.activity]
      rw [now_timeline]
      split
      · exact timeline_windDownEarly ticks lost session
      · rfl
  | nextPoll planned => exact timeline_windDown ticks lost planned session
  | underway planned rest =>
      dsimp only [LoopStage.activity]
      rw [timeline_finish ticks]
      exact timeline_windDown ticks lost planned _

/-! ## Starting and stopping -/

/-- A start fails while there is a loop, and makes one if there is none. -/
theorem start_eq (session : Session) :
    (session.state consumer).start (session.timeline consumer) =
      match session.loop with
      | some _ => .error (.lifecycle ("consumer for " ++ consumer.uri ++ " is already running"))
      | none => .ok (session.start.state consumer, session.start.timeline consumer) := by
  unfold ConsumerState.start start state
  cases found : session.loop with
  | some loop => rfl
  | none =>
      have begun := @timeline_plan consumer session session.base.started session.base.now .beginning
        (by rw [Owns, found]; nofun)
      refine congrArg Except.ok (Prod.ext rfl ?_)
      change { (session.timeline consumer).plan session.base.started session.base.now
        (LoopStage.beginning.activity consumer) with started := session.base.started + 1 } = _
      rw [begun]
      rfl

/-- Without a loop nothing happens while time passes. -/
theorem passUntil_of_alone (place : Nat × Nat) {session : Session} (alone : session.loop = none) :
    session.passUntil consumer place = session.reach place.1 := by
  have same : ∀ fuel, session.catchUp consumer place fuel = session := by
    intro fuel
    cases fuel with
    | zero => rfl
    | succ fuel =>
        unfold catchUp
        rw [alone]
  rw [passUntil, same]

theorem loop_passUntil (place : Nat × Nat) {session : Session} (alone : session.loop = none) :
    (session.passUntil consumer place).loop = none := by
  rw [passUntil_of_alone place alone]
  exact alone

theorem loop_finish (rest : Marked PollMark Broker (Except Failure Nat)) {session : Session}
    (alone : session.loop = none) : (session.finish consumer rest).loop = none := by
  induction rest generalizing session with
  | done value => exact alone
  | get next inductionHypothesis => exact inductionHypothesis session.base.broker alone
  | put broker next inductionHypothesis => exact @inductionHypothesis (session.hold broker) alone
  | sleep span next inductionHypothesis =>
      exact inductionHypothesis () (@loop_passUntil consumer _ session.takeTurn alone)
  | mark mark next inductionHypothesis =>
      exact @inductionHypothesis (session.tell [.polling mark]) alone

theorem loop_windDown (lost planned : Nat) {session : Session} (alone : session.loop = none) :
    (session.windDown consumer lost planned).loop = none := by
  induction lost generalizing planned session with
  | zero => exact alone
  | succ lost inductionHypothesis =>
      unfold windDown
      split
      · exact inductionHypothesis _ (loop_finish _ alone)
      · exact alone

theorem loop_windDownEarly (lost : Nat) {session : Session} (alone : session.loop = none) :
    (session.windDownEarly consumer lost).loop = none := by
  cases lost with
  | zero => exact alone
  | succ lost => exact loop_windDown lost _ alone

theorem loop_shutDown (lost : Nat) (loop : PollLoop) {session : Session}
    (alone : session.loop = none) : (session.shutDown consumer lost loop).loop = none := by
  unfold shutDown
  split
  · split
    · exact loop_windDownEarly lost alone
    · exact alone
  · split
    · exact loop_windDownEarly lost alone
    · exact alone
  · exact loop_windDown lost _ alone
  · exact loop_windDown lost _ (loop_finish _ alone)

/-- A stop waits for the end of the loop, however often its shutdown loses. -/
theorem loop_halt (lost : Nat) (session : Session) :
    (session.halt consumer lost).loop = none := by
  unfold halt
  split
  · exact loop_shutDown lost _ (loop_passUntil _ rfl)
  · assumption

theorem timeline_halt (ticks : 0 < consumer.config.interval.nanoseconds) (lost : Nat)
    (session : Session) :
    ((session.state consumer).stop lost (session.timeline consumer)).2 =
      (session.halt consumer lost).timeline consumer := by
  unfold ConsumerState.stop halt state
  cases found : session.loop with
  | none => rfl
  | some loop =>
      have stopping : (session.timeline consumer).drop loop.number =
          { session with loop := none }.timeline consumer := by
        simp [timeline, found, Timeline.drop, PollLoop.task]
      have alone : (session.timeline consumer).task? loop.number = some (loop.task consumer) := by
        simp [timeline, found, Timeline.task?, PollLoop.task]
      dsimp only [Option.map_some]
      unfold Timeline.stop
      rw [alone, stopping]
      dsimp only
      rw [timeline_passUntil ticks]
      exact timeline_shutDown ticks lost loop _

theorem stop_eq (ticks : 0 < consumer.config.interval.nanoseconds) (lost : Nat)
    (session : Session) :
    (session.state consumer).stop lost (session.timeline consumer) =
      ((session.stop consumer lost).state consumer,
        (session.stop consumer lost).timeline consumer) := by
  refine Prod.ext ?_ (timeline_halt ticks lost session)
  have alone : (session.stop consumer lost).loop = none := loop_halt lost session
  change (⟨consumer, false, none⟩ : ConsumerState) = (session.stop consumer lost).state consumer
  rw [state.eq_def, alone]
  rfl

/-! ## The loop keeps its number -/

theorem number_goOn (loop : PollLoop) (session : Session) :
    (session.goOn consumer loop).loop.map PollLoop.number = some loop.number := by
  unfold goOn
  dsimp only
  split
  · split <;> rfl
  · rfl
  · rfl
  · rfl

theorem number_catchUp (place : Nat × Nat) (fuel : Nat) (session : Session) :
    (session.catchUp consumer place fuel).loop.map PollLoop.number =
      session.loop.map PollLoop.number := by
  induction fuel generalizing session with
  | zero => rfl
  | succ fuel inductionHypothesis =>
      unfold catchUp
      split
      · rename_i loop found
        split
        · rw [inductionHypothesis, number_goOn, found]
          rfl
        · rfl
      · rfl

theorem number_run (routine : Routine Broker Unit) (session : Session) :
    (session.run consumer routine).loop.map PollLoop.number =
      session.loop.map PollLoop.number := by
  induction routine generalizing session with
  | done value => rfl
  | get next inductionHypothesis => exact inductionHypothesis session.base.broker session
  | put broker next inductionHypothesis => exact inductionHypothesis (session.hold broker)
  | sleep span next inductionHypothesis =>
      exact (inductionHypothesis () _).trans (number_catchUp _ _ session)

/-! ## Requests -/

/-- What is told of a request is what becomes of the consumer and the timeline. -/
theorem perform_eq (ticks : 0 < consumer.config.interval.nanoseconds) (request : ConsumerRequest)
    (session : Session) :
    request.perform (session.state consumer, session.timeline consumer) =
      ((session.answer consumer request).state consumer,
        (session.answer consumer request).timeline consumer) := by
  cases request with
  | start =>
      unfold ConsumerRequest.perform
      dsimp only
      rw [start_eq]
      cases found : session.loop with
      | none => rfl
      | some loop =>
          have refused : session.start = session.tell [.refused] := by
            unfold start
            rw [found]
          rw [answer, refused]
          rfl
  | stop lost => exact stop_eq ticks lost session
  | meanwhile routine =>
      refine Prod.ext ?_ (timeline_run ticks routine session)
      change session.state consumer = (session.run consumer routine).state consumer
      rw [state, state, number_run]

theorem performAll_eq (ticks : 0 < consumer.config.interval.nanoseconds)
    (requests : List ConsumerRequest) (session : Session) :
    ConsumerRequest.performAll requests (session.state consumer, session.timeline consumer) =
      ((session.answerAll consumer requests).state consumer,
        (session.answerAll consumer requests).timeline consumer) := by
  induction requests generalizing session with
  | nil => rfl
  | cons request requests inductionHypothesis =>
      have first := perform_eq ticks request session
      unfold ConsumerRequest.performAll answerAll at *
      rw [List.foldl_cons, List.foldl_cons, first]
      exact inductionHypothesis (session.answer consumer request)

end Session

end MessageRouting
