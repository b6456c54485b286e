import MessageRouting.Polling.Consumer

/-!
# Timelines

A timeline runs routines over one broker on a clock of its own. One routine runs
in the foreground; the others are tasks, which run whenever the foreground
waits. Time passes only when everything waits, and then the task that is due
first goes on; of tasks due at the same instant the one goes first that has
waited longer, after the foreground.
-/

namespace MessageRouting

/-- What a task does when it goes on. A consumer waits for its initial delay, polls for the first
time, polls at a planned time, or goes on with a poll after which the next one is planned. -/
inductive Activity where
  | poll (rest : Routine Broker (Except Failure Nat))
  | startConsumer (consumer : PollingConsumer)
  | firstPoll (consumer : PollingConsumer)
  | nextPoll (consumer : PollingConsumer) (planned : Nat)
  | consume (consumer : PollingConsumer) (planned : Nat)
      (rest : Routine Broker (Except Failure Nat))
  | cleanUp (queue : Nat) (interval : Duration) (planned : Nat)

/-- A task in the background. It goes on at the instant `due`, in nanoseconds, and among tasks that
are due at once in the order of their turns. -/
structure Task where
  number : Nat
  due : Nat
  turn : Nat
  activity : Activity

/-- A broker, a clock that shows nanoseconds, and the tasks in the background. The foreground has
turn 0, and results of polls in the background are kept by the number of the task. -/
structure Timeline where
  broker : Broker := {}
  now : Nat := 0
  tasks : List Task := []
  turns : Nat := 1
  started : Nat := 0
  results : List (Nat × Except Failure Nat) := []

namespace Timeline

/-! ## Tasks -/

/-- The first place comes before the second: an earlier instant, or an earlier turn at the same. -/
def comesBefore (first second : Nat × Nat) : Bool :=
  first.1 < second.1 || (first.1 == second.1 && first.2 < second.2)

def nextBefore (place : Nat × Nat) : List Task → Option Task
  | [] => none
  | task :: rest =>
      match nextBefore place rest with
      | some other =>
          if comesBefore (other.due, other.turn) (task.due, task.turn) then some other
          else some task
      | none => if comesBefore (task.due, task.turn) place then some task else none

def task? (timeline : Timeline) (number : Nat) : Option Task :=
  timeline.tasks.find? fun task => task.number == number

def drop (timeline : Timeline) (number : Nat) : Timeline :=
  { timeline with tasks := timeline.tasks.filter fun task => task.number != number }

/-- The timeline with a task that goes on at the given instant, behind all others. -/
def plan (timeline : Timeline) (number due : Nat) (activity : Activity) : Timeline :=
  { timeline.drop number with
    tasks := (timeline.drop number).tasks ++
      [{ number := number, due := due, turn := timeline.turns, activity := activity }]
    turns := timeline.turns + 1 }

/-- Starts a task, which goes on when the foreground waits: its number, and the timeline. -/
def start (timeline : Timeline) (activity : Activity) : Nat × Timeline :=
  (timeline.started,
    { timeline.plan timeline.started timeline.now activity with started := timeline.started + 1 })

/-! ## Going on -/

/-- Runs a consumer up to its next suspension at the instant `now`: when it goes on, with what, and
the broker. A poll that ends after the time that was planned for the next one is followed by that
one at once. -/
def consumeAt (now : Nat) (consumer : PollingConsumer) (planned : Nat)
    (rest : Routine Broker (Except Failure Nat)) (broker : Broker) : Nat × Activity × Broker :=
  match rest.advance broker with
  | (.waiting span rest, broker) =>
      (now + span.nanoseconds, .consume consumer planned rest, broker)
  | (.finished _, broker) =>
      if planned ≤ now ∧ 0 < consumer.config.interval.nanoseconds then
        consumeAt now consumer (planned + consumer.config.interval.nanoseconds) consumer.pollOnce
          broker
      else (planned, .nextPoll consumer planned, broker)
termination_by now + 1 - planned

/-- Runs a consumer up to its next suspension. -/
def consume (number : Nat) (consumer : PollingConsumer) (planned : Nat)
    (rest : Routine Broker (Except Failure Nat)) (timeline : Timeline) : Timeline :=
  let (due, activity, broker) := consumeAt timeline.now consumer planned rest timeline.broker
  { timeline with broker := broker }.plan number due activity

/-- Runs a consumer from its first poll, which sets the time of all later ones. A consumer without
an interval between its polls ends here. -/
def beginConsuming (number : Nat) (consumer : PollingConsumer) (timeline : Timeline) : Timeline :=
  if consumer.config.interval.isZero then timeline.drop number
  else
    timeline.consume number consumer (timeline.now + consumer.config.interval.nanoseconds)
      consumer.pollOnce

/-- Goes on with a task, to its next suspension or its end. -/
def goOn (task : Task) (timeline : Timeline) : Timeline :=
  let timeline := { timeline with now := max timeline.now task.due }
  match task.activity with
  | .poll rest =>
      match rest.advance timeline.broker with
      | (.waiting span rest, broker) =>
          { timeline with broker := broker }.plan task.number (timeline.now + span.nanoseconds)
            (.poll rest)
      | (.finished result, broker) =>
          { timeline.drop task.number with
            broker := broker
            results := timeline.results ++ [(task.number, result)] }
  | .startConsumer consumer =>
      if consumer.config.initialDelay.isZero then timeline.beginConsuming task.number consumer
      else
        timeline.plan task.number (timeline.now + consumer.config.initialDelay.nanoseconds)
          (.firstPoll consumer)
  | .firstPoll consumer => timeline.beginConsuming task.number consumer
  | .nextPoll consumer planned =>
      timeline.consume task.number consumer (planned + consumer.config.interval.nanoseconds)
        consumer.pollOnce
  | .consume consumer planned rest => timeline.consume task.number consumer planned rest
  | .cleanUp queue interval planned =>
      if interval.isZero then timeline.drop task.number
      else
        let now := timeline.broker.calendar
        { timeline with broker :=
            { timeline.broker with
              calendar := now + 1
              queues :=
                timeline.broker.queues.modify queue fun held => (held.cleanUp now).2 } }.plan
          task.number (planned + interval.nanoseconds)
          (.cleanUp queue interval (planned + interval.nanoseconds))

/-- Goes on with the tasks that come before the given place, in their order; `fuel` bounds their
number. -/
def catchUp (place : Nat × Nat) : Nat → Timeline → Timeline
  | 0, timeline => timeline
  | fuel + 1, timeline =>
      match nextBefore place timeline.tasks with
      | some task => catchUp place fuel (timeline.goOn task)
      | none => timeline

/-- Lets time pass until the given instant and turn. Each task goes on at most once for each
nanosecond and once more at each of its ends. -/
def passUntil (place : Nat × Nat) (timeline : Timeline) : Timeline :=
  let fuel := (timeline.tasks.length + 1) * (place.1 + 2 - timeline.now) * 2
  let timeline := catchUp place fuel timeline
  { timeline with now := max timeline.now place.1 }

/-! ## The foreground -/

/-- Runs a routine in the foreground: its result, and the timeline afterwards. While it waits, time
passes and the tasks go on. -/
def run : Routine Broker α → Timeline → α × Timeline
  | .done value, timeline => (value, timeline)
  | .get next, timeline => run (next timeline.broker) timeline
  | .put broker next, timeline => run next { timeline with broker := broker }
  | .sleep span next, timeline =>
      run (next ()) (timeline.passUntil (timeline.now + span.nanoseconds, 0))

/-- Runs what is left of a task while the foreground waits for it. -/
def runTask : Routine Broker α → Timeline → α × Timeline
  | .done value, timeline => (value, timeline)
  | .get next, timeline => runTask (next timeline.broker) timeline
  | .put broker next, timeline => runTask next { timeline with broker := broker }
  | .sleep span next, timeline =>
      runTask (next ())
        ({ timeline with turns := timeline.turns + 1 }.passUntil
          (timeline.now + span.nanoseconds, timeline.turns))

/-- Waits for the end of a poll in the background. -/
def await (timeline : Timeline) (number : Nat) : Except Failure Nat × Timeline :=
  match timeline.task? number with
  | some ⟨_, due, turn, .poll rest⟩ =>
      runTask rest ((timeline.drop number).passUntil (due, turn))
  | _ => ((timeline.results.lookup number).getD (.ok 0), timeline)

/-! ## Stopping

A consumer selects between its timer and its shutdown, and from a call to stop on its shutdown is
queued. Where the timer is ready as well, either may be taken. A stop is given the number of such
selects that the shutdown loses before it wins one, so that each stop that returns has its number;
a stop whose shutdown never wins does not return, but whatever is done up to some select of it is
also done with a large number. -/

/-- Runs a consumer to its end from the select at which it waits for the tick planned next. -/
def windDown (consumer : PollingConsumer) : Nat → Nat → Timeline → Timeline
  | 0, _, timeline => timeline
  | lost + 1, planned, timeline =>
      if planned ≤ timeline.now then
        windDown consumer lost (planned + consumer.config.interval.nanoseconds)
          (runTask consumer.pollOnce timeline).2
      else timeline

/-- Runs a consumer to its end from the select of its initial delay, which is over. The first tick
is ready at once; a consumer without an interval between its polls has none. -/
def windDownEarly (consumer : PollingConsumer) (lost : Nat) (timeline : Timeline) : Timeline :=
  match lost with
  | 0 => timeline
  | lost + 1 =>
      if consumer.config.interval.isZero then timeline
      else timeline.windDown consumer lost timeline.now

/-- Runs a task to its end once its shutdown is queued. A batch that is being routed is finished
before the next select. -/
def shutDown (lost : Nat) (task : Task) (timeline : Timeline) : Timeline :=
  match task.activity with
  | .startConsumer consumer =>
      if consumer.config.initialDelay.isZero then timeline.windDownEarly consumer lost
      else timeline
  | .firstPoll consumer =>
      if task.due ≤ timeline.now then timeline.windDownEarly consumer lost else timeline
  | .nextPoll consumer planned => timeline.windDown consumer lost planned
  | .consume consumer planned rest => (runTask rest timeline).2.windDown consumer lost planned
  | .poll _ => timeline
  | .cleanUp _ _ _ => timeline

/-- The place at which a task goes on once its shutdown is queued. One that waits at a select is
woken, unless its timer woke it before. -/
def wakes (timeline : Timeline) (task : Task) : Nat × Nat :=
  match task.activity with
  | .consume _ _ _ => (task.due, task.turn)
  | _ =>
      if task.due ≤ timeline.now then (task.due, task.turn) else (timeline.now, timeline.turns)

/-- Queues the shutdown of a consumer and waits for the end of its task. -/
def stop (timeline : Timeline) (number lost : Nat) : Timeline :=
  match timeline.task? number with
  | some task => ((timeline.drop number).passUntil (timeline.wakes task)).shutDown lost task
  | none => timeline

end Timeline

end MessageRouting
