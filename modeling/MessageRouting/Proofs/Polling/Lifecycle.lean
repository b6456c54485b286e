import MessageRouting.Proofs.Polling.Session

/-!
# The life of a polling consumer

A consumer is started and stopped again and again, with anything in between. What is
told of it goes from one standing to the next: it is off, or it was started at some
time and its polls follow their course. Each step of the loop keeps this, whatever
the moment at which a stop arrives.
-/

namespace MessageRouting

/-! ## What a log says -/

/-- Where a consumer stands. It was not started, or was stopped since; or it was started at a time,
and its polls stand on their course. -/
inductive Standing where
  | off
  | on (since : Nat) (course : Course)
deriving DecidableEq, Repr

namespace Standing

/-- The time of the start that stands open. -/
def since? : Standing → Option Nat
  | off => none
  | on since _ => some since

def course : Standing → Course
  | off => .idle
  | on _ course => course

/-- What may be told of a consumer with an initial delay, and how it stands then. -/
inductive Goes (delay : Nat) : Standing → Nat × LifeEvent → Standing → Prop
  | started (time : Nat) : Goes delay off (time, .started) (on time .idle)
  | refused (since time : Nat) (course : Course) :
      Goes delay (on since course) (time, .refused) (on since course)
  | unstarted (time : Nat) : Goes delay off (time, .stopped) off
  | stopped (since time : Nat) : Goes delay (on since .idle) (time, .stopped) off
  | polling {since time : Nat} {course after : Course} {mark : PollMark} :
      since + delay ≤ time → course.after? mark = some after →
        Goes delay (on since course) (time, .polling mark) (on since after)

/-- How a consumer stands that was off at first, behind a log. -/
inductive Follows (delay : Nat) : List (Nat × LifeEvent) → Standing → Prop
  | nothing : Follows delay [] off
  | more {log : List (Nat × LifeEvent)} {standing next : Standing} {entry : Nat × LifeEvent} :
      Follows delay log standing → Goes delay standing entry next →
        Follows delay (log ++ [entry]) next

end Standing

namespace LifeEvent

/-- The time of the last start, unless a stop followed. -/
def openSince (log : List (Nat × LifeEvent)) : Option Nat :=
  log.foldl (fun since entry =>
    match entry with
    | (time, started) => some time
    | (_, stopped) => none
    | _ => since) none

def marks (log : List (Nat × LifeEvent)) : List PollMark :=
  log.filterMap fun entry =>
    match entry.2 with
    | polling mark => some mark
    | _ => none

end LifeEvent

/-! ## What follows from the standings -/

namespace Standing

variable {delay : Nat} {standing : Standing} {log : List (Nat × LifeEvent)}

/-- At each entry of a log there is a standing before it and one behind it. -/
theorem Follows.split (follows : Follows delay log standing) {earlier later : List (Nat × LifeEvent)}
    {entry : Nat × LifeEvent} (whole : log = earlier ++ entry :: later) :
    ∃ before after, Follows delay earlier before ∧ Goes delay before entry after := by
  induction follows generalizing later with
  | nothing => simp at whole
  | more first goes inductionHypothesis =>
      rcases later.eq_nil_or_concat with rfl | ⟨rest, last, rfl⟩
      · obtain ⟨rfl, same⟩ := List.append_inj' whole rfl
        cases same
        exact ⟨_, _, first, goes⟩
      · rw [List.concat_eq_append, ← List.cons_append, ← List.append_assoc] at whole
        obtain ⟨rfl, _⟩ := List.append_inj' whole rfl
        exact inductionHypothesis rfl

/-- The standing knows the time of the start that stands open. -/
theorem Follows.openSince_eq (follows : Follows delay log standing) :
    LifeEvent.openSince log = standing.since? := by
  induction follows with
  | nothing => rfl
  | more first goes inductionHypothesis =>
      unfold LifeEvent.openSince at inductionHypothesis ⊢
      rw [List.foldl_append, inductionHypothesis]
      cases goes <;> rfl

/-- The polls follow their course through the whole log. -/
theorem Follows.course_eq (follows : Follows delay log standing) :
    Course.idle.afterAll? (LifeEvent.marks log) = some standing.course := by
  induction follows with
  | nothing => rfl
  | more first goes inductionHypothesis =>
      unfold LifeEvent.marks at inductionHypothesis ⊢
      rw [List.filterMap_append, Course.afterAll?_append, inductionHypothesis]
      cases goes with
      | polling late goesOn =>
          refine (Course.afterAll?_cons _ _ _).trans ?_
          rw [course, goesOn]
          rfl
      | started => rfl
      | unstarted => rfl
      | refused => rfl
      | stopped => rfl

theorem Follows.marks {since time : Nat} {course next : Course} {marks : List PollMark}
    (follows : Follows delay log (on since course)) (late : since + delay ≤ time)
    (goesOn : course.afterAll? marks = some next) :
    Follows delay (log ++ marks.map fun mark => (time, .polling mark)) (on since next) := by
  induction marks generalizing log course with
  | nil =>
      cases goesOn
      rwa [List.map_nil, List.append_nil]
  | cons mark marks inductionHypothesis =>
      rw [Course.afterAll?_cons, Option.bind_eq_some_iff] at goesOn
      obtain ⟨between, first, rest⟩ := goesOn
      have further := inductionHypothesis (follows.more (.polling late first)) rest
      rwa [List.append_assoc] at further

end Standing

/-! ## Standings of a session -/

section

variable (consumer : PollingConsumer)

def PollingConsumer.initially : Nat :=
  consumer.config.initialDelay.nanoseconds

def PollLoop.Stands (since now : Nat) (course : Course) (loop : PollLoop) : Prop :=
  match loop.stage with
  | .beginning => course = .idle ∧ since ≤ now
  | .firstPoll => course = .idle ∧ since + consumer.initially ≤ loop.due
  | .nextPoll _ => course = .idle ∧ since + consumer.initially ≤ now
  | .underway _ rest => since + consumer.initially ≤ now ∧
      ∀ found, consumer.Holds course.held found → consumer.Conducts course rest found

def Session.HasLoop (session : Session) : Standing → Prop
  | .off => session.loop = none
  | .on since course => ∃ loop, session.loop = some loop ∧
      loop.Stands consumer since session.base.now course

/-- The session is where its log says. -/
structure Session.Stands (session : Session) (standing : Standing) : Prop where
  follows : Standing.Follows consumer.initially session.log standing
  holds : consumer.Holds standing.course.held session.base.broker
  loop : session.HasLoop consumer standing

end

namespace Session

open PollingConsumer

variable {consumer : PollingConsumer} {session : Session} {standing : Standing} {since : Nat}
  {course : Course} {rest : Marked PollMark Broker (Except Failure Nat)}

theorem Stands.reach (stands : session.Stands consumer standing) (instant : Nat) :
    (session.reach instant).Stands consumer standing := by
  refine ⟨stands.follows, stands.holds, ?_⟩
  have later : session.base.now ≤ max session.base.now instant := Nat.le_max_left _ _
  have loop := stands.loop
  cases standing with
  | off => exact loop
  | on since course =>
      obtain ⟨loop, found, stands⟩ := loop
      refine ⟨loop, found, ?_⟩
      unfold PollLoop.Stands at stands ⊢
      cases stage : loop.stage <;> rw [stage] at stands
      · exact ⟨stands.1, Nat.le_trans stands.2 later⟩
      · exact stands
      · exact ⟨stands.1, Nat.le_trans stands.2 later⟩
      · exact ⟨Nat.le_trans stands.1 later, stands.2⟩

/-- Where the loop stands after a stretch, with a course behind it. -/
def Stretch.Reaches (consumer : PollingConsumer) (made : Stretch) (course : Course) : Prop :=
  consumer.Holds course.held made.broker ∧
    match made.stage with
    | .underway _ left => ∀ found, consumer.Holds course.held found →
        consumer.Conducts course left found
    | .nextPoll _ => course = .idle
    | _ => False

/-- Polls made at once conduct their courses one after another. -/
theorem reaches_stretch (minds : consumer.Minds) {broker : Broker} (now rounds planned : Nat)
    (conducts : consumer.Conducts course rest broker) :
    ∃ next, course.afterAll? (stretch consumer now rounds planned rest broker).marks = some next ∧
      (stretch consumer now rounds planned rest broker).Reaches consumer next := by
  induction rounds using Nat.strongRecOn generalizing planned course rest broker with
  | ind rounds inductionHypothesis =>
      obtain ⟨next, goesOn, stands⟩ := conducts.advance
      cases advanced : rest.advance broker with
      | mk progress after =>
          rw [advanced] at stands
          cases progress with
          | waiting span left =>
              rw [stretch_of_waiting advanced]
              exact ⟨next, goesOn, stands⟩
          | finished value =>
              obtain ⟨rfl, holds⟩ := stands
              rcases stretch_of_finished advanced with rests | ⟨fewer, less, goesFurther⟩
              · rw [rests]
                exact ⟨.idle, goesOn, holds, rfl⟩
              · obtain ⟨last, further, reaches⟩ := inductionHypothesis fewer less
                  (planned + consumer.config.interval.nanoseconds) (conducts_tellPoll minds holds)
                rw [goesFurther]
                refine ⟨last, ?_, reaches⟩
                rw [Course.afterAll?_append, goesOn]
                exact further

/-- The session is where its log says, and the start of the given time stands open, if any. -/
def Continues (consumer : PollingConsumer) (session : Session) (since : Option Nat) : Prop :=
  ∃ standing, session.Stands consumer standing ∧ standing.since? = since

theorem continues_poll (minds : consumer.Minds) (number planned : Nat)
    (follows : Standing.Follows consumer.initially session.log (.on since course))
    (late : since + consumer.initially ≤ session.base.now)
    (conducts : consumer.Conducts course rest session.base.broker) :
    (session.poll consumer number planned rest).Continues consumer (some since) := by
  obtain ⟨next, goesOn, holds, stage⟩ := reaches_stretch minds session.base.now
    (session.base.now + 1 - planned) planned conducts
  refine ⟨.on since next, ⟨?_, holds, ⟨_, rfl, ?_⟩⟩, rfl⟩
  · have further := follows.marks late goesOn
    simp only [poll, plan, takeTurn, tell, hold, List.map_map]
    exact further
  · change PollLoop.Stands consumer since session.base.now next ⟨_, _, _, _⟩
    unfold PollLoop.Stands
    dsimp only
    split at stage
    · rename_i made
      rw [made]
      exact ⟨late, stage⟩
    · rename_i made
      rw [made]
      exact ⟨stage, late⟩
    · contradiction

theorem continues_beginPolling (minds : consumer.Minds) (number : Nat)
    (stands : session.Stands consumer (.on since .idle))
    (late : since + consumer.initially ≤ session.base.now) :
    (session.beginPolling consumer number).Continues consumer (some since) :=
  continues_poll minds number _ stands.follows late (conducts_tellPoll minds stands.holds)

/-- Whenever the loop goes on, the session goes on with its course. -/
theorem continues_goOn (minds : consumer.Minds) {loop : PollLoop}
    (stands : session.Stands consumer (.on since course)) (found : session.loop = some loop) :
    (session.goOn consumer loop).Continues consumer (some since) := by
  obtain ⟨other, same, position⟩ := stands.loop
  obtain rfl := Option.some.inj (found.symm.trans same)
  have reached := stands.reach loop.due
  have now : session.base.now ≤ (session.reach loop.due).base.now := Nat.le_max_left _ _
  have due : loop.due ≤ (session.reach loop.due).base.now := Nat.le_max_right _ _
  unfold PollLoop.Stands at position
  unfold goOn
  dsimp only
  cases stage : loop.stage with
  | beginning =>
      rw [stage] at position
      obtain ⟨rfl, begun⟩ := position
      dsimp only
      split
      · rename_i immediate
        have nothing : consumer.initially = 0 := eq_of_beq immediate
        refine continues_beginPolling minds loop.number reached ?_
        rw [nothing]
        exact Nat.le_trans begun now
      · refine ⟨.on since .idle, ⟨reached.follows, reached.holds, ⟨_, rfl, rfl, ?_⟩⟩, rfl⟩
        exact Nat.add_le_add_right (Nat.le_trans begun now) _
  | firstPoll =>
      rw [stage] at position
      obtain ⟨rfl, late⟩ := position
      exact continues_beginPolling minds loop.number reached (Nat.le_trans late due)
  | nextPoll planned =>
      rw [stage] at position
      obtain ⟨rfl, late⟩ := position
      exact continues_poll minds loop.number _ reached.follows (Nat.le_trans late now)
        (conducts_tellPoll minds reached.holds)
  | underway planned rest =>
      rw [stage] at position
      exact continues_poll minds loop.number _ reached.follows (Nat.le_trans position.1 now)
        (position.2 _ reached.holds)

theorem continues_catchUp (minds : consumer.Minds) (place : Nat × Nat) (fuel : Nat)
    {session : Session} {since : Option Nat} (continues : session.Continues consumer since) :
    (session.catchUp consumer place fuel).Continues consumer since := by
  induction fuel generalizing session with
  | zero => exact continues
  | succ fuel inductionHypothesis =>
      unfold catchUp
      split
      · rename_i loop found
        split
        · obtain ⟨standing, stands, rfl⟩ := continues
          cases standing with
          | off => exact absurd (found.symm.trans stands.loop) (Option.some_ne_none loop)
          | on since course => exact inductionHypothesis (continues_goOn minds stands found)
        · exact continues
      · exact continues

theorem continues_passUntil (minds : consumer.Minds) (place : Nat × Nat) {session : Session}
    {since : Option Nat} (continues : session.Continues consumer since) :
    (session.passUntil consumer place).Continues consumer since := by
  obtain ⟨standing, stands, same⟩ := continues_catchUp minds place
    (((session.timeline consumer).tasks.length + 1) * (place.1 + 2 - session.base.now) * 2) continues
  exact ⟨standing, stands.reach place.1, same⟩

/-- What the foreground does in between leaves the claims alone. -/
theorem continues_run (minds : consumer.Minds) {routine : Routine Broker Unit} {session : Session}
    {since : Option Nat} (spares : routine.Respects consumer.Spares session.base.broker)
    (continues : session.Continues consumer since) :
    (session.run consumer routine).Continues consumer since := by
  induction routine generalizing session with
  | done value => exact continues
  | get next inductionHypothesis => exact inductionHypothesis session.base.broker spares continues
  | put broker next inductionHypothesis =>
      obtain ⟨standing, stands, same⟩ := continues
      refine @inductionHypothesis (session.hold broker) spares.2 ⟨standing, ?_, same⟩
      exact ⟨stands.follows, spares.1.holds stands.holds, stands.loop⟩
  | sleep span next inductionHypothesis =>
      exact inductionHypothesis () (spares _) (continues_passUntil minds _ continues)

/-! ## The end of a loop -/

/-- The loop was taken from its tasks, and between two polls it waits at a select. -/
structure Rests (consumer : PollingConsumer) (session : Session) (since : Nat) : Prop where
  alone : session.loop = none
  follows : Standing.Follows consumer.initially session.log (.on since .idle)
  holds : consumer.Holds [] session.base.broker

/-- What is left of a poll goes on to its end, at which the loop rests. -/
theorem rests_finish (alone : session.loop = none)
    (follows : Standing.Follows consumer.initially session.log (.on since course))
    (late : since + consumer.initially ≤ session.base.now)
    (conducts : consumer.Conducts course rest session.base.broker) :
    (session.finish consumer rest).Rests consumer since ∧
      since + consumer.initially ≤ (session.finish consumer rest).base.now := by
  induction rest generalizing session course with
  | done value =>
      obtain ⟨rfl, holds⟩ := conducts
      exact ⟨⟨alone, follows, holds⟩, late⟩
  | get next inductionHypothesis =>
      exact inductionHypothesis session.base.broker alone follows late conducts
  | put broker next inductionHypothesis =>
      exact @inductionHypothesis (session.hold broker) course alone follows late conducts
  | sleep span next inductionHypothesis =>
      unfold finish
      rw [@passUntil_of_alone consumer _ session.takeTurn alone]
      refine inductionHypothesis () alone follows ?_ (conducts.2 _ conducts.1)
      exact Nat.le_trans late (Nat.le_max_left _ _)
  | mark mark next inductionHypothesis =>
      obtain ⟨between, goesOn, later⟩ := conducts
      exact @inductionHypothesis (session.tell [.polling mark]) between alone
        (follows.more (.polling late goesOn)) late later

/-- Each select that the shutdown loses is followed by a whole poll. -/
theorem Rests.windDown (minds : consumer.Minds) (lost planned : Nat)
    (rests : session.Rests consumer since) (late : since + consumer.initially ≤ session.base.now) :
    (session.windDown consumer lost planned).Rests consumer since := by
  induction lost generalizing planned session with
  | zero => exact rests
  | succ lost inductionHypothesis =>
      unfold Session.windDown
      split
      · obtain ⟨further, later⟩ :=
          rests_finish rests.alone rests.follows late (conducts_tellPoll minds rests.holds)
        exact inductionHypothesis _ further later
      · exact rests

theorem Rests.windDownEarly (minds : consumer.Minds) (lost : Nat)
    (rests : session.Rests consumer since) (late : since + consumer.initially ≤ session.base.now) :
    (session.windDownEarly consumer lost).Rests consumer since := by
  cases lost with
  | zero => exact rests
  | succ lost => exact rests.windDown minds lost _ late

/-- Behind the end of the loop no poll is underway, whatever the loop was doing and however often
its shutdown lost. -/
theorem rests_halt (minds : consumer.Minds) (lost : Nat)
    (stands : session.Stands consumer (.on since course)) :
    (session.halt consumer lost).Rests consumer since := by
  obtain ⟨loop, found, position⟩ := stands.loop
  unfold halt
  rw [found]
  dsimp only
  rw [passUntil_of_alone _ rfl]
  have now (instant : Nat) : session.base.now ≤ max session.base.now instant := Nat.le_max_left _ _
  have rests (instant : Nat) (idle : course = .idle) :
      (({ session with loop := none } : Session).reach instant).Rests consumer since := by
    subst idle
    exact ⟨rfl, stands.follows, stands.holds⟩
  unfold shutDown
  unfold PollLoop.Stands at position
  cases stage : loop.stage with
  | beginning =>
      rw [stage] at position
      dsimp only
      split
      · rename_i immediate
        have nothing : consumer.initially = 0 := eq_of_beq immediate
        refine (rests _ position.1).windDownEarly minds lost ?_
        rw [nothing]
        exact Nat.le_trans position.2 (now _)
      · exact rests _ position.1
  | firstPoll =>
      rw [stage] at position
      dsimp only
      split
      · rename_i elapsed
        exact (rests _ position.1).windDownEarly minds lost (Nat.le_trans position.2 elapsed)
      · exact rests _ position.1
  | nextPoll planned =>
      rw [stage] at position
      refine (rests _ position.1).windDown minds lost planned ?_
      exact Nat.le_trans position.2 (now _)
  | underway planned rest =>
      rw [stage] at position
      obtain ⟨further, later⟩ := @rests_finish consumer
        (({ session with loop := none } : Session).reach loop.due) since course rest rfl
        stands.follows (Nat.le_trans position.1 (now _)) (position.2 _ stands.holds)
      unfold Timeline.wakes PollLoop.task
      rw [stage]
      exact further.windDown minds lost planned later

theorem stands_stop (minds : consumer.Minds) (lost : Nat)
    (stands : session.Stands consumer standing) :
    (session.stop consumer lost).Stands consumer .off := by
  cases standing with
  | off =>
      have nothing : session.halt consumer lost = session := by
        unfold halt
        rw [stands.loop]
      have still : session.stop consumer lost = session.tell [.stopped] := by rw [stop, nothing]
      rw [still]
      exact ⟨stands.follows.more (.unstarted _), stands.holds, stands.loop⟩
  | on since course =>
      have rests := rests_halt minds lost stands
      exact ⟨rests.follows.more (.stopped since _), rests.holds, rests.alone⟩

theorem stands_start (stands : session.Stands consumer standing) :
    ∃ next, session.start.Stands consumer next ∧ next.since?.isSome = true := by
  have loop := stands.loop
  unfold start
  cases standing with
  | off =>
      rw [loop]
      exact ⟨.on session.base.now .idle,
        ⟨stands.follows.more (.started _), stands.holds, ⟨_, rfl, rfl, Nat.le_refl _⟩⟩, rfl⟩
  | on since course =>
      obtain ⟨_, found, _⟩ := loop
      rw [found]
      exact ⟨.on since course,
        ⟨stands.follows.more (.refused since _ course), stands.holds, stands.loop⟩, rfl⟩

end Session

/-! ## Any sequence of requests -/

namespace ConsumerRequest

def opens (isOpen : Bool) : ConsumerRequest → Bool
  | start => true
  | stop _ => false
  | meanwhile _ => isOpen

/-- A start was not followed by a stop. -/
def leaveOpen (requests : List ConsumerRequest) : Bool :=
  requests.foldl opens false

/-- What is done between the calls leaves the claims of the consumer alone. -/
def Spare (consumer : PollingConsumer) (requests : List ConsumerRequest) : Prop :=
  ∀ routine, meanwhile routine ∈ requests → ∀ broker, routine.Respects consumer.Spares broker

end ConsumerRequest

namespace Session

variable {consumer : PollingConsumer} {session : Session} {standing : Standing}

theorem stands_answer (minds : consumer.Minds) (request : ConsumerRequest)
    (spare : ∀ routine, request = .meanwhile routine →
      ∀ broker, routine.Respects consumer.Spares broker)
    (stands : session.Stands consumer standing) :
    ∃ next, (session.answer consumer request).Stands consumer next ∧
      next.since?.isSome = request.opens standing.since?.isSome := by
  cases request with
  | start => exact stands_start stands
  | stop lost => exact ⟨.off, stands_stop minds lost stands, rfl⟩
  | meanwhile routine =>
      obtain ⟨next, further, same⟩ :=
        continues_run minds (spare routine rfl _) ⟨standing, stands, rfl⟩
      exact ⟨next, further, congrArg Option.isSome same⟩

theorem stands_answerAll (minds : consumer.Minds) {requests : List ConsumerRequest}
    (spare : ConsumerRequest.Spare consumer requests) (stands : session.Stands consumer standing) :
    ∃ next, (session.answerAll consumer requests).Stands consumer next ∧
      next.since?.isSome = requests.foldl ConsumerRequest.opens standing.since?.isSome := by
  induction requests generalizing session standing with
  | nil => exact ⟨standing, stands, rfl⟩
  | cons request requests inductionHypothesis =>
      obtain ⟨between, first, opened⟩ := stands_answer minds request
        (fun routine same => spare routine (same ▸ List.mem_cons_self)) stands
      obtain ⟨next, rest, left⟩ := inductionHypothesis
        (fun routine member => spare routine (List.mem_cons_of_mem _ member)) first
      refine ⟨next, rest, ?_⟩
      rw [left, opened]
      rfl

end Session

/-- What the log of a consumer says of its life. It is started only while no start stands open, and
refused only while one does. Whatever happens in a poll happens while a start stands open, and not
before the initial delay has passed since. Polls do not overlap: whole ones follow one another, and
at most the last is not over. A call to stop returns when no poll is underway, so that a batch is
completed first. -/
structure Lifetime (consumer : PollingConsumer) (log : List (Nat × LifeEvent)) : Prop where
  started : ∀ {earlier time later}, log = earlier ++ (time, .started) :: later →
    LifeEvent.openSince earlier = none
  refused : ∀ {earlier time later}, log = earlier ++ (time, .refused) :: later →
    LifeEvent.openSince earlier ≠ none
  delayed : ∀ {earlier time mark later}, log = earlier ++ (time, .polling mark) :: later →
    ∃ since, LifeEvent.openSince earlier = some since ∧
      since + consumer.config.initialDelay.nanoseconds ≤ time
  apart : ∃ (batches : List (List String)) (part : List PollMark) (keys : List String),
    LifeEvent.marks log = batches.flatMap Course.whole ++ part ∧ part <+: Course.whole keys
  completed : ∀ {earlier time later}, log = earlier ++ (time, .stopped) :: later →
    ∃ batches : List (List String), LifeEvent.marks earlier = batches.flatMap Course.whole

theorem lifetime_of_follows {consumer : PollingConsumer} {log : List (Nat × LifeEvent)}
    {standing : Standing} (follows : Standing.Follows consumer.initially log standing) :
    Lifetime consumer log where
  started whole := by
    obtain ⟨before, _, first, goes⟩ := follows.split whole
    rw [first.openSince_eq]
    cases goes
    rfl
  refused whole := by
    obtain ⟨before, _, first, goes⟩ := follows.split whole
    rw [first.openSince_eq]
    cases goes
    nofun
  delayed whole := by
    obtain ⟨before, _, first, goes⟩ := follows.split whole
    rw [first.openSince_eq]
    cases goes with
    | polling late => exact ⟨_, rfl, late⟩
  apart := by
    obtain ⟨batches, part, keys, whole, beginning, _⟩ := Course.wholes_of_afterAll? follows.course_eq
    exact ⟨batches, part, keys, whole, beginning⟩
  completed whole := by
    obtain ⟨before, _, first, goes⟩ := follows.split whole
    obtain ⟨batches, part, _, whole, _, idleEnds⟩ := Course.wholes_of_afterAll? first.course_eq
    have idle : before.course = .idle := by cases goes <;> rfl
    rw [idleEnds idle, List.append_nil] at whole
    exact ⟨batches, whole⟩

/-- How a consumer and its timeline stand behind some requests, of which a log was kept. A start
fails exactly while an earlier one stands open, and after any stop the consumer can be started.
There is at most one loop. The keys in progress are those that were taken and not settled since;
while no start stands open there are none, and no loop. -/
structure StandsBehind (requests : List ConsumerRequest) (log : List (Nat × LifeEvent))
    (state : ConsumerState) (timeline : Timeline) : Prop where
  opened : (LifeEvent.openSince log).isSome = ConsumerRequest.leaveOpen requests
  refuses : ConsumerRequest.leaveOpen requests = true →
    state.start timeline =
      .error (.lifecycle ("consumer for " ++ state.consumer.uri ++ " is already running"))
  starts : ConsumerRequest.leaveOpen requests = false → ∃ begun, state.start timeline = .ok begun
  restarts : ∀ lost, ∃ begun,
    (state.stop lost timeline).1.start (state.stop lost timeline).2 = .ok begun
  oneLoop : timeline.tasks.length ≤ 1
  claims : timeline.broker.claims.get? state.consumer.claims =
    some (Course.inProgress (LifeEvent.marks log))
  quiet : ConsumerRequest.leaveOpen requests = false →
    timeline.tasks = [] ∧ Course.inProgress (LifeEvent.marks log) = []

namespace Session

variable {consumer : PollingConsumer} {session : Session} {standing : Standing}

/-- A consumer that was not started yet, with nothing in progress, stands where nothing was told. -/
theorem stands_outset {timeline : Timeline} (idle : consumer.Holds [] timeline.broker) :
    ({ base := timeline } : Session).Stands consumer .off :=
  ⟨.nothing, idle, rfl⟩

/-- A start stands open exactly while there is a loop. -/
theorem Stands.isSome_loop (stands : session.Stands consumer standing) :
    session.loop.isSome = standing.since?.isSome := by
  have loop := stands.loop
  cases standing with
  | off => rw [loop]; rfl
  | on since course =>
      obtain ⟨_, found, _⟩ := loop
      rw [found]
      rfl

theorem Stands.standsBehind {requests : List ConsumerRequest}
    (ticks : 0 < consumer.config.interval.nanoseconds)
    (stands : session.Stands consumer standing)
    (opened : standing.since?.isSome = ConsumerRequest.leaveOpen requests) :
    StandsBehind requests session.log (session.state consumer) (session.timeline consumer) := by
  have inProgress : Course.inProgress (LifeEvent.marks session.log) = standing.course.held :=
    Course.foldl_track stands.follows.course_eq
  have looping := stands.isSome_loop
  constructor
  · rw [stands.follows.openSince_eq, opened]
  · intro left
    rw [opened, left] at looping
    obtain ⟨loop, found⟩ := Option.isSome_iff_exists.mp looping
    rw [start_eq, found]
    rfl
  · intro closed
    rw [opened, closed] at looping
    have none := Option.isNone_iff_eq_none.mp (Option.isSome_eq_false_iff.mp looping)
    rw [start_eq, none]
    exact ⟨_, rfl⟩
  · intro lost
    have stopped : (session.stop consumer lost).loop = none := loop_halt lost session
    rw [stop_eq ticks, start_eq, stopped]
    exact ⟨_, rfl⟩
  · change (session.loop.map (PollLoop.task consumer)).toList.length ≤ 1
    cases session.loop <;> simp
  · rw [inProgress]
    exact stands.holds
  · intro closed
    rw [closed] at opened
    cases standing with
    | off =>
        refine ⟨?_, inProgress⟩
        change (session.loop.map (PollLoop.task consumer)).toList = []
        rw [stands.loop]
        rfl
    | on since course => cases opened

def patient : PollingConsumer :=
  { Polling.hesitant with config := { interval := .ofMillis 100, initialDelay := .ofMillis 20 } }

/-- A start too many, a stop during the initial delay, another start, and a stop while an item is
routed, whose shutdown loses so many selects. -/
def interrupting (lost : Nat) : List ConsumerRequest :=
  [.start, .start, .meanwhile (Routine.wait (.ofMillis 10)), .stop 0,
    .meanwhile (Routine.wait (.ofMillis 50)), .start, .meanwhile (Routine.wait (.ofMillis 30)),
    .stop lost, .meanwhile (Routine.wait (.ofMillis 1000))]

/-- However a consumer is started and stopped, and whatever is done in between, what is told of it is
what becomes of it, and its life and how it stands are as they should be. -/
theorem started_and_stopped (ticks : 0 < consumer.config.interval.nanoseconds)
    (minds : consumer.Minds) {timeline : Timeline} (alone : timeline.tasks = [])
    (idle : consumer.Holds [] timeline.broker) {requests : List ConsumerRequest}
    (spare : ConsumerRequest.Spare consumer requests) :
    let told := answerAll consumer { base := timeline } requests
    let run := ConsumerRequest.performAll requests ({ consumer := consumer }, timeline)
    (told.state consumer, told.timeline consumer) = run ∧ Lifetime consumer told.log ∧
      StandsBehind requests told.log run.1 run.2 := by
  intro told run
  have outset : ({ base := timeline } : Session).timeline consumer = timeline := by
    obtain ⟨broker, now, tasks⟩ := timeline
    obtain rfl : tasks = [] := alone
    rfl
  have same : run = (told.state consumer, told.timeline consumer) := by
    have performed := performAll_eq ticks requests { base := timeline }
    rw [outset] at performed
    exact performed
  obtain ⟨standing, stands, opened⟩ := stands_answerAll minds spare (stands_outset idle)
  refine ⟨same.symm, lifetime_of_follows stands.follows, ?_⟩
  rw [same]
  exact stands.standsBehind ticks opened

/-- The consumer stops at once in the first case. In the second it completes the batch. As the next
tick is due at that instant, it may poll once more before it takes the shutdown. -/
theorem started_and_stopped_interrupting :
    let timeline := { broker := { sources := ⟨[Polling.offering]⟩, claims := ⟨[[]]⟩ } }
    let told lost := answerAll patient { base := timeline } (interrupting lost)
    let run lost := ConsumerRequest.performAll (interrupting lost) ({ consumer := patient }, timeline)
    let batch := [(0, .started), (0, .refused), (10, .stopped), (60, .started),
      (80, .polling (.polled ["a", "b"])), (80, .polling (.routed "a")),
      (130, .polling (.settled "a")), (130, .polling (.routed "b")),
      (180, .polling (.settled "b")), (180, .polling .ended)]
    (told 0).log.map (fun entry => (entry.1 / 1000000, entry.2)) = batch ++ [(180, .stopped)] ∧
      (told 1).log.map (fun entry => (entry.1 / 1000000, entry.2)) =
        batch ++ [(180, .polling (.polled ["b"])), (180, .polling (.routed "b")),
          (230, .polling (.settled "b")), (230, .polling .ended), (230, .stopped)] ∧
      ∀ lost, ((told lost).state patient, (told lost).timeline patient) = run lost ∧
        Lifetime patient (told lost).log ∧
        StandsBehind (interrupting lost) (told lost).log (run lost).1 (run lost).2 := by
  have spare (lost : Nat) : ConsumerRequest.Spare patient (interrupting lost) := by
    intro routine member broker
    simp only [interrupting, List.mem_cons, reduceCtorEq, ConsumerRequest.meanwhile.injEq,
      false_or, List.not_mem_nil, or_false] at member
    rcases member with rfl | rfl | rfl | rfl <;> exact fun _ => trivial
  have minds : patient.Minds :=
    ⟨Polling.routes_hesitant.keeps, Polling.routes_hesitant.minds.spares⟩
  intro timeline told run batch
  refine ⟨by decide +kernel, by decide +kernel, fun lost => ?_⟩
  exact @started_and_stopped patient (by decide) minds timeline rfl rfl (interrupting lost)
    (spare lost)

end Session

end MessageRouting
