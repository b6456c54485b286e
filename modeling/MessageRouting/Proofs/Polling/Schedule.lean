import Mathlib.Data.List.Forall2
import MessageRouting.Proofs.Polling.Exclusion

/-!
# Polls in any order

A scheduler starts polls and lets them go on one at a time, each up to its next
suspension, in any order and with anything in between. Whatever it does is what
the polls do step by step, so that no item is routed twice.
-/

namespace MessageRouting

/-! ## Schedules -/

/-- Polls that were started, as a scheduler sees them: the broker, where each poll stands, and the
keys of all items that were ever on offer. -/
structure Schedule where
  broker : Broker
  tasks : List (Routine.Progress Broker (Except Failure Nat)) := []
  known : List String

namespace Schedule

variable (consumer : PollingConsumer)

/-- Nothing was started yet. -/
def outset (broker : Broker) : Schedule where
  broker := broker
  known := (broker.sources.getD consumer.source).items.map PolledItem.key

/-- Starts a poll and lets it go on to its first suspension. -/
def start (schedule : Schedule) : Schedule where
  broker := (consumer.pollOnce.advance schedule.broker).2
  tasks := schedule.tasks ++ [(consumer.pollOnce.advance schedule.broker).1]
  known := schedule.known ++ consumer.pollOnce.changes consumer.added schedule.broker

/-- Lets the poll of a number go on to its next suspension. -/
def goOn (number : Nat) (schedule : Schedule) : Schedule :=
  match schedule.tasks[number]? with
  | some (.waiting _ rest) =>
      { broker := (rest.advance schedule.broker).2
        tasks := schedule.tasks.set number (rest.advance schedule.broker).1
        known := schedule.known ++ rest.changes consumer.added schedule.broker }
  | _ => schedule

/-- Puts other contents into the broker. -/
def turn (after : Broker) (schedule : Schedule) : Schedule :=
  { schedule with
    broker := after
    known := schedule.known ++ consumer.added schedule.broker after }

/-- A scheduler starts a poll, or lets one go on, or lets something else happen that leaves the
claims to the consumer and takes no item off its source. -/
inductive Step : Schedule → Schedule → Prop
  | start {schedule : Schedule} : Step schedule (schedule.start consumer)
  | goOn {schedule : Schedule} (number : Nat) : Step schedule (schedule.goOn consumer number)
  | turn {schedule : Schedule} {after : Broker} :
      consumer.Leaves schedule.broker after → Step schedule (schedule.turn consumer after)

/-- What a scheduler does from one moment to another. -/
def Runs : Schedule → Schedule → Prop :=
  Relation.ReflTransGen (Step consumer)

variable {consumer}

theorem Step.known_prefix {schedule next : Schedule} (step : Step consumer schedule next) :
    schedule.known <+: next.known := by
  cases step with
  | start => exact List.prefix_append _ _
  | goOn number =>
      unfold Schedule.goOn
      split
      · exact List.prefix_append _ _
      · exact List.prefix_refl _
  | turn => exact List.prefix_append _ _

end Schedule

/-! ## What is left of a poll -/

namespace PollingConsumer

def remaining (consumer : PollingConsumer) (batch : List PolledItem) (place : Nat) :
    Routine Broker (Except Failure Nat) := do
  consumer.routeBatch batch.length place (batch.drop place)
  return .ok batch.length

def conclude (consumer : PollingConsumer) (batch : List PolledItem) (place : Nat)
    (item : PolledItem) (exchange : Exchange) : Routine Broker (Except Failure Nat) := do
  let _ ← consumer.close item.key exchange
  consumer.remaining batch (place + 1)

variable {consumer : PollingConsumer} {batch : List PolledItem} {place : Nat} {item : PolledItem}

theorem pollOnce_eq :
    consumer.pollOnce = consumer.claim.bind fun
      | .error failure => .done (.error failure)
      | .ok batch => consumer.remaining batch 0 :=
  rfl

theorem remaining_over : consumer.remaining batch batch.length = .done (.ok batch.length) := by
  unfold remaining
  rw [List.drop_length]
  rfl

theorem remaining_of_found (found : batch[place]? = some item) :
    consumer.remaining batch place =
      (consumer.exchangeFor place batch.length item).bind fun exchange =>
        (consumer.processor.inUnitOfWork.invoke exchange).bind fun exchange =>
          (consumer.settle (!exchange.isFailed) item.key).bind fun _ =>
            consumer.remaining batch (place + 1) := by
  obtain ⟨bound, rfl⟩ := List.getElem?_eq_some_iff.mp found
  unfold remaining
  rw [List.drop_eq_getElem_cons bound]
  simp only [routeBatch, bind_assoc]
  rfl

theorem close_bind {β : Type} {key : String} {exchange : Exchange}
    (next : Bool → Routine Broker β) :
    (consumer.close key exchange).bind next =
      exchange.endUnitOfWork.bind fun ended =>
        (consumer.settle (!ended.isFailed) key).bind fun _ => next ended.isFailed := by
  change (do
    let ended ← exchange.endUnitOfWork
    consumer.settle (!ended.isFailed) key
    return ended.isFailed) >>= next = _
  simp only [bind_assoc, pure_bind]
  rfl

/-- The unit of work of an item begins before its routing and ends when it is closed. -/
theorem inUnitOfWork_conclude {exchange : Exchange} (outside : exchange.isInUnitOfWork = false) :
    ((consumer.processor.inUnitOfWork.invoke exchange).bind fun exchange =>
      (consumer.settle (!exchange.isFailed) item.key).bind fun _ =>
        consumer.remaining batch (place + 1)) =
    (consumer.processor.invoke exchange.enterUnitOfWork).bind
      (consumer.conclude batch place item) := by
  unfold Processor.inUnitOfWork
  rw [Processor.invoke_silent, outside, if_neg Bool.false_ne_true]
  refine (Routine.bind_assoc _ _ _).trans (congrArg _ (funext fun after => ?_))
  exact (close_bind fun _ => consumer.remaining batch (place + 1)).symm

end PollingConsumer

/-! ## The polls behind a schedule -/

/-- Where a poll stands: it is over, or it waits in the routing of an item. -/
inductive Poll.Stands (consumer : PollingConsumer) :
    Poll → Routine.Progress Broker (Except Failure Nat) → Prop
  | complete (batch : List PolledItem) :
      Stands consumer ⟨batch, batch.length, none⟩ (.finished (.ok batch.length))
  | underway {batch : List PolledItem} {ended : Nat} {item : PolledItem}
      {routine : Routine Broker Exchange} {span : Duration} :
      batch[ended]? = some item →
      Stands consumer ⟨batch, ended, some routine⟩
        (.waiting span (routine.bind (consumer.conclude batch ended item)))

namespace Polling

variable {consumer : PollingConsumer} {polling next : Polling} {claims : List String}
  {source : PollSource} {number : Nat}

/-- What the routine does up to its next suspension is what the poll of the number does step by
step. -/
def Traces (consumer : PollingConsumer) (polling : Polling) (number : Nat)
    (routine : Routine Broker (Except Failure Nat)) : Prop :=
  ∃ next poll, Runs consumer polling next ∧
    next.broker = (routine.advance polling.broker).2 ∧
    next.polls = polling.polls.set number poll ∧
    next.known = polling.known ++ routine.changes consumer.added polling.broker ∧
    poll.Stands consumer (routine.advance polling.broker).1

theorem Traces.head {routine rest : Routine Broker (Except Failure Nat)} {poll : Poll}
    (step : Step consumer polling next) (polls : next.polls = polling.polls.set number poll)
    (advance : routine.advance polling.broker = rest.advance next.broker)
    (known : polling.known ++ routine.changes consumer.added polling.broker =
      next.known ++ rest.changes consumer.added next.broker)
    (traces : Traces consumer next number rest) : Traces consumer polling number routine := by
  obtain ⟨last, later, runs, sameBroker, samePolls, sameKnown, stands⟩ := traces
  refine ⟨last, later, .head step runs, ?_, ?_, ?_, ?_⟩
  · rw [sameBroker, advance]
  · rw [samePolls, polls, List.set_set]
  · rw [sameKnown, known]
  · rw [advance]
    exact stands

variable {batch : List PolledItem} {ended : Nat}

theorem traces_over (found : polling.polls[number]? = some ⟨batch, batch.length, none⟩) :
    Traces consumer polling number (consumer.remaining batch batch.length) := by
  obtain ⟨before, after, split, changed⟩ := split_of_found found ⟨batch, batch.length, none⟩
  rw [PollingConsumer.remaining_over]
  exact ⟨polling, _, .refl, rfl, split.trans changed.symm, (List.append_nil _).symm,
    .complete batch⟩

/-- Routing an item suspends, or the item ends and the poll goes on with the others. -/
theorem traces_routing {routine : Routine Broker Exchange} {item : PolledItem}
    (routes : consumer.Routes) (sound : Sound consumer polling claims source)
    (found : polling.polls[number]? = some ⟨batch, ended, some routine⟩)
    (foundItem : batch[ended]? = some item)
    (fresh : (polling.known ++ (routine.bind (consumer.conclude batch ended item)).changes
      consumer.added polling.broker).Nodup)
    (others : ∀ {next claims source}, Sound consumer next claims source →
      next.polls[number]? = some ⟨batch, ended + 1, none⟩ →
      (next.known ++ (consumer.remaining batch (ended + 1)).changes consumer.added
        next.broker).Nodup →
      Traces consumer next number (consumer.remaining batch (ended + 1))) :
    Traces consumer polling number (routine.bind (consumer.conclude batch ended item)) := by
  obtain ⟨bound, _⟩ := List.getElem?_eq_some_iff.mp found
  cases moved : routine.advance polling.broker with
  | mk progress after =>
      cases progress with
      | waiting span rest =>
          have advance : (routine.bind (consumer.conclude batch ended item)).advance
              polling.broker =
              (.waiting span (rest.bind (consumer.conclude batch ended item)), after) :=
            Routine.advance_bind_of_waiting moved
          refine ⟨_, ⟨batch, ended, some rest⟩, .single (.suspends found moved), ?_, rfl, ?_, ?_⟩
          · rw [advance]
          · rw [Routine.changes_bind_of_waiting moved]
          · rw [advance]
            exact .underway foundItem
      | finished exchange =>
          obtain ⟨other, foundOther, leaves, releases⟩ :=
            (sound.polls _ (List.mem_of_getElem? found)).routing routine rfl
          obtain rfl := Option.some.inj (foundOther.symm.trans foundItem)
          obtain ⟨pushed, shown, _⟩ := sound.books.shows.advanced (leaves polling.broker)
          rw [moved] at shown
          obtain ⟨last, ends, _⟩ := PollingConsumer.ends_close shown sound.books.memory
            (releases exchange (Routine.gives_of_finished moved))
          have step := Step.ends found foundItem moved ends.advance
          have advance : (routine.bind (consumer.conclude batch ended other)).advance
              polling.broker = (consumer.remaining batch (ended + 1)).advance last :=
            (Routine.advance_bind_of_finished moved).trans ends.advance_bind
          have known : polling.known ++ (routine.bind (consumer.conclude batch ended other)).changes
              consumer.added polling.broker =
              (polling.known ++ routine.changes consumer.added polling.broker) ++
                (consumer.remaining batch (ended + 1)).changes consumer.added last := by
            rw [Routine.changes_bind_of_finished moved, List.append_assoc]
            exact congrArg (fun noted => _ ++ (_ ++ noted)) ends.changes_bind
          rw [known] at fresh
          obtain ⟨claims, source, ended⟩ :=
            sound.step routes step (fresh.sublist (List.sublist_append_left _ _))
          exact .head step rfl advance known (others ended (List.getElem?_set_self bound) fresh)

theorem traces_remaining (routes : consumer.Routes)
    (sound : Sound consumer polling claims source)
    (found : polling.polls[number]? = some ⟨batch, ended, none⟩)
    (fresh : (polling.known ++ (consumer.remaining batch ended).changes consumer.added
      polling.broker).Nodup) :
    Traces consumer polling number (consumer.remaining batch ended) := by
  -- The induction is on the number of items that are left.
  induction left : batch.length - ended generalizing ended polling claims source with
  | zero =>
      have within := (sound.polls _ (List.mem_of_getElem? found)).within
      obtain rfl : ended = batch.length := Nat.le_antisymm within (Nat.le_of_sub_eq_zero left)
      exact traces_over found
  | succ left inductionHypothesis =>
      obtain ⟨bound, _⟩ := List.getElem?_eq_some_iff.mp found
      have foundItem : batch[ended]? = some batch[ended] := List.getElem?_eq_getElem (by omega)
      obtain ⟨exchange, after, ends, _, outside, _⟩ :=
        PollingConsumer.ends_exchangeFor sound.books.shows
      have step := Step.begins found foundItem ends.advance
      have advance : (consumer.remaining batch ended).advance polling.broker =
          ((consumer.processor.invoke exchange.enterUnitOfWork).bind
            (consumer.conclude batch ended batch[ended])).advance after := by
        rw [PollingConsumer.remaining_of_found foundItem, ends.advance_bind,
          PollingConsumer.inUnitOfWork_conclude outside]
      have known : polling.known ++ (consumer.remaining batch ended).changes consumer.added
          polling.broker =
          polling.known ++ ((consumer.processor.invoke exchange.enterUnitOfWork).bind
            (consumer.conclude batch ended batch[ended])).changes consumer.added after := by
        rw [PollingConsumer.remaining_of_found foundItem, ends.changes_bind,
          PollingConsumer.inUnitOfWork_conclude outside]
      rw [known] at fresh
      obtain ⟨claims, source, begun⟩ :=
        sound.step routes step (fresh.sublist (List.sublist_append_left _ _))
      refine .head step rfl advance known
        (traces_routing routes begun (List.getElem?_set_self bound) foundItem fresh ?_)
      intro next claims source sound found fresh
      exact inductionHypothesis sound found fresh (by omega)

/-! ## Whole schedules -/

/-- The polls are those of the schedule, step by step. -/
structure Accounts (consumer : PollingConsumer) (polling : Polling) (schedule : Schedule) :
    Prop where
  broker : polling.broker = schedule.broker
  known : polling.known = schedule.known
  stands : List.Forall₂ (Poll.Stands consumer) polling.polls schedule.tasks

section

variable {polls : List Poll} {tasks : List (Routine.Progress Broker (Except Failure Nat))}
  {poll : Poll} {task : Routine.Progress Broker (Except Failure Nat)}

theorem found_of_stands (stands : List.Forall₂ (Poll.Stands consumer) polls tasks)
    (found : tasks[number]? = some task) :
    ∃ poll, polls[number]? = some poll ∧ poll.Stands consumer task := by
  induction stands generalizing number with
  | nil => simp at found
  | cons first _ inductionHypothesis =>
      cases number with
      | zero =>
          obtain rfl := Option.some.inj found
          exact ⟨_, rfl, first⟩
      | succ number => exact inductionHypothesis found

theorem stands_set (stands : List.Forall₂ (Poll.Stands consumer) polls tasks)
    (now : poll.Stands consumer task) :
    List.Forall₂ (Poll.Stands consumer) (polls.set number poll) (tasks.set number task) := by
  induction stands generalizing number with
  | nil => exact .nil
  | cons first others inductionHypothesis =>
      cases number with
      | zero => exact .cons now others
      | succ number => exact .cons first inductionHypothesis

theorem over_of_finished (stands : List.Forall₂ (Poll.Stands consumer) polls tasks)
    (finished : ∀ task ∈ tasks, ∃ result, task = .finished result) :
    ∀ poll ∈ polls, poll.IsOver := by
  induction stands with
  | nil => simp
  | cons first _ inductionHypothesis =>
      obtain ⟨own, others⟩ := List.forall_mem_cons.mp finished
      refine List.forall_mem_cons.mpr ⟨?_, inductionHypothesis others⟩
      obtain ⟨result, rfl⟩ := own
      cases first with
      | complete batch => rfl

end

variable {schedule later : Schedule}

theorem Accounts.start (routes : consumer.Routes) (sound : Sound consumer polling claims source)
    (accounts : Accounts consumer polling schedule)
    (fresh : (schedule.start consumer).known.Nodup) :
    ∃ next, Runs consumer polling next ∧ Accounts consumer next (schedule.start consumer) := by
  obtain ⟨after, ends, _⟩ := PollingConsumer.ends_claim sound.books.shows sound.books.memory
  obtain ⟨batch, same⟩ : ∃ batch, batch =
      (PollingConsumer.claimBatch consumer.config.maximumItems 0 claims source.items).1 := ⟨_, rfl⟩
  rw [← same] at ends
  have step := Step.claims ends.advance
  have advance : consumer.pollOnce.advance schedule.broker =
      (consumer.remaining batch 0).advance after := by
    rw [PollingConsumer.pollOnce_eq, ← accounts.broker]
    exact ends.advance_bind
  have known : (schedule.start consumer).known =
      polling.known ++ (consumer.remaining batch 0).changes consumer.added after := by
    rw [Schedule.start, accounts.known, PollingConsumer.pollOnce_eq, ← accounts.broker]
    exact congrArg (_ ++ ·) ends.changes_bind
  rw [known] at fresh
  obtain ⟨claims, source, claimed⟩ :=
    sound.step routes step (fresh.sublist (List.sublist_append_left _ _))
  have found : (polling.polls ++ [{ batch := batch }])[polling.polls.length]? =
      some ⟨batch, 0, none⟩ := by simp
  obtain ⟨next, now, runs, sameBroker, polls, sameKnown, stands⟩ :=
    traces_remaining routes claimed found fresh
  refine ⟨next, .head step runs, ?_, ?_, ?_⟩
  · rw [sameBroker, Schedule.start, advance]
  · rw [sameKnown, known]
  · have last : next.polls = polling.polls ++ [now] := by
      rw [polls]
      simp
    rw [last, Schedule.start, advance]
    exact List.rel_append accounts.stands (.cons stands .nil)

theorem Accounts.goOn (routes : consumer.Routes) (sound : Sound consumer polling claims source)
    (accounts : Accounts consumer polling schedule)
    (fresh : (schedule.goOn consumer number).known.Nodup) :
    ∃ next, Runs consumer polling next ∧
      Accounts consumer next (schedule.goOn consumer number) := by
  unfold Schedule.goOn at fresh ⊢
  cases found : schedule.tasks[number]? with
  | none => exact ⟨polling, .refl, accounts⟩
  | some task =>
      cases task with
      | finished value => exact ⟨polling, .refl, accounts⟩
      | waiting span rest =>
          rw [found] at fresh
          obtain ⟨poll, foundPoll, stands⟩ := found_of_stands accounts.stands found
          cases stands with
          | underway foundItem =>
              dsimp only at fresh
              rw [← accounts.broker, ← accounts.known] at fresh
              obtain ⟨next, now, runs, broker, polls, known, stands⟩ :=
                traces_routing routes sound foundPoll foundItem fresh
                  fun ended foundNext others => traces_remaining routes ended foundNext others
              refine ⟨next, runs, ?_, ?_, ?_⟩
              · rw [broker, accounts.broker]
              · rw [known, accounts.broker, accounts.known]
              · rw [polls, ← accounts.broker]
                exact stands_set accounts.stands stands

theorem Accounts.turn {after : Broker} (accounts : Accounts consumer polling schedule)
    (leaves : consumer.Leaves schedule.broker after) :
    ∃ next, Runs consumer polling next ∧
      Accounts consumer next (schedule.turn consumer after) := by
  rw [← accounts.broker] at leaves
  refine ⟨_, .single (.meanwhile leaves), rfl, ?_, accounts.stands⟩
  rw [Schedule.turn, ← accounts.broker, ← accounts.known]

theorem Accounts.step (routes : consumer.Routes) (sound : Sound consumer polling claims source)
    (accounts : Accounts consumer polling schedule)
    (step : Schedule.Step consumer schedule later) (fresh : later.known.Nodup) :
    ∃ next, Runs consumer polling next ∧ Accounts consumer next later := by
  cases step with
  | start => exact accounts.start routes sound fresh
  | goOn number => exact accounts.goOn routes sound fresh
  | turn leaves => exact accounts.turn leaves

/-- Whatever a scheduler does, the polls do step by step. -/
theorem accounts_of_runs (routes : consumer.Routes) {broker : Broker}
    (shows : consumer.Shows broker [] source) (memory : source.mode = .memory)
    (runs : Schedule.Runs consumer (Schedule.outset consumer broker) schedule)
    (fresh : schedule.known.Nodup) :
    ∃ polling, Runs consumer (outset consumer broker) polling ∧
      Accounts consumer polling schedule := by
  induction runs with
  | refl => exact ⟨outset consumer broker, .refl, ⟨rfl, rfl, .nil⟩⟩
  | tail _ last inductionHypothesis =>
      have before := fresh.sublist last.known_prefix.sublist
      obtain ⟨polling, ran, accounts⟩ := inductionHypothesis before
      rw [← accounts.known] at before
      obtain ⟨claims, source, sound⟩ := (Sound.outset shows memory).runs routes ran before
      obtain ⟨next, goesOn, following⟩ := accounts.step routes sound last fresh
      exact ⟨next, ran.trans goesOn, following⟩

/-- Just after the end of an item its key is free, and the item is on offer exactly if it failed. -/
def Settles (consumer : PollingConsumer) (polling : Polling) (key : String) (failed : Bool) :
    Prop :=
  ∃ claims source, consumer.Shows polling.broker claims source ∧ key ∉ claims ∧
    (key ∈ source.items.map PolledItem.key ↔ failed = true)

/-- Polls of one consumer over a source in memory, in any order and with further items put on offer
at any time: behind whatever a scheduler does there are steps of the polls such that no item is
routed twice at any moment, each end of an item settles it, and without a poll that still runs there
are no claims. -/
theorem exclusive_of_schedule (routes : consumer.Routes) {broker : Broker}
    (shows : consumer.Shows broker [] source) (memory : source.mode = .memory)
    (runs : Schedule.Runs consumer (Schedule.outset consumer broker) schedule)
    (distinct : schedule.known.Nodup) :
    ∃ polling, Runs consumer (outset consumer broker) polling ∧
      Accounts consumer polling schedule ∧
      (∀ moment, Runs consumer (outset consumer broker) moment → Runs consumer moment polling →
        ∃ claims source, Exclusive consumer moment claims source) ∧
      (∀ moment next number key failed, Runs consumer (outset consumer broker) moment →
        Step consumer moment next → Runs consumer next polling →
        next.history = moment.history ++ [.ended number key failed] →
        Settles consumer next key failed) ∧
      ((∀ task ∈ schedule.tasks, ∃ result, task = .finished result) →
        schedule.broker.claims.get? consumer.claims = some []) := by
  obtain ⟨polling, ran, accounts⟩ := accounts_of_runs routes shows memory runs distinct
  have fresh : polling.known.Nodup := by
    rw [accounts.known]
    exact distinct
  have sound : ∀ {moment}, Runs consumer (outset consumer broker) moment →
      Runs consumer moment polling → ∃ claims source, Sound consumer moment claims source :=
    fun before after => (Sound.outset shows memory).runs routes before
      (fresh.sublist after.known_prefix.sublist)
  refine ⟨polling, ran, accounts, ?_, ?_, ?_⟩
  · intro moment before after
    obtain ⟨claims, source, sound⟩ := sound before after
    exact ⟨claims, source, sound.exclusive⟩
  · intro moment next number key failed before step after last
    obtain ⟨claims, source, sound⟩ := sound before (.head step after)
    exact sound.ended step (fresh.sublist after.known_prefix.sublist) last
  · intro finished
    obtain ⟨claims, source, sound⟩ := sound ran .refl
    have nothing : claims = [] := sound.exclusive.idle (over_of_finished accounts.stands finished)
    rw [← accounts.broker, ← nothing]
    exact sound.books.shows.claims

/-! ## Two polls that overlap -/

/-- A step that takes its time. -/
def pausing : Processor :=
  .silent "pausing" fun exchange => do
    Routine.wait (.ofMillis 50)
    return exchange

def refusing : Processor :=
  .ofFunction "refusing" fun exchange =>
    (exchange, if exchange.inbound.id = "second" then some (.plain "refused") else none)

def hesitant : PollingConsumer where
  uri := "memory:in"
  source := 0
  claims := 0
  processor := .pipeline "route" [pausing, refusing]
  config := { maximumItems := 1 }

def offering : PollSource where
  items := [⟨"a", { id := "first" }⟩, ⟨"b", { id := "second" }⟩]

/-- Two polls begin to route an item each, a third item is put on offer, both polls end, and a third
poll takes the item that failed. -/
def overlapping : Schedule :=
  let outset := Schedule.outset hesitant { sources := ⟨[offering]⟩, claims := ⟨[[]]⟩ }
  let routing := (outset.start hesitant).start hesitant
  let pushed := routing.turn hesitant (hesitant.push "c" { id := "third" } routing.broker)
  ((pushed.goOn hesitant 0).goOn hesitant 1).start hesitant

theorem passes_pausing (claims : Nat) : pausing.Passes (Exchange.Keeps claims) := by
  intro before after given
  unfold pausing at given
  rw [Processor.invoke_silent] at given
  obtain ⟨_, _, returned⟩ := Routine.gives_bind.mp given
  obtain rfl := Routine.gives_pure.mp returned
  exact (passage_keeps claims).still rfl

theorem passes_refusing (claims : Nat) : refusing.Passes (Exchange.Keeps claims) := by
  intro before after given
  obtain ⟨ended, processed, rfl⟩ := Processor.gives_invoke.mp given
  obtain rfl := Routine.gives_pure.mp processed
  exact (passage_keeps claims).still (Exchange.unitOfWork_recording before _)

theorem routes_hesitant : hesitant.Routes := by
  refine routes_pipeline rfl ?_ ?_
  · intro step member
    rcases List.mem_pair.mp member with rfl | rfl
    · exact .single (passes_pausing 0)
    · exact .single (passes_refusing 0)
  · intro step member exchange broker
    rcases List.mem_pair.mp member with rfl | rfl
    · exact fun _ => trivial
    · trivial

/-- The item that did not fail is gone, and the one that failed is taken again while an item that
was put on offer waits for its turn. -/
theorem exclusive_of_schedule_overlapping :
    overlapping.known = ["a", "b", "c"] ∧
      ∃ polling, Runs hesitant (outset hesitant { sources := ⟨[offering]⟩, claims := ⟨[[]]⟩ })
          polling ∧
        Accounts hesitant polling overlapping ∧
        Exclusive hesitant polling ["b"]
          { items := [⟨"b", { id := "second" }⟩, ⟨"c", { id := "third" }⟩] } := by
  have runs : Schedule.Runs hesitant
      (Schedule.outset hesitant { sources := ⟨[offering]⟩, claims := ⟨[[]]⟩ }) overlapping :=
    .tail (.tail (.tail (.tail (.tail (.single .start) .start)
      (.turn (PollingConsumer.leaves_push _ "c" { id := "third" }))) (.goOn 0)) (.goOn 1)) .start
  have known : overlapping.known = ["a", "b", "c"] := rfl
  have distinct : overlapping.known.Nodup := by
    rw [known]
    decide
  have left : hesitant.Shows overlapping.broker ["b"]
      { items := [⟨"b", { id := "second" }⟩, ⟨"c", { id := "third" }⟩] } := ⟨rfl, rfl⟩
  obtain ⟨polling, ran, accounts, moments, _⟩ :=
    exclusive_of_schedule routes_hesitant ⟨rfl, rfl⟩ rfl runs distinct
  obtain ⟨claims, source, exclusive⟩ := moments polling ran .refl
  rw [← accounts.broker] at left
  obtain rfl := Option.some.inj (exclusive.shows.claims.symm.trans left.claims)
  obtain rfl := Option.some.inj (exclusive.shows.source.symm.trans left.source)
  exact ⟨known, polling, ran, accounts, exclusive⟩

end Polling

end MessageRouting
